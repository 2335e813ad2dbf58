import Worksheet.Document.Operation
import Worksheet.Editor.Event
import Worksheet.Main
import Worksheet.Proofs.Document.Archive
import Worksheet.Proofs.Document.Naming
import Worksheet.Proofs.Editor.Cursor
import Worksheet.Proofs.Editor.Edit
import Worksheet.Proofs.Editor.Frame
import Worksheet.Proofs.Editor.Gap
import Worksheet.Proofs.Editor.Fields
import Worksheet.Proofs.Editor.Viewport
import Worksheet.Proofs.Editor.Typing
import Worksheet.Proofs.Number.Rounding
import Worksheet.Proofs.Number.Nearest
import Worksheet.Proofs.Number.Numeral
import Worksheet.Proofs.Number.Longest
import Worksheet.Proofs.Number.Shortest
import Worksheet.Proofs.Number.Fewest
import Worksheet.Proofs.Number.Display
import Worksheet.Proofs.Number.Layout
import Worksheet.Proofs.Formula.Retyping
import Worksheet.Proofs.Formula.LetterCase
import Worksheet.Proofs.Formula.LiteralValue
import Worksheet.Proofs.Formula.CellName
import Worksheet.Proofs.Cell.Key
import Worksheet.Proofs.Document.Dump
import Worksheet.Proofs.Document.Snapshot
import Worksheet.Proofs.Cell.Address
import Worksheet.Proofs.Document.Table
import Worksheet.Proofs.Batch.Assign
import Worksheet.Proofs.Batch.Commutation
import Worksheet.Proofs.Document.Transcript
import Worksheet.Proofs.Launch.SheetSize
import Worksheet.Proofs.Screen.Pointer
import Worksheet.Proofs.Screen.Shape
import Worksheet.Proofs.Screen.Arithmetic
import Worksheet.Proofs.Screen.Cells
import Worksheet.Proofs.Document.InPlace
import Worksheet.Proofs.Batch.Completion
import Worksheet.Proofs.Editor.Commands
