import Worksheet.Cell.Position
import Worksheet.Text.Digits

/-!
# Cell keys

A key is the machine-readable form of a position: the zero-based row and column, in decimal, with a
hyphen between them.
-/

namespace Worksheet.Position

/-- The characters of a key. -/
def keyChars (p : Position) : List Char := Text.digits p.row ++ '-' :: Text.digits p.col

/-- The key of a cell. -/
def key (p : Position) : String := String.ofList p.keyChars

/-- Reads a key: two runs of digits around the first hyphen, each a machine word. -/
def ofKeyChars? (cs : List Char) : Option Position :=
  match cs.dropWhile (· != '-') with
  | [] => none
  | _ :: col => do
    let row ← Text.word? (cs.takeWhile (· != '-'))
    let col ← Text.word? col
    return ⟨row, col⟩

/-- Reads a key given as a string. -/
def ofKey? (s : String) : Option Position := ofKeyChars? s.toList

end Worksheet.Position
