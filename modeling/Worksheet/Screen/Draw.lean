import Worksheet.Editor.Basic
import Worksheet.Screen.Layout
import Worksheet.Screen.Style

/-!
# Drawing the editor

A screen shows the editor in lines of equal width: three lines of formula bar, the grid with its
border, and the status line.  Before it is rendered the editor takes over the size of the screen
(`resized`), which may scroll it.
-/

namespace Worksheet.Editor

open Glyph

/-- Takes over the number of cells that fit on a screen, and scrolls to the cursor. -/
def resized (e : Editor) (width height : Nat) : Editor :=
  { e with
    visibleRows := Layout.visibleRows height
    visibleCols := Layout.visibleCols width e.columnWidth }.follow

/-! ### Boxes -/

/-- The upper border of a box, with a title in it. -/
def boxTop (style : Style) (width : Nat) (title : List Char) : List Glyph :=
  let title := title.take (width - 2)
  ofChars style ('┌' :: (title ++ List.replicate (width - 2 - title.length) '─' ++ ['┐']))

/-- The lower border of a box. -/
def boxBottom (style : Style) (width : Nat) : List Glyph :=
  ofChars style ('└' :: (List.replicate (width - 2) '─' ++ ['┘']))

/-- A line between the sides of a box, filled up or cut to its width. -/
def boxLine (style : Style) (width : Nat) (inside : List Glyph) : List Glyph :=
  let inside := inside.take (width - 2)
  ⟨['│'], style⟩ :: (inside ++ blanks {} (width - 2 - inside.length) ++ [⟨['│'], style⟩])

/-! ### The formula bar -/

/-- A text field with a bar at its cursor. -/
def withCursor (f : Field) : List Char := f.before ++ '│' :: f.after

/-- The text in the formula bar. -/
def barText (e : Editor) : List Char :=
  let name := e.cursor.nameChars ++ [':', ' ']
  match e.mode with
  | .edit => name ++ withCursor e.entry
  | .command => ':' :: withCursor e.command
  | .normal => name ++ (e.current?.elim "(empty)" Value.display).toList

/-- The title of the formula bar. -/
def barTitle : Mode → String
  | .normal => " Cell "
  | .edit => " Edit "
  | .command => " Command "

/-- The style of the border of the formula bar. -/
def barStyle : Mode → Style
  | .normal => { foreground := some .white }
  | .edit => { foreground := some .yellow }
  | .command => { foreground := some .cyan }

/-- The lines of the formula bar. -/
def bar (e : Editor) (width : Nat) : List (List Glyph) :=
  let style := barStyle e.mode
  [boxTop style width (barTitle e.mode).toList,
    boxLine style width (ofLine {} (width - 2) (firstLine e.barText)),
    boxBottom style width]

/-! ### The grid -/

/-- The indices shown from an offset on: as many as are visible, but none past the last. -/
def shown (offset visible count : Nat) : List Nat :=
  (List.range (min visible (count - offset))).map (offset + ·)

/-- The rows shown. -/
def shownRows (e : Editor) : List Nat := shown e.viewport.row e.visibleRows e.document.rows

/-- The columns shown. -/
def shownCols (e : Editor) : List Nat := shown e.viewport.col e.visibleCols e.document.cols

/-- The style of a row number or of column letters. -/
def headerStyle (active : Bool) : Style :=
  if active then { foreground := some .black, background := some .white, bold := true }
  else { foreground := some .darkGray }

/-- The style of a cell. -/
def cellStyle (e : Editor) (p : Position) : Style :=
  if p = e.cursor then { foreground := some .black, background := some .cyan, bold := true }
  else if (e.document.get? p).any Value.isFault then { foreground := some .red }
  else {}

/-- A text in a grid column. -/
def inColumn (style : Style) (width : Nat) (cs : List Char) : List Glyph :=
  ofCell style width (firstLine cs)

/-- A line of the grid: something for the row numbers, and something for every column. -/
def gridLine (e : Editor) (number : List Glyph) (cell : Nat → List Glyph) : List Glyph :=
  number ++ e.shownCols.flatMap fun col => blanks {} Layout.gapWidth ++ cell col

/-- The line of column letters. -/
def headerLine (e : Editor) : List Glyph :=
  e.gridLine (blanks {} Layout.rowNumberWidth) fun col =>
    inColumn (headerStyle (col == e.cursor.col)) e.columnWidth (columnLetters col)

/-- The line of a row. -/
def rowLine (e : Editor) (row : Nat) : List Glyph :=
  e.gridLine
    (inColumn (headerStyle (row == e.cursor.row)) Layout.rowNumberWidth (Text.digits (row + 1)))
    fun col =>
      let p : Position := ⟨row, col⟩
      inColumn (e.cellStyle p) e.columnWidth (e.document.display p).toList

/-- The lines of the grid. -/
def gridLines (e : Editor) (width height : Nat) : List (List Glyph) :=
  let inside := (e.headerLine :: e.shownRows.map e.rowLine).take (height - 2)
  let filled := inside ++ List.replicate (height - 2 - inside.length) []
  boxTop {} width " Zingsheet ".toList :: (filled.map (boxLine {} width) ++ [boxBottom {} width])

/-! ### The status line -/

/-- The word for a mode. -/
def modeWord : Mode → String
  | .normal => "NORMAL"
  | .edit => "EDIT"
  | .command => "COMMAND"

/-- What the status line says without a message. -/
def hint : String := "Enter: edit  r/R: rows  c/C: cols  u: undo  :q quit"

/-- The text of the status line. -/
def statusText (e : Editor) : String :=
  " " ++ modeWord e.mode ++ " | " ++ toString e.document.rows ++ "x" ++
    toString e.document.cols ++ (if e.document.modified then " [+]" else "") ++ " | " ++
    (if e.status = "" then hint else e.status)

/-- The style of the status line. -/
def statusStyle (e : Editor) : Style :=
  { foreground := some (if e.status = "" then .darkGray else .yellow) }

/-- The status line. -/
def statusLine (e : Editor) (width : Nat) : List Glyph :=
  ofLine e.statusStyle width (firstLine e.statusText.toList)

/-! ### The screen -/

/-- The lines of a screen that shows the editor as it is. -/
def render (e : Editor) (width height : Nat) : List (List Glyph) :=
  (e.bar width ++ e.gridLines width (Layout.gridHeight height) ++ [e.statusLine width]).map
    (Glyph.visible false)

end Worksheet.Editor
