import Worksheet.Editor.Basic
import Worksheet.Screen.Layout

/-!
# The pointer

A press of the left button on a cell moves the cursor there.  `cellAt?` finds the cell under a point
of the screen from the rectangle of the grid: nothing is under the border, the header line, the row
numbers and the gaps between the columns.
-/

namespace Worksheet.Editor

open Layout

/-- The first screen column of the cells, after the border, the row numbers and a gap. -/
def firstCellX (grid : Rect) : UInt16 :=
  saturatingAdd grid.x 1 + UInt16.ofNat rowNumberWidth + UInt16.ofNat gapWidth

/-- The first screen line of the cells, after the border and the header line. -/
def firstCellY (grid : Rect) : UInt16 := saturatingAdd grid.y 2

/-- The distance between the starts of two neighbouring columns. -/
def stride (columnWidth : Nat) : UInt16 := UInt16.ofNat columnWidth + UInt16.ofNat gapWidth

/-- The cell under a point of the screen. -/
def cellAt? (e : Editor) (grid : Rect) (x y : UInt16) : Option Position :=
  let right := saturatingAdd grid.x (saturatingSub grid.width 1)
  let bottom := saturatingAdd grid.y (saturatingSub grid.height 1)
  if y < firstCellY grid ∨ bottom ≤ y ∨ right ≤ x then none
  else
    let row := e.viewport.row + (y - firstCellY grid).toNat
    if e.document.rows ≤ row ∨ x < firstCellX grid then none
    else
      let inside := x - firstCellX grid
      if UInt16.ofNat e.columnWidth ≤ inside % stride e.columnWidth then none
      else
        let col := e.viewport.col + (inside / stride e.columnWidth).toNat
        if e.document.cols ≤ col then none else some ⟨row, col⟩

/-- The pointer on a screen of a size.  A press of the left button commits an edit first, as
leaving the cell does; while a command is typed it does nothing. -/
def point (e : Editor) (width height : UInt16) (event : PointerEvent) : Editor :=
  if event.action ≠ .press .left then e
  else
    let e := if e.mode = .edit then e.commitEdit else e
    if e.mode ≠ .normal then e
    else
      match e.cellAt? (Layout.grid width height) event.x event.y with
      | some p => e.moveTo p
      | none => e

end Worksheet.Editor
