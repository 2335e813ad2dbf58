/-!
# The layout of the screen

From top to bottom the screen holds the formula bar, the grid and the status line.  The bar and the
grid have a border.  Inside its border the grid has a header line, a column of row numbers, and the
cells, with a one-column gap before each of them.

Screen coordinates are 16-bit words; sums that could leave them stop at the largest word.
-/

namespace Worksheet

/-- A rectangle on the screen. -/
structure Rect where
  /-- The leftmost column. -/
  x : UInt16
  /-- The topmost line. -/
  y : UInt16
  /-- The number of columns. -/
  width : UInt16
  /-- The number of lines. -/
  height : UInt16
deriving DecidableEq, Repr

namespace Layout

/-- The height of the formula bar. -/
def barHeight : Nat := 3

/-- The least height of the grid. -/
def minGridHeight : Nat := 5

/-- The height of the status line. -/
def statusHeight : Nat := 1

/-- The width of the column of row numbers. -/
def rowNumberWidth : Nat := 5

/-- The width of the gap before a cell. -/
def gapWidth : Nat := 1

/-- The height of the grid on a screen of a height.  The bar and the status line come first, but
the grid keeps its least height as long as the screen has it. -/
def gridHeight (height : Nat) : Nat :=
  max (height - (barHeight + statusHeight)) (min height minGridHeight)

/-- The line at which the grid starts. -/
def gridTop (height : Nat) : Nat := min barHeight (height - gridHeight height)

/-- The rectangle of the grid on a screen. -/
def grid (width height : UInt16) : Rect where
  x := 0
  y := UInt16.ofNat (gridTop height.toNat)
  width := width
  height := UInt16.ofNat (gridHeight height.toNat)

/-- The number of grid rows that a screen of a height shows. -/
def visibleRows (height : Nat) : Nat := max (gridHeight height - 3) 1

/-- The number of grid columns that a screen of a width shows; a column that does not fit as a
whole is not shown. -/
def visibleCols (width columnWidth : Nat) : Nat :=
  max ((width - (rowNumberWidth + 2)) / (columnWidth + gapWidth)) 1

/-- The sum of two coordinates, at most the largest one. -/
def saturatingAdd (a b : UInt16) : UInt16 :=
  if a.toNat + b.toNat < UInt16.size then a + b else UInt16.ofNat (UInt16.size - 1)

/-- The difference of two coordinates, at least zero. -/
def saturatingSub (a b : UInt16) : UInt16 := if b ≤ a then a - b else 0

end Layout

end Worksheet
