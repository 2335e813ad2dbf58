import Mathlib
import Worksheet.Proofs.Screen.Pointer
import Worksheet.Proofs.Settings.Load

/-!
# The arithmetic of the pointer

Screen coordinates are 16-bit words, and the operations on words wrap.  Here are the operations that
give nothing instead, and the computations of the pointer made of them.  `Editor.checkedPoint?` has
a result only if no sum leaves the words, no larger word is taken from a smaller one, the column
width is a word and no divisor is zero.

Three facts make that so: what is subtracted was compared before, the grid starts at the left border
of the screen, and the column width is at most forty, whatever the settings file says
(`Settings.columnWidth_load_range`).
-/

namespace Worksheet

/-! ### Words -/

namespace Layout

variable {a b : UInt16}

/-- The sum of two words, if it is a word. -/
def add? (a b : UInt16) : Option UInt16 :=
  if a.toNat + b.toNat < UInt16.size then some (a + b) else none

/-- The difference of two words, unless a larger one is taken from a smaller one. -/
def sub? (a b : UInt16) : Option UInt16 := if b ≤ a then some (a - b) else none

/-- The quotient of two words, unless the divisor is zero. -/
def div? (a b : UInt16) : Option UInt16 := if b = 0 then none else some (a / b)

/-- The remainder of two words, unless the divisor is zero. -/
def mod? (a b : UInt16) : Option UInt16 := if b = 0 then none else some (a % b)

/-- A number as a word, if it is one. -/
def ofNat? (n : ℕ) : Option UInt16 := if n < UInt16.size then some (UInt16.ofNat n) else none

lemma add?_of_lt (h : a.toNat + b.toNat < UInt16.size) : add? a b = some (a + b) := if_pos h

lemma sub?_of_le (h : b ≤ a) : sub? a b = some (a - b) := if_pos h

lemma div?_of_ne (h : b ≠ 0) : div? a b = some (a / b) := if_neg h

lemma mod?_of_ne (h : b ≠ 0) : mod? a b = some (a % b) := if_neg h

lemma ofNat?_of_lt {n : ℕ} (h : n < UInt16.size) : ofNat? n = some (UInt16.ofNat n) := if_pos h

end Layout

namespace Editor

open Layout

variable {e : Editor} {grid : Rect}

/-! ### Checked computations -/

/-- The first screen column of the cells, if it is a word. -/
def firstCellX? (grid : Rect) : Option UInt16 := do
  let x ← add? (saturatingAdd grid.x 1) (UInt16.ofNat rowNumberWidth)
  add? x (UInt16.ofNat gapWidth)

/-- The distance between the starts of two neighbouring columns, if it is a word. -/
def stride? (columnWidth : ℕ) : Option UInt16 := do
  let width ← ofNat? columnWidth
  add? width (UInt16.ofNat gapWidth)

/-- The cell under a point of the screen, unless a step of its computation fails. -/
def checkedCellAt? (e : Editor) (grid : Rect) (x y : UInt16) : Option (Option Position) := do
  let right := saturatingAdd grid.x (saturatingSub grid.width 1)
  let bottom := saturatingAdd grid.y (saturatingSub grid.height 1)
  if y < firstCellY grid ∨ bottom ≤ y ∨ right ≤ x then return none
  let line ← sub? y (firstCellY grid)
  let row := e.viewport.row + line.toNat
  if e.document.rows ≤ row then return none
  let first ← firstCellX? grid
  if x < first then return none
  let columnWidth ← ofNat? e.columnWidth
  let step ← stride? e.columnWidth
  let inside ← sub? x first
  if columnWidth ≤ (← mod? inside step) then return none
  let col := e.viewport.col + (← div? inside step).toNat
  if e.document.cols ≤ col then return none
  return some ⟨row, col⟩

/-- What a press does to an editor whose grid is drawn in a rectangle. -/
def pointOn (e : Editor) (grid : Rect) (event : PointerEvent) : Editor :=
  if event.action ≠ .press .left then e
  else
    let e := if e.mode = .edit then e.commitEdit else e
    if e.mode ≠ .normal then e
    else
      match e.cellAt? grid event.x event.y with
      | some p => e.moveTo p
      | none => e

/-- What a press does, unless a step of the computation fails. -/
def checkedPoint? (e : Editor) (grid : Rect) (event : PointerEvent) : Option Editor :=
  if event.action ≠ .press .left then some e
  else
    let e := if e.mode = .edit then e.commitEdit else e
    if e.mode ≠ .normal then some e
    else do
      match ← e.checkedCellAt? grid event.x event.y with
      | some p => follow? { e with cursor := p }
      | none => return e

lemma point_eq_pointOn (e : Editor) (width height : UInt16) (event : PointerEvent) :
    e.point width height event = e.pointOn (Layout.grid width height) event := rfl

/-! ### No step fails -/

/-- A grid that starts at the left border leaves room for the row numbers. -/
lemma firstCellX?_of_zero (h : grid.x = 0) : firstCellX? grid = some (firstCellX grid) := by
  rw [firstCellX?, firstCellX, h]
  rfl

lemma stride?_of_le {columnWidth : ℕ} (h : columnWidth ≤ 40) :
    stride? columnWidth = some (stride columnWidth) := by
  have hword : columnWidth < UInt16.size := by rw [UInt16.size]; omega
  have hsum : (UInt16.ofNat columnWidth).toNat + (UInt16.ofNat gapWidth).toNat < UInt16.size := by
    rw [toNat_columnWidth h, UInt16.size]
    change columnWidth + 1 < 65536
    omega
  rw [stride?, ofNat?_of_lt hword, Option.bind_eq_bind, Option.bind_some, add?_of_lt hsum, stride]

lemma stride_ne_zero {columnWidth : ℕ} (h : columnWidth ≤ 40) : stride columnWidth ≠ 0 := by
  intro hzero
  have hnat : (stride columnWidth).toNat = 0 := by rw [hzero]; rfl
  rw [toNat_stride h] at hnat
  omega

/-- No step of the search for a cell fails. -/
lemma checkedCellAt?_eq (hwidth : e.columnWidth ≤ 40) (hgrid : grid.x = 0) (x y : UInt16) :
    e.checkedCellAt? grid x y = some (e.cellAt? grid x y) := by
  have hword : e.columnWidth < UInt16.size := by rw [UInt16.size]; omega
  have hstride := stride_ne_zero hwidth
  unfold checkedCellAt? cellAt?
  dsimp only
  split
  · rfl
  · next houtside =>
    have hy : firstCellY grid ≤ y := by
      rw [not_or, UInt16.not_lt] at houtside
      exact houtside.1
    rw [sub?_of_le hy, firstCellX?_of_zero hgrid, ofNat?_of_lt hword, stride?_of_le hwidth]
    simp only [Option.bind_eq_bind, Option.bind_some]
    by_cases hrow : e.document.rows ≤ e.viewport.row + (y - firstCellY grid).toNat
    · rw [if_pos hrow, if_pos (Or.inl hrow)]
      rfl
    · rw [if_neg hrow]
      by_cases hx : x < firstCellX grid
      · rw [if_pos hx, if_pos (Or.inr hx)]
        rfl
      · rw [if_neg hx, if_neg (not_or.mpr ⟨hrow, hx⟩), sub?_of_le (UInt16.not_lt.mp hx)]
        simp only [Option.bind_some, mod?_of_ne hstride, div?_of_ne hstride]
        split
        · rfl
        · split <;> rfl

lemma columnWidth_commitEdit (e : Editor) : e.commitEdit.columnWidth = e.columnWidth :=
  (keeps_commitText _ _).columnWidth

/-- No step of a press fails. -/
lemma checkedPoint?_eq (hwidth : e.columnWidth ≤ 40) (hgrid : grid.x = 0) (event : PointerEvent) :
    e.checkedPoint? grid event = some (e.pointOn grid event) := by
  unfold checkedPoint? pointOn
  split
  · rfl
  · dsimp only
    have hcommit : (if e.mode = .edit then e.commitEdit else e).columnWidth ≤ 40 := by
      split
      · rwa [columnWidth_commitEdit]
      · exact hwidth
    generalize (if e.mode = .edit then e.commitEdit else e) = e' at hcommit ⊢
    split
    · rfl
    · rw [checkedCellAt?_eq hcommit hgrid, Option.bind_eq_bind, Option.bind_some]
      cases e'.cellAt? grid event.x event.y with
      | none => rfl
      | some p => exact follow?_eq _

/-! ### Sessions -/

/-- In every state of a session, whatever the settings file holds, the column width is a word and
columns are some distance apart.  No step of a press fails: not on the grid of a screen of any size,
and not on any other grid that starts at the left border. -/
theorem pointer_arithmetic (source : Settings.Source) (file : File) (d : Document)
    (events : List Event) :
    let e := (ofDocument d (Settings.load source file).1.columnWidth).steps events
    ((UInt16.ofNat e.columnWidth).toNat = e.columnWidth ∧ stride e.columnWidth ≠ 0) ∧
      (∀ width height event,
        e.checkedPoint? (Layout.grid width height) event = some (e.point width height event)) ∧
      ∀ grid : Rect, grid.x = 0 →
        (∀ x y, e.checkedCellAt? grid x y = some (e.cellAt? grid x y)) ∧
          ∀ event, e.checkedPoint? grid event = some (e.pointOn grid event) := by
  intro e
  have hwidth : e.columnWidth ≤ 40 := by
    rw [columnWidth_steps]
    exact (Settings.columnWidth_load_range source file).2
  refine ⟨⟨toNat_columnWidth hwidth, stride_ne_zero hwidth⟩, fun width height event => ?_,
    fun grid hgrid => ?_⟩
  · rw [point_eq_pointOn]
    exact checkedPoint?_eq hwidth rfl event
  · exact ⟨checkedCellAt?_eq hwidth hgrid, checkedPoint?_eq hwidth hgrid⟩

/-- A column width of five hundred is taken for forty.  At the lower end of the largest screen, the
second column starts right after the gap, and a press goes there. -/
theorem pointer_arithmetic_of_wide_column :
    let file := File.content "column_width = 500\n".toUTF8
    let e := (ofDocument .blank (Settings.load ⟨"config.toml", true⟩ file).1.columnWidth).steps
      [.draw 65535 65535, .key (.ofChar 'i')]
    let grid : Rect := ⟨0, 65000, 65535, 535⟩
    e.mode = .edit ∧ grid.x = 0 ∧ e.checkedCellAt? grid 47 65002 = some none ∧
      e.checkedCellAt? grid 48 65002 = some (some ⟨0, 1⟩) ∧
      (e.checkedPoint? grid ⟨.press .left, 48, 65002⟩).map cursor = some ⟨0, 1⟩ := by
  intro file e grid
  have hwidth : (Settings.load ⟨"config.toml", true⟩ file).1.columnWidth = 40 := by decide +kernel
  obtain ⟨hcell, hpoint⟩ := (pointer_arithmetic ⟨"config.toml", true⟩ file .blank
    [.draw 65535 65535, .key (.ofChar 'i')]).2.2 grid rfl
  change ∀ x y, e.checkedCellAt? grid x y = some (e.cellAt? grid x y) at hcell
  change ∀ event, e.checkedPoint? grid event = some (e.pointOn grid event) at hpoint
  have he : e = (ofDocument .blank 40).steps [.draw 65535 65535, .key (.ofChar 'i')] := by
    rw [← hwidth]
  rw [hcell, hcell, hpoint, he]
  exact ⟨by decide, rfl, by decide, by decide, by decide⟩

-- Without the range of the column width, and with a grid at the right border, steps can fail.
example : stride? 65535 = none ∧ firstCellX? ⟨65530, 0, 0, 0⟩ = none := by decide

end Editor

end Worksheet
