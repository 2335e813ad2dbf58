import Worksheet.Cell.Position
import Worksheet.Cell.Value

/-!
# The grid

A grid is a finite map from positions to values.  It keeps its cells in no particular order, each
position at most once; a cell without an entry is not the same as a cell that holds an empty value.

`get?` is the view of a grid.  `get?_insert` and `get?_erase` say what the two updates do to it.
-/

namespace Worksheet

/-- A finite map from positions to values. -/
structure Grid where
  /-- The entries, in any order. -/
  cells : List (Position × Value)
  /-- No position has two entries. -/
  nodup : (cells.map Prod.fst).Nodup

namespace Grid

/-- The grid without entries. -/
def empty : Grid := ⟨[], List.nodup_nil⟩

instance : Inhabited Grid := ⟨empty⟩

/-- The number of entries. -/
def size (g : Grid) : Nat := g.cells.length

/-- The value stored at a position, if there is one. -/
def get? (g : Grid) (p : Position) : Option Value := g.cells.lookup p

/-- The grid without an entry at a position. -/
def erase (g : Grid) (p : Position) : Grid where
  cells := g.cells.filter fun e => e.1 != p
  nodup := g.nodup.sublist (List.filter_sublist.map Prod.fst)

/-- The grid with a value at a position, in place of any earlier one. -/
def insert (g : Grid) (p : Position) (v : Value) : Grid where
  cells := (p, v) :: (g.erase p).cells
  nodup := by
    refine List.nodup_cons.mpr ⟨?_, (g.erase p).nodup⟩
    simp [erase]

/-- The grid with an entry written, or removed. -/
def restore (g : Grid) (p : Position) : Option Value → Grid
  | some v => g.insert p v
  | none => g.erase p

/-- The grid with the entries of a list; a later entry replaces an earlier one at its position. -/
def ofList (cells : List (Position × Value)) : Grid :=
  cells.foldl (fun g e => g.insert e.1 e.2) empty

/-- Nothing is stored in the empty grid. -/
@[simp] theorem get?_empty (p : Position) : empty.get? p = none := rfl

/-- Dropping the entries of one position from an association list affects that position only. -/
private theorem lookup_filter_ne (cells : List (Position × Value)) (p q : Position) :
    (cells.filter fun e => e.1 != p).lookup q = if q = p then none else cells.lookup q := by
  induction cells with
  | nil => simp
  | cons e cells ih =>
    obtain ⟨r, v⟩ := e
    by_cases hr : r = p
    · subst hr
      rw [List.filter_cons_of_neg (by simp), ih]
      by_cases hq : q = r
      · rw [if_pos hq, if_pos hq]
      · rw [if_neg hq, if_neg hq, List.lookup_cons, beq_eq_false_iff_ne.mpr hq]
    · rw [List.filter_cons_of_pos (by simpa using hr), List.lookup_cons, List.lookup_cons, ih]
      by_cases hq : q = r
      · subst hq
        simp [hr]
      · rw [beq_eq_false_iff_ne.mpr hq]

/-- Removing an entry affects its position only. -/
@[simp] theorem get?_erase (g : Grid) (p q : Position) :
    (g.erase p).get? q = if q = p then none else g.get? q :=
  lookup_filter_ne g.cells p q

/-- Storing a value affects its position only. -/
@[simp] theorem get?_insert (g : Grid) (p q : Position) (v : Value) :
    (g.insert p v).get? q = if q = p then some v else g.get? q := by
  have h := lookup_filter_ne g.cells p q
  by_cases hq : q = p
  · subst hq
    simp [get?, insert]
  · simp only [get?, insert, erase, List.lookup_cons, beq_eq_false_iff_ne.mpr hq, h, hq,
      if_false]

/-- Restoring a position affects that position only. -/
@[simp] theorem get?_restore (g : Grid) (p q : Position) (v : Option Value) :
    (g.restore p v).get? q = if q = p then v else g.get? q := by
  cases v <;> simp [restore]

end Grid

end Worksheet
