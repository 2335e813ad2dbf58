import Mathlib
import Worksheet.Cell.Grid

/-!
# Grids as functions

The view of a grid is a function on positions, and an update of a grid is an update of that function
at one position.  What is stored twice at a position is stored once.
-/

namespace Worksheet.Grid

/-- Storing a value changes the view at its position. -/
lemma get?_insert_eq_update (g : Grid) (p : Position) (v : Value) :
    (g.insert p v).get? = Function.update g.get? p (some v) := by
  funext q
  rw [get?_insert, Function.update_apply]

/-- Restoring a position changes the view at that position. -/
lemma get?_restore_eq_update (g : Grid) (p : Position) (v : Option Value) :
    (g.restore p v).get? = Function.update g.get? p v := by
  funext q
  rw [get?_restore, Function.update_apply]

/-- Of two values stored one after the other at a position only the second one is left. -/
lemma insert_insert (g : Grid) (p : Position) (v w : Value) :
    (g.insert p v).insert p w = g.insert p w := by
  have hcells : ((g.insert p v).erase p).cells = (g.erase p).cells := by simp [insert, erase]
  simp only [insert, mk.injEq] at hcells ⊢
  rw [hcells]

end Worksheet.Grid
