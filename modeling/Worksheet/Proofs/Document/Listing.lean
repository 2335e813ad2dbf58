import Mathlib
import Worksheet.Document.Listing
import Worksheet.Proofs.Lookup

/-!
# The listing of the stored cells

The row-major listing of a grid holds the stored cells (`mem_entries_iff`), in strictly increasing
order and therefore each of them once (`pairwise_entries`).  So it depends on nothing but the
look-up of the grid (`entries_congr`).
-/

namespace Worksheet.Grid

variable {g : Grid}

/-- What is stored at a position is the entry for it, since there is no other one. -/
lemma get?_eq_some_iff {p : Position} {v : Value} : g.get? p = some v ↔ (p, v) ∈ g.cells :=
  lookup_eq_some_iff_mem g.nodup

/-- The listing holds the stored cells with their values. -/
theorem mem_entries_iff {e : Position × Value} : e ∈ g.entries ↔ g.get? e.1 = some e.2 := by
  rw [entries, List.mem_mergeSort, get?_eq_some_iff]

/-- The listing is sorted by position, and no position occurs twice. -/
theorem pairwise_entries (g : Grid) : g.entries.Pairwise fun a b => a.1 < b.1 := by
  have hsorted : g.entries.Pairwise fun a b => a.1 ≤ b.1 ∧ a.1 ≠ b.1 :=
    pairwise_mergeSort_keys (r := (· ≤ ·)) Position.le_trans Position.le_total g.nodup
  refine hsorted.imp ?_
  rintro a b ⟨hle, hne⟩
  exact (Position.le_iff.mp hle).resolve_right hne

lemma nodup_entries (g : Grid) : g.entries.Nodup := by
  refine g.pairwise_entries.imp ?_
  rintro a b hlt rfl
  exact Position.lt_irrefl a.1 hlt

/-- Grids with the same look-up have the same listing, in whatever order they keep their entries. -/
theorem entries_congr {h : Grid} (hlook : g.get? = h.get?) : g.entries = h.entries := by
  refine eq_of_pairwise_keys (r := (· < ·)) ?_ g.pairwise_entries h.pairwise_entries ?_
  · intro p q hpq hqp
    rw [Position.lt_iff] at hpq hqp
    omega
  · intro e
    rw [mem_entries_iff, mem_entries_iff, hlook]

end Worksheet.Grid
