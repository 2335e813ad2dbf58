import Mathlib
import Worksheet.Document.Dump
import Worksheet.Proofs.Document.Entry
import Worksheet.Proofs.Document.Listing
import Worksheet.Proofs.Document.Snapshot
import Worksheet.Proofs.Document.Table

/-!
# Documents that agree

Two documents agree if they offer the same cells for editing and hold the same values in them.
Their histories may differ, and so may the order in which their grids keep the entries.  Documents
that agree go on to agree when the same input is entered (`Agrees.enter`), and all that is shown of
them is the same.

In particular nothing shows the order in which a grid keeps its entries: every listing is a function
of the stored values alone (`listings_of_perm`).
-/

namespace Worksheet

/-- Grids that keep the same entries in two orders have the same look-up. -/
lemma Grid.get?_eq_of_perm {g h : Grid} (hperm : g.cells.Perm h.cells) : g.get? = h.get? := by
  funext p
  refine Option.ext fun v => ?_
  rw [get?_eq_some_iff, get?_eq_some_iff, hperm.mem_iff]

namespace Document

/-- Two documents have the same size and hold the same values. -/
structure Agrees (d e : Document) : Prop where
  rows : d.rows = e.rows
  cols : d.cols = e.cols
  grid : d.grid.get? = e.grid.get?

variable {d e : Document}

lemma Agrees.refl (d : Document) : d.Agrees d := ⟨rfl, rfl, rfl⟩

lemma Agrees.contains_iff (h : d.Agrees e) {p : Position} : d.Contains p ↔ e.Contains p := by
  rw [Contains, Contains, h.rows, h.cols]

/-- The same input in the same cell leaves documents that agree. -/
lemma Agrees.enter (h : d.Agrees e) (p : Position) (input : String) :
    (d.enter p input).1.Agrees (e.enter p input).1 := by
  refine ⟨h.rows, h.cols, ?_⟩
  rw [get?_enter, get?_enter, h.grid]

lemma Agrees.preview_eq (h : d.Agrees e) (formula : String) :
    d.preview formula = e.preview formula := by
  rw [preview, preview, h.grid]

lemma Agrees.table_eq (h : d.Agrees e) : Table.render d = Table.render e := by
  refine Table.render_congr h.rows h.cols fun p _ => ?_
  rw [get?, get?, h.grid]

lemma Agrees.entries_eq (h : d.Agrees e) : d.entries = e.entries := Grid.entries_congr h.grid

lemma Agrees.dump_eq (h : d.Agrees e) : Dump.render d = Dump.render e := by
  rw [Dump.render, Dump.render, Dump.chars, Dump.chars, h.entries_eq]

lemma Agrees.snapshot_eq (h : d.Agrees e) : d.snapshot = e.snapshot := snapshot_congr h.grid

/-! ### The order of the entries -/

/-- Each stored cell is listed once with its value, and nothing else is listed. -/
lemma count_entries (d : Document) (p : Position) (v : Value) :
    d.entries.count (p, v) = if d.get? p = some v then 1 else 0 := by
  have hmem : (p, v) ∈ d.grid.entries ↔ d.get? p = some v := Grid.mem_entries_iff
  rw [entries, d.grid.nodup_entries.count]
  simp only [hmem]

/-- The listing of a document increases strictly in its positions and has every stored cell once,
with its value, and nothing else.  A document of the same size whose grid keeps the same entries in
another order has the same listing, the same snapshot, the same dump and the same table. -/
theorem listings_of_perm (hrows : d.rows = e.rows) (hcols : d.cols = e.cols)
    (hperm : d.grid.cells.Perm e.grid.cells) :
    (d.entries.Pairwise fun a b => a.1 < b.1) ∧
      (∀ p v, d.entries.count (p, v) = if d.get? p = some v then 1 else 0) ∧
      d.entries = e.entries ∧ d.snapshot = e.snapshot ∧ Dump.render d = Dump.render e ∧
      Table.render d = Table.render e := by
  have hagrees : d.Agrees e := ⟨hrows, hcols, Grid.get?_eq_of_perm hperm⟩
  exact ⟨d.grid.pairwise_entries, d.count_entries, hagrees.entries_eq, hagrees.snapshot_eq,
    hagrees.dump_eq, hagrees.table_eq⟩

/-- Two cells are entered in one order and in the other.  The grids differ, and so do the orders of
the cells in the listing and of their keys as texts, but nothing shows which cell came first. -/
theorem listings_of_perm_of_two :
    let d := ((blank.enter ⟨0, 10⟩ "b").1.enter ⟨0, 2⟩ "a").1
    let e := ((blank.enter ⟨0, 2⟩ "a").1.enter ⟨0, 10⟩ "b").1
    d.grid.cells ≠ e.grid.cells ∧
      (d.rows = e.rows ∧ d.cols = e.cols ∧ d.grid.cells.Perm e.grid.cells) ∧
      d.entries.count (⟨0, 10⟩, .text "b") = 1 ∧ d.entries = e.entries ∧
      d.snapshot = e.snapshot ∧ Dump.render d = Dump.render e ∧
      Table.render d = Table.render e := by
  intro d e
  have hperm : d.grid.cells.Perm e.grid.cells := by decide
  obtain ⟨-, hcount, hlistings⟩ := listings_of_perm (d := d) (e := e) rfl rfl hperm
  refine ⟨by decide, ⟨rfl, rfl, hperm⟩, ?_, hlistings⟩
  rw [hcount]
  decide

end Document

end Worksheet
