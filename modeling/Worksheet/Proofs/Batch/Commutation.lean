import Mathlib
import Worksheet.Proofs.Batch.Assign

/-!
# Independent assignments commute

Two assignments to different cells are independent if neither is a formula that points at the cell
of the other.  `run_swap` says that two neighbours of this kind may change places in any batch
request: the documents in the end hold the same values, the same text is written, and the exit code
or the problem is the same.

What entering an input leaves depends only on the cells that the input reads (`entered_congr`).
Hence entering in two cells commutes (`agrees_enter_enter`), up to the histories, which keep the
order; whatever follows cannot see them.
-/

namespace Worksheet

/-- An input is a formula with a side that points at a cell. -/
def Assignment.Reads (a : Assignment) (p : Position) : Prop :=
  Document.isFormula a.input = true ∧ (Formula.ofBody a.input.toList.tail).PointsAt p

instance (a : Assignment) (p : Position) : Decidable (a.Reads p) :=
  inferInstanceAs (Decidable (_ ∧ _))

/-! ### Two entries -/

/-- Grids that agree on the cells that an assignment reads are left with the same value by it. -/
lemma Assignment.entered_congr {a : Assignment} {look look' : Lookup}
    (h : ∀ p, a.Reads p → look p = look' p) :
    look.entered a.cell a.input = look'.entered a.cell a.input := by
  unfold Lookup.entered
  by_cases hformula : Document.isFormula a.input = true
  · have hstaged : ∀ cs ∈ (Formula.ofBody a.input.toList.tail).sides, ∀ p, PointsAt cs p →
        Function.update look a.cell (some (.text a.input)) p =
          Function.update look' a.cell (some (.text a.input)) p := by
      intro cs hcs p hp
      rw [Function.update_apply, Function.update_apply, h p ⟨hformula, cs, hcs, hp⟩]
    rw [if_pos hformula, if_pos hformula, Formula.evaluate, Formula.evaluate,
      Formula.result_congr hstaged]
  · rw [if_neg hformula, if_neg hformula]

/-- What an assignment leaves does not depend on a cell that it does not read. -/
lemma Assignment.entered_update {a : Assignment} {p : Position} (h : ¬ a.Reads p) (look : Lookup)
    (v : Option Value) :
    Lookup.entered (Function.update look p v) a.cell a.input = look.entered a.cell a.input := by
  refine a.entered_congr fun q hq => ?_
  have hne : q ≠ p := by
    rintro rfl
    exact h hq
  rw [Function.update_of_ne hne]

/-- Two entries in different cells, neither of which reads the cell of the other, leave documents
that agree, whichever comes first. -/
lemma Document.agrees_enter_enter (d : Document) {a b : Assignment} (hne : a.cell ≠ b.cell)
    (hab : ¬ a.Reads b.cell) (hba : ¬ b.Reads a.cell) :
    ((d.enter a.cell a.input).1.enter b.cell b.input).1.Agrees
      ((d.enter b.cell b.input).1.enter a.cell a.input).1 := by
  refine ⟨rfl, rfl, ?_⟩
  rw [get?_enter, get?_enter, get?_enter, get?_enter, a.entered_update hab, b.entered_update hba,
    Function.update_comm hne]

namespace Batch

/-! ### Whole lists -/

section Swap

variable {d : Document} {a b : Assignment} (ha : d.Contains a.cell) (hb : d.Contains b.cell)
  (hne : a.cell ≠ b.cell) (hab : ¬ a.Reads b.cell) (hba : ¬ b.Reads a.cell)

include ha hb hne hab hba

/-- Independent assignments at the start of a list may change places. -/
lemma assign_swap_head (after : List Assignment) :
    (assign d (a :: b :: after)).1.Agrees (assign d (b :: a :: after)).1 ∧
      (assign d (a :: b :: after)).2 = (assign d (b :: a :: after)).2 := by
  have hb' : (d.enter a.cell a.input).1.Contains b.cell := hb
  have ha' : (d.enter b.cell b.input).1.Contains a.cell := ha
  rw [assign_cons_of_contains ha, assign_cons_of_contains hb', assign_cons_of_contains hb,
    assign_cons_of_contains ha']
  exact (d.agrees_enter_enter hne hab hba).assign after

/-- Independent assignments may change places anywhere in a list. -/
lemma assign_swap (before after : List Assignment) :
    (assign d (before ++ a :: b :: after)).1.Agrees (assign d (before ++ b :: a :: after)).1 ∧
      (assign d (before ++ a :: b :: after)).2 = (assign d (before ++ b :: a :: after)).2 := by
  have hsize : ∀ {p : Position}, (assign d before).1.Contains p ↔ d.Contains p :=
    contains_assign_iff before
  rw [assign_append, assign_append]
  generalize assign d before = result at hsize ⊢
  obtain ⟨d', problem⟩ := result
  cases problem with
  | none => exact assign_swap_head (hsize.mpr ha) (hsize.mpr hb) hne hab hba after
  | some problem => exact ⟨.refl d', rfl⟩

end Swap

/-- Requests that differ in their assignments only, and leave documents that agree and the same
problem, write the same and end in the same way. -/
lemma run_eq_of_agrees {d : Document} {r : Request} {as bs : List Assignment}
    (h : (assign d as).1.Agrees (assign d bs).1) (hproblem : (assign d as).2 = (assign d bs).2)
    (hempty : as.isEmpty = bs.isEmpty) :
    (run d { r with assignments := as }).document.Agrees
        (run d { r with assignments := bs }).document ∧
      (run d { r with assignments := as }).output = (run d { r with assignments := bs }).output ∧
      (run d { r with assignments := as }).result =
        (run d { r with assignments := bs }).result := by
  have hasks : Request.asks { r with assignments := as } =
      Request.asks { r with assignments := bs } := by
    rw [Request.asks, Request.asks, hempty]
  simp only [run]
  generalize assign d as = result at h hproblem ⊢
  generalize assign d bs = result' at h hproblem ⊢
  obtain ⟨d', problem⟩ := result
  obtain ⟨e', problem'⟩ := result'
  obtain rfl : problem = problem' := hproblem
  cases problem with
  | some problem => exact ⟨h, rfl, rfl⟩
  | none =>
    by_cases hask : Request.asks { r with assignments := bs } = true
    · simp only [hasks, hask, if_true]
      refine ⟨h, h.output_eq { r with assignments := as }, ?_⟩
      rw [h.answer_eq { r with assignments := as }]
      rfl
    · simp only [hasks, hask]
      exact ⟨h, rfl, rfl⟩

/-- Two neighbouring assignments of a batch request to different cells of the document may change
places if neither of them is a formula that points at the cell of the other.  Whatever stands
before and behind them and whatever else is asked for, the same values are stored in the end, the
same text is written, and the request ends with the same exit code or problem. -/
theorem run_swap {d : Document} {a b : Assignment} (ha : d.Contains a.cell)
    (hb : d.Contains b.cell) (hne : a.cell ≠ b.cell) (hab : ¬ a.Reads b.cell)
    (hba : ¬ b.Reads a.cell) (r : Request) (before after : List Assignment) :
    let first := run d { r with assignments := before ++ a :: b :: after }
    let second := run d { r with assignments := before ++ b :: a :: after }
    (∀ p, first.document.get? p = second.document.get? p) ∧ first.output = second.output ∧
      first.result = second.result := by
  intro first second
  obtain ⟨hagrees, hproblem⟩ := assign_swap ha hb hne hab hba before after
  have hempty : (before ++ a :: b :: after).isEmpty = (before ++ b :: a :: after).isEmpty := by
    cases before <;> rfl
  obtain ⟨hdocument, houtput, hresult⟩ := run_eq_of_agrees (r := r) hagrees hproblem hempty
  exact ⟨congrFun hdocument.grid, houtput, hresult⟩

/-- A formula that reads its own cell and one that reads a cell filled before them change places;
what is filled afterwards and what is printed depends on both. -/
theorem run_swap_of_own_cell :
    Document.blank.Contains ⟨0, 1⟩ ∧ Document.blank.Contains ⟨0, 2⟩ ∧
      ¬ (⟨⟨0, 1⟩, "=B1+A1"⟩ : Assignment).Reads ⟨0, 2⟩ ∧
      ¬ (⟨⟨0, 2⟩, "=A1*A1"⟩ : Assignment).Reads ⟨0, 1⟩ ∧
      let first := run .blank ⟨[⟨⟨0, 0⟩, "2"⟩, ⟨⟨0, 1⟩, "=B1+A1"⟩, ⟨⟨0, 2⟩, "=A1*A1"⟩,
        ⟨⟨1, 0⟩, "=C1/B1"⟩], some "C1-B1", true, true⟩
      let second := run .blank ⟨[⟨⟨0, 0⟩, "2"⟩, ⟨⟨0, 2⟩, "=A1*A1"⟩, ⟨⟨0, 1⟩, "=B1+A1"⟩,
        ⟨⟨1, 0⟩, "=C1/B1"⟩], some "C1-B1", true, true⟩
      (∀ p, first.document.get? p = second.document.get? p) ∧ first.output = second.output ∧
        first.result = second.result := by
  have ha : Document.blank.Contains ⟨0, 1⟩ := by decide
  have hb : Document.blank.Contains ⟨0, 2⟩ := by decide
  have hab : ¬ (⟨⟨0, 1⟩, "=B1+A1"⟩ : Assignment).Reads ⟨0, 2⟩ := by decide
  have hba : ¬ (⟨⟨0, 2⟩, "=A1*A1"⟩ : Assignment).Reads ⟨0, 1⟩ := by decide
  exact ⟨ha, hb, hab, hba, run_swap ha hb (by decide) hab hba ⟨[], some "C1-B1", true, true⟩
    [⟨⟨0, 0⟩, "2"⟩] [⟨⟨1, 0⟩, "=C1/B1"⟩]⟩

end Batch

end Worksheet
