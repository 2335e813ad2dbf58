import Mathlib
import Worksheet.Batch
import Worksheet.Proofs.Document.Agreement

/-!
# Lists of assignments

A batch request commits its assignments in order, up to the first that is refused.  A list can be
cut anywhere (`assign_append`), commits change no size (`contains_assign_iff`), and documents that
agree are assigned to in the same way (`Document.Agrees.assign`) and print the same
(`Document.Agrees.output_eq`).
-/

namespace Worksheet

namespace Batch

variable {d : Document} {a : Assignment}

/-- An assignment to a cell that is offered is carried out. -/
lemma assign_cons_of_contains (h : d.Contains a.cell) (as : List Assignment) :
    assign d (a :: as) = assign (d.enter a.cell a.input).1 as := by
  rw [assign, Document.commit, if_pos h]

/-- An assignment to any other cell ends the list. -/
lemma assign_cons_of_not_contains (h : ¬ d.Contains a.cell) (as : List Assignment) :
    assign d (a :: as) =
      (d, some (.assignment a.cell (.outOfBounds a.cell d.rows d.cols))) := by
  rw [assign, Document.commit, if_neg h]

lemma contains_assign_iff (as : List Assignment) {p : Position} :
    (assign d as).1.Contains p ↔ d.Contains p := by
  induction as generalizing d with
  | nil => rfl
  | cons a as ih =>
    by_cases h : d.Contains a.cell
    · rw [assign_cons_of_contains h, ih]
      rfl
    · rw [assign_cons_of_not_contains h]

/-- A list goes on where its first part has ended, unless that part was refused. -/
lemma assign_append (as bs : List Assignment) :
    assign d (as ++ bs) =
      match assign d as with
      | (d', none) => assign d' bs
      | (d', some problem) => (d', some problem) := by
  induction as generalizing d with
  | nil => rfl
  | cons a as ih =>
    rw [List.cons_append]
    by_cases h : d.Contains a.cell
    · rw [assign_cons_of_contains h, assign_cons_of_contains h, ih]
    · rw [assign_cons_of_not_contains h, assign_cons_of_not_contains h]

end Batch

/-! ### Documents that agree -/

namespace Document

open Batch

variable {d e : Document}

/-- Documents that agree take the same assignments, refuse the same one, and agree afterwards. -/
lemma Agrees.assign (h : d.Agrees e) (as : List Assignment) :
    (assign d as).1.Agrees (assign e as).1 ∧ (assign d as).2 = (assign e as).2 := by
  induction as generalizing d e with
  | nil => exact ⟨h, rfl⟩
  | cons a as ih =>
    by_cases hin : d.Contains a.cell
    · rw [assign_cons_of_contains hin, assign_cons_of_contains (h.contains_iff.mp hin)]
      exact ih (h.enter a.cell a.input)
    · rw [assign_cons_of_not_contains hin,
        assign_cons_of_not_contains (mt h.contains_iff.mpr hin), h.rows, h.cols]
      exact ⟨h, rfl⟩

lemma Agrees.answer_eq (h : d.Agrees e) (r : Request) : r.answer d = r.answer e := by
  rw [Request.answer, Request.answer]
  cases r.command with
  | none => rfl
  | some command => rw [Option.map_some, Option.map_some, h.preview_eq]

lemma Agrees.output_eq (h : d.Agrees e) (r : Request) : r.output d = r.output e := by
  rw [Request.output, Request.output, h.answer_eq, h.table_eq, h.dump_eq]

end Document

end Worksheet
