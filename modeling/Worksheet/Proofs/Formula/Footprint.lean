import Mathlib
import Worksheet.Proofs.Formula.Meaning

/-!
# The cells that a formula reads

A formula reads at most two cells: those at which its sides point.  `result_congr` is the frame
rule that follows: grids that agree on these cells give the same result.
-/

namespace Worksheet

/-- The first reference of a text is the address of a cell. -/
def PointsAt (cs : List Char) (p : Position) : Prop :=
  ∃ r : Reference, r.IsFirstIn cs ∧ r.Names p

/-- The texts on the sides of a formula: the left one, and the right one if there is an operator. -/
def Formula.sides (f : Formula) : List (List Char) := f.left :: (f.step.map Prod.snd).toList

/-! ### One side -/

/-- A text points at the cell of the reference that is found in it. -/
lemma pointsAt_iff {cs : List Char} {p : Position} :
    PointsAt cs p ↔ ∃ r, Reference.find? cs = some r ∧ r.position? = some p := by
  constructor
  · rintro ⟨r, hr, hp⟩
    exact ⟨r, Reference.find?_eq_some_iff.mpr hr, (Reference.position?_eq_some_iff hr).mpr hp⟩
  · rintro ⟨r, hr, hp⟩
    have hfirst := Reference.find?_eq_some_iff.mp hr
    exact ⟨r, hfirst, (Reference.position?_eq_some_iff hfirst).mp hp⟩

instance (cs : List Char) (p : Position) : Decidable (PointsAt cs p) :=
  decidable_of_iff ((Reference.find? cs).bind Reference.position? = some p)
    (by rw [pointsAt_iff, Option.bind_eq_some_iff])

/-- A text that points at a cell refers. -/
lemma PointsAt.refers {cs : List Char} {p : Position} (h : PointsAt cs p) : Refers cs := by
  obtain ⟨r, hr, -⟩ := pointsAt_iff.mp h
  exact Reference.refers_of_find? hr

/-- What is fetched for a text that points at a cell is the value in that cell. -/
lemma PointsAt.fetch_eq {cs : List Char} {p : Position} (h : PointsAt cs p) {r : Reference}
    (hr : Reference.find? cs = some r) (look : Lookup) : look.fetch r = (look p).getD .empty := by
  obtain ⟨r', hr', hp⟩ := pointsAt_iff.mp h
  rw [hr] at hr'
  obtain rfl := Option.some.inj hr'
  rw [Lookup.fetch, hp, Option.bind_some]

/-- A side that points at a cell stands for the number of the value there. -/
lemma PointsAt.number?_eq {cs : List Char} {p : Position} (h : PointsAt cs p) (look : Lookup) :
    (Operand.ofChars cs).number? look = ((look p).getD .empty).number? := by
  obtain ⟨r, hr⟩ := h.refers.exists_find?
  rw [Operand.ofChars, hr, Operand.number?, h.fetch_eq hr look]

section Congr

variable {look look' : Lookup}

/-- Grids that agree where a text points give the same value for its reference. -/
lemma fetch_congr {cs : List Char} (h : ∀ p, PointsAt cs p → look p = look' p) {r : Reference}
    (hr : Reference.find? cs = some r) : look.fetch r = look'.fetch r := by
  unfold Lookup.fetch
  cases hp : r.position? with
  | none => rfl
  | some p => rw [Option.bind_some, Option.bind_some, h p (pointsAt_iff.mpr ⟨r, hr, hp⟩)]

/-- Grids that agree where a side points give the same number for it. -/
lemma number?_congr {cs : List Char} (h : ∀ p, PointsAt cs p → look p = look' p) :
    (Operand.ofChars cs).number? look = (Operand.ofChars cs).number? look' := by
  unfold Operand.ofChars
  cases hr : Reference.find? cs with
  | none => rfl
  | some r => rw [Operand.number?, Operand.number?, fetch_congr h hr]

/-! ### Whole formulas -/

/-- Grids that agree where the sides of a formula point give the same result. -/
theorem Formula.result_congr {f : Formula}
    (h : ∀ cs ∈ f.sides, ∀ p, PointsAt cs p → look p = look' p) :
    f.result look = f.result look' := by
  obtain ⟨l, step⟩ := f
  have hl : ∀ p, PointsAt l p → look p = look' p := h l (by simp [sides])
  cases step with
  | none =>
    cases href : Reference.find? l with
    | none => simp only [result, Operand.ofChars, href]
    | some ref => simp only [result, Operand.ofChars, href, fetch_congr hl href]
  | some step =>
    obtain ⟨o, r⟩ := step
    have hr : ∀ p, PointsAt r p → look p = look' p := h r (by simp [sides])
    by_cases hcompute : Refers l → Refers r
    · have hcombines : o.Combines ((Operand.ofChars l).number? look)
          ((Operand.ofChars r).number? look) (result look ⟨l, some (o, r)⟩) :=
        combines_result hcompute
      rw [number?_congr hl, number?_congr hr] at hcombines
      exact hcombines.unique (combines_result hcompute)
    · rw [Classical.not_imp] at hcompute
      obtain ⟨ref, href⟩ := hcompute.1.exists_find?
      rw [result_copy href hcompute.2, result_copy href hcompute.2, fetch_congr hl href]

end Congr

end Worksheet
