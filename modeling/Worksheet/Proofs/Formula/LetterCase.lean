import Mathlib
import Worksheet.Proofs.Cell.Name
import Worksheet.Proofs.Formula.Footprint
import Worksheet.Proofs.Formula.Literal

/-!
# Formulas ignore the case of letters

Formulas that differ only in the case of their letters give the same result over every grid
(`evaluate_eq_of_map_toLower_eq`).

References ignore case by themselves: nothing but the column of a reference is a letter, and columns
are capitals.  Literals do not, since `Infinity` is read as a number and `INFINITY` is not.  But no
result depends on that: a side that is infinite is as bad as one that is no number at all, and the
finite numbers come from digits and points (`finite_number?_map_toLower`).
-/

namespace Worksheet

/-! ### Classes of characters -/

section Classes

variable {p : Char → Bool} {b : Bool}

/-- What is the same for all letters does not depend on the case of a letter. -/
lemma apply_toLower {α : Type*} {f : Char → α} {a : α} (hf : ∀ c, c.isAlpha = true → f c = a)
    (c : Char) : f c.toLower = f c := by
  by_cases hc : c.isUpper = true
  · have hletter : c.isAlpha = true := by rw [Char.isAlpha, hc, Bool.true_or]
    rw [hf c hletter, hf c.toLower (by rw [Char.isAlpha_toLower_eq_isAlpha, hletter])]
  · rw [Char.toLower_eq_of_not_isUpper hc]

lemma takeWhile_map_toLower (hp : ∀ c, c.isAlpha = true → p c = b) (cs : List Char) :
    (cs.map Char.toLower).takeWhile p = (cs.takeWhile p).map Char.toLower := by
  rw [List.takeWhile_map, show p ∘ Char.toLower = p from funext (apply_toLower hp)]

lemma dropWhile_map_toLower (hp : ∀ c, c.isAlpha = true → p c = b) (cs : List Char) :
    (cs.map Char.toLower).dropWhile p = (cs.dropWhile p).map Char.toLower := by
  rw [List.dropWhile_map, show p ∘ Char.toLower = p from funext (apply_toLower hp)]

lemma ofChar?_of_isAlpha (c : Char) (h : c.isAlpha = true) : Operator.ofChar? c = none := by
  unfold Operator.ofChar?
  split <;> first | rfl | cases h

lemma isOperator_of_isAlpha (c : Char) (h : c.isAlpha = true) : Operator.isOperator c = false := by
  rw [Operator.isOperator, ofChar?_of_isAlpha c h, Option.isSome_none]

lemma isSpace_of_isAlpha (c : Char) (h : c.isAlpha = true) : Numeral.isSpace c = false := by
  rw [Char.isAlpha, Bool.or_eq_true, isUpper_iff, isLower_iff] at h
  simp only [Numeral.isSpace, Bool.or_eq_false_iff, Bool.and_eq_false_iff, decide_eq_false_iff_not,
    beq_eq_false_iff_ne]
  omega

/-- Digits have no case. -/
lemma toLower_of_isDigit {c : Char} (h : c.isDigit = true) : c.toLower = c := by
  refine Char.toLower_eq_of_not_isUpper fun hupper => ?_
  have hletter : c.isAlpha = true := by rw [Char.isAlpha, hupper, Bool.true_or]
  rw [isAlpha_of_isDigit h] at hletter
  cases hletter

lemma takeWhile_isDigit_map_toLower (cs : List Char) :
    (cs.map Char.toLower).takeWhile Char.isDigit = cs.takeWhile Char.isDigit := by
  rw [takeWhile_map_toLower isDigit_of_isAlpha]
  exact (List.map_congr_left fun c hc => toLower_of_isDigit (List.mem_takeWhile_imp hc)).trans
    (List.map_id' _)

end Classes

/-! ### References -/

namespace Reference

/-- The first reference of a text ignores case: its column is a capital anyway. -/
theorem find?_map_toLower (cs : List Char) : find? (cs.map Char.toLower) = find? cs := by
  have hdigit : ∀ d : Char, d.toLower.isDigit = d.isDigit := apply_toLower isDigit_of_isAlpha
  fun_induction find? cs with
  | case1 c d rest hplace =>
    have hd : d.isDigit = true := (Bool.and_eq_true _ _ ▸ hplace).2
    rw [List.map_cons, List.map_cons, find?, Char.isAlpha_toLower_eq_isAlpha, hdigit,
      if_pos hplace, Char.toUpper_toLower_eq_toUpper, toLower_of_isDigit hd,
      takeWhile_isDigit_map_toLower]
  | case2 c d rest hplace ih =>
    rw [List.map_cons, List.map_cons, find?, Char.isAlpha_toLower_eq_isAlpha, hdigit,
      if_neg hplace, ← ih, List.map_cons]
  | case3 cs hshort =>
    rcases cs with _ | ⟨c, _ | ⟨d, rest⟩⟩
    · rfl
    · rfl
    · exact absurd rfl (hshort c d rest)

end Reference

lemma refers_map_toLower {cs : List Char} : Refers (cs.map Char.toLower) ↔ Refers cs := by
  rw [← not_iff_not, ← Reference.find?_eq_none_iff, ← Reference.find?_eq_none_iff,
    Reference.find?_map_toLower]

/-! ### Literals -/

namespace Unsigned

lemma scanFraction_map_toLower (cs : List Char) :
    (scanFraction (cs.map Char.toLower)).1 = (scanFraction cs).1 := by
  cases cs with
  | nil => rfl
  | cons c cs =>
    by_cases hc : c = '.'
    · subst hc
      exact congrArg some (takeWhile_isDigit_map_toLower cs)
    · have hlower : c.toLower ≠ '.' := by
        have hclass := apply_toLower (f := (· == '.')) (a := false)
          (fun c hc => beq_eq_false_iff_ne.mpr (by rintro rfl; cases hc)) c
        rwa [beq_eq_false_iff_ne.mpr hc, beq_eq_false_iff_ne] at hclass
      rw [List.map_cons]
      unfold scanFraction
      split
      · next hdot => exact absurd (List.cons.inj hdot).1 hlower
      · split
        · next hdot => exact absurd (List.cons.inj hdot).1 hc
        · rfl

lemma scanPlain?_map_toLower (cs : List Char) :
    scanPlain? (cs.map Char.toLower) = scanPlain? cs := by
  simp only [scanPlain?, takeWhile_isDigit_map_toLower, dropWhile_map_toLower isDigit_of_isAlpha,
    scanFraction_map_toLower]

end Unsigned

lemma IsLiteral.map_toLower {cs : List Char} (h : IsLiteral cs) :
    IsLiteral (cs.map Char.toLower) where
  plain := by
    intro d hd hop
    obtain ⟨c, hc, rfl⟩ := List.mem_map.mp hd
    rw [← Operator.isOperator_iff, apply_toLower isOperator_of_isAlpha, Operator.isOperator_iff]
      at hop
    exact h.plain c hc hop
  not_refers := fun hrefers => h.not_refers (refers_map_toLower.mp hrefers)

/-! ### Formulas -/

/-- Only finite numbers are combined: an infinite one does what a missing one does. -/
lemma Operator.Combines.finite {o : Operator} {a b : Option Float} {res : Except Fault Value}
    (h : o.Combines a b res) :
    o.Combines (a.filter Float.isFinite) (b.filter Float.isFinite) res := by
  have hfinite {x : Float} (hx : x.isFinite = true) :
      (some x).filter Float.isFinite = some x := by
    rw [Option.filter_some, if_pos hx]
  cases h with
  | missing h => exact .missing (h.imp (by rintro rfl; rfl) (by rintro rfl; rfl))
  | infinite h => exact .missing (h.imp (by intro h; simp [h]) (by intro h; simp [h]))
  | zeroDivisor hx hy ho hzero =>
    rw [hfinite hx, hfinite hy]
    exact .zeroDivisor hx hy ho hzero
  | overflow hx hy hdiv hz h =>
    rw [hfinite hx, hfinite hy]
    exact .overflow hx hy hdiv hz h
  | number hx hy hdiv hz h =>
    rw [hfinite hx, hfinite hy]
    exact .number hx hy hdiv hz h

/-- The finite number that a side of a formula stands for ignores case. -/
lemma finite_number?_map_toLower {cs : List Char} (hplain : ∀ c ∈ cs, c ∉ Operator.chars)
    (look : Lookup) :
    ((Operand.ofChars (cs.map Char.toLower)).number? look).filter Float.isFinite =
      ((Operand.ofChars cs).number? look).filter Float.isFinite := by
  rw [Operand.ofChars, Operand.ofChars, Reference.find?_map_toLower]
  cases href : Reference.find? cs with
  | some r => rfl
  | none =>
    have hliteral : IsLiteral cs := ⟨hplain, Reference.find?_eq_none_iff.mp href⟩
    change (Numeral.read? (cs.map Char.toLower)).filter _ = (Numeral.read? cs).filter _
    rw [hliteral.finite_read?_eq, hliteral.map_toLower.finite_read?_eq,
      dropWhile_map_toLower isSpace_of_isAlpha, Unsigned.scanPlain?_map_toLower]

namespace Formula

/-- The formula with all letters small. -/
def toLower (f : Formula) : Formula :=
  ⟨f.left.map Char.toLower, f.step.map (Prod.map id (List.map Char.toLower))⟩

variable {look : Lookup}

lemma dropWhile_not_isOperator_map_toLower (cs : List Char) :
    (cs.map Char.toLower).dropWhile (fun c => !Operator.isOperator c) =
      (cs.dropWhile fun c => !Operator.isOperator c).map Char.toLower :=
  dropWhile_map_toLower (fun c hc => congrArg not (isOperator_of_isAlpha c hc)) cs

lemma operandOf_map_toLower (cs : List Char) :
    operandOf (cs.map Char.toLower) = (operandOf cs).map Char.toLower :=
  takeWhile_map_toLower (fun c hc => congrArg not (isOperator_of_isAlpha c hc)) cs

/-- Cutting a formula does not look at letters. -/
lemma ofBody_map_toLower (body : List Char) :
    ofBody (body.map Char.toLower) = (ofBody body).toLower := by
  rw [ofBody, ofBody, toLower, operandOf_map_toLower, dropWhile_not_isOperator_map_toLower]
  congr 1
  cases body.dropWhile fun c => !Operator.isOperator c with
  | nil => rfl
  | cons c rest =>
    simp only [List.map_cons, apply_toLower ofChar?_of_isAlpha, operandOf_map_toLower,
      Option.map_map]
    rfl

/-- A formula gives the same result with small letters. -/
lemma result_toLower {f : Formula} (hplain : ∀ side ∈ f.sides, ∀ c ∈ side, c ∉ Operator.chars)
    (look : Lookup) : f.toLower.result look = f.result look := by
  obtain ⟨l, step⟩ := f
  cases step with
  | none =>
    cases href : Reference.find? l <;>
      simp only [toLower, result, Operand.ofChars, Reference.find?_map_toLower, href,
        Option.map_none]
  | some step =>
    obtain ⟨o, r⟩ := step
    change result look ⟨l.map Char.toLower, some (o, r.map Char.toLower)⟩ = _
    by_cases hcompute : Refers l → Refers r
    · have hlower : Refers (l.map Char.toLower) → Refers (r.map Char.toLower) := by
        rwa [refers_map_toLower, refers_map_toLower]
      have hcombines : o.Combines _ _ (result look ⟨l, some (o, r)⟩) :=
        (combines_result hcompute).finite
      have hcombines' : o.Combines _ _
          (result look ⟨l.map Char.toLower, some (o, r.map Char.toLower)⟩) :=
        (combines_result hlower).finite
      rw [finite_number?_map_toLower (hplain l (by simp [sides])),
        finite_number?_map_toLower (hplain r (by simp [sides]))] at hcombines'
      exact hcombines'.unique hcombines
    · rw [Classical.not_imp] at hcompute
      obtain ⟨ref, href⟩ := hcompute.1.exists_find?
      have href' : Reference.find? (l.map Char.toLower) = some ref := by
        rw [Reference.find?_map_toLower, href]
      rw [result_copy href hcompute.2,
        result_copy href' (refers_map_toLower.not.mpr hcompute.2)]

theorem evaluate_map_toLower (look : Lookup) (input : List Char) :
    evaluate look (input.map Char.toLower) = evaluate look input := by
  have hplain : ∀ side ∈ (ofBody input.tail).sides, ∀ c ∈ side, c ∉ Operator.chars :=
    fun side => not_mem_chars_of_mem_sides
  rw [evaluate, evaluate, ← List.map_tail, ofBody_map_toLower, result_toLower hplain]

/-- Two formulas that are equal up to the case of their letters give the same result over every
grid: the same value or the same fault. -/
theorem evaluate_eq_of_map_toLower_eq (look : Lookup) {input input' : List Char}
    (h : input.map Char.toLower = input'.map Char.toLower) :
    evaluate look input = evaluate look input' := by
  rw [← evaluate_map_toLower look input, h, evaluate_map_toLower]

/-- The word for infinity is a number in one of these formulas and none in the other, and both are
faulty, although the divisor is zero. -/
theorem evaluate_eq_of_infinity :
    Numeral.read? "Infinity".toList ≠ Numeral.read? "INFINITY".toList ∧
      "=Infinity/a1".toList.map Char.toLower = "=INFINITY/A1".toList.map Char.toLower ∧
      evaluate (fun _ => some (.number 0)) "=Infinity/a1".toList =
        evaluate (fun _ => some (.number 0)) "=INFINITY/A1".toList := by
  have h : "=Infinity/a1".toList.map Char.toLower = "=INFINITY/A1".toList.map Char.toLower := by
    decide
  exact ⟨by decide, h, evaluate_eq_of_map_toLower_eq _ h⟩

end Formula

end Worksheet
