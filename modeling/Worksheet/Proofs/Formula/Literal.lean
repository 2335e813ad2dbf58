import Mathlib
import Worksheet.Formula.Evaluate
import Worksheet.Proofs.Formula.Cut
import Worksheet.Proofs.Formula.Footprint
import Worksheet.Proofs.Formula.Reference
import Worksheet.Proofs.Number.Numeral

/-!
# Literals

A side of a formula that does not refer to a cell is read as a numeral, but few numerals can stand
there.  A side holds no operator character, and so neither a sign nor the sign of an exponent; and
the mark of an exponent directly in front of digits would be a reference.  What is left is the word
for infinity, and digits with a point (`IsLiteral.read?_eq`).

Infinity is never computed with.  The finite number that a literal stands for is therefore that of
its digits and its point alone (`IsLiteral.finite_read?_eq`).
-/

namespace Worksheet

variable {cs ds : List Char}

/-- A text can be a side of a formula and does not refer to a cell. -/
structure IsLiteral (cs : List Char) : Prop where
  plain : ∀ c ∈ cs, c ∉ Operator.chars
  not_refers : ¬ Refers cs

namespace Formula

/-- No operand holds an operator character. -/
lemma not_mem_chars_of_mem_operandOf {c : Char} (hc : c ∈ operandOf cs) : c ∉ Operator.chars := by
  rw [operandOf_eq_takeWhile] at hc
  have hplain : decide (c ∉ Operator.chars) = true :=
    List.mem_takeWhile_imp (p := fun c => decide (c ∉ Operator.chars)) hc
  exact of_decide_eq_true hplain

/-- The operators are what a body is cut at, so no side holds one. -/
lemma not_mem_chars_of_mem_sides {body side : List Char} (h : side ∈ (ofBody body).sides) :
    ∀ c ∈ side, c ∉ Operator.chars := by
  rw [sides, List.mem_cons, Option.mem_toList, Option.map_eq_some_iff] at h
  obtain rfl | ⟨⟨o, r⟩, hstep, rfl⟩ := h
  · exact fun c => not_mem_chars_of_mem_operandOf
  · rw [ofBody] at hstep
    dsimp only at hstep
    split at hstep
    · cases hstep
    · obtain ⟨o', -, hright⟩ := Option.map_eq_some_iff.mp hstep
      obtain rfl := congrArg Prod.snd hright
      exact fun c => not_mem_chars_of_mem_operandOf

end Formula

/-- A side of a formula that does not refer to a cell is a literal. -/
lemma IsLiteral.of_mem_sides {body side : List Char} (hside : side ∈ (Formula.ofBody body).sides)
    (href : Reference.find? side = none) : IsLiteral side where
  plain := Formula.not_mem_chars_of_mem_sides hside
  not_refers := Reference.find?_eq_none_iff.mp href

/-- A text refers if its end does. -/
lemma Refers.of_suffix (h : Refers cs) (hsuffix : cs <:+ ds) : Refers ds := by
  obtain ⟨before, c, d, after, rfl, hc, hd⟩ := h
  obtain ⟨start, rfl⟩ := hsuffix
  exact ⟨start ++ before, c, d, after, (List.append_assoc _ _ _).symm, hc, hd⟩

namespace Unsigned

/-- Digits with an optional point at the start of a text, without an exponent. -/
def scanPlain? (cs : List Char) : Option Unsigned :=
  let whole := cs.takeWhile Char.isDigit
  let fraction := (scanFraction (cs.dropWhile Char.isDigit)).1
  if whole.isEmpty && (fraction.getD []).isEmpty then none else some (decimal whole fraction none)

lemma scanFraction_suffix (cs : List Char) : (scanFraction cs).2 <:+ cs := by
  unfold scanFraction
  split
  · exact (List.dropWhile_suffix _).trans (List.suffix_cons _ _)
  · exact List.suffix_rfl

/-- The word for infinity does not start with a digit or a point. -/
lemma scanPlain?_eq_none (h : infinityWord.isPrefixOf cs = true) : scanPlain? cs = none := by
  obtain ⟨rest, rfl⟩ := List.isPrefixOf_iff_prefix.mp h
  rfl

end Unsigned

namespace IsLiteral

lemma of_suffix (h : IsLiteral ds) (hsuffix : cs <:+ ds) : IsLiteral cs where
  plain c hc := h.plain c (hsuffix.subset hc)
  not_refers hrefers := h.not_refers (hrefers.of_suffix hsuffix)

lemma sign_scan_eq (h : IsLiteral cs) : Sign.scan cs = (none, cs) := by
  refine Sign.scan_chars none fun c hc => ?_
  have hplain : c ∉ Operator.chars := h.plain c (List.mem_of_mem_head? hc)
  constructor <;> rintro rfl <;> exact hplain (by decide)

/-- A mark in front of digits refers, so it does not start an exponent. -/
lemma exponent_scan_eq (h : IsLiteral cs) : Exponent.scan cs = (none, cs) := by
  cases cs with
  | nil => rfl
  | cons mark rest =>
    have hrest : IsLiteral rest := h.of_suffix (List.suffix_cons mark rest)
    simp only [Exponent.scan, hrest.sign_scan_eq]
    refine if_neg fun hmark => h.not_refers (refers_cons.mpr (Or.inl ?_))
    simp only [Bool.and_eq_true, Bool.or_eq_true, beq_iff_eq, Bool.not_eq_true',
      List.isEmpty_eq_false_iff] at hmark
    obtain ⟨hletter, hdigits⟩ := hmark
    refine ⟨by rcases hletter with rfl | rfl <;> rfl, ?_⟩
    cases rest with
    | nil => exact absurd rfl hdigits
    | cons d rest =>
      refine ⟨d, rfl, ?_⟩
      by_contra hd
      exact hdigits (List.takeWhile_cons_of_neg hd)

lemma unsigned_scan?_eq (h : IsLiteral cs) :
    (Unsigned.scan? cs).map Prod.fst =
      if Unsigned.infinityWord.isPrefixOf cs then some .infinity else Unsigned.scanPlain? cs := by
  have hrest : IsLiteral (Unsigned.scanFraction (cs.dropWhile Char.isDigit)).2 :=
    h.of_suffix ((Unsigned.scanFraction_suffix _).trans (List.dropWhile_suffix _))
  simp only [Unsigned.scan?, Unsigned.scanPlain?, hrest.exponent_scan_eq]
  split
  · rfl
  · split <;> rfl

/-- A literal is read as infinity or as digits with a point, without a sign or an exponent. -/
theorem read?_eq (h : IsLiteral cs) :
    Numeral.read? cs =
      (if Unsigned.infinityWord.isPrefixOf (cs.dropWhile Numeral.isSpace) then some .infinity
        else Unsigned.scanPlain? (cs.dropWhile Numeral.isSpace)).map
        fun size => Numeral.value ⟨none, size⟩ := by
  have htail : IsLiteral (cs.dropWhile Numeral.isSpace) := h.of_suffix (List.dropWhile_suffix _)
  rw [← htail.unsigned_scan?_eq, Numeral.read?, Numeral.scan?, htail.sign_scan_eq, Option.map_map,
    Option.map_map]
  rfl

/-- A literal stands for a finite number exactly if its digits and its point do. -/
theorem finite_read?_eq (h : IsLiteral cs) :
    (Numeral.read? cs).filter Float.isFinite =
      ((Unsigned.scanPlain? (cs.dropWhile Numeral.isSpace)).map
        fun size => Numeral.value ⟨none, size⟩).filter Float.isFinite := by
  rw [h.read?_eq]
  split
  · next hword =>
    rw [Unsigned.scanPlain?_eq_none hword]
    rfl
  · rfl

end IsLiteral

end Worksheet
