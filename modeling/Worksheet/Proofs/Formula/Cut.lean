import Mathlib
import Worksheet.Formula.Basic
import Worksheet.Proofs.Text.Runs

/-!
# Where a formula body is cut

A formula body is cut at its first operator character, and its right side ends before the next one.
`ofBody_append` says so for a body that is given by its pieces: the left side, the operator, the
right side and whatever follows from the next operator on, which is lost.  `ofBody_of_plain` is the
case without an operator.
-/

namespace Worksheet

/-- The characters of the four operators. -/
def Operator.chars : List Char := ['+', '-', '*', '/']

namespace Operator

/-- A character is an operator character exactly if it is one of the four. -/
lemma isOperator_iff {c : Char} : isOperator c = true ↔ c ∈ chars := by
  constructor
  · intro h
    unfold isOperator ofChar? at h
    split at h <;> simp_all [chars]
  · intro h
    simp only [chars, List.mem_cons, List.not_mem_nil, or_false] at h
    rcases h with rfl | rfl | rfl | rfl <;> rfl

/-- The character of an operator is an operator character. -/
lemma isOperator_toChar (o : Operator) : isOperator o.toChar = true := by
  rw [isOperator, ofChar?_toChar, Option.isSome_some]

/-- Which character writes which operator. -/
lemma toChar_of_mem {c : Char} {o : Operator}
    (h : (c, o) ∈ [('+', add), ('-', sub), ('*', mul), ('/', div)]) : o.toChar = c := by
  simp only [List.mem_cons, Prod.mk.injEq, List.not_mem_nil, or_false] at h
  rcases h with ⟨rfl, rfl⟩ | ⟨rfl, rfl⟩ | ⟨rfl, rfl⟩ | ⟨rfl, rfl⟩ <;> rfl

end Operator

namespace Formula

/-- An operand is the part of a text before its first operator character. -/
lemma operandOf_eq_takeWhile (cs : List Char) :
    operandOf cs = cs.takeWhile fun c => decide (c ∉ Operator.chars) := by
  refine congrArg (List.takeWhile · cs) (funext fun c => ?_)
  rw [Bool.eq_iff_iff, Bool.not_eq_true', Bool.eq_false_iff, Ne, Operator.isOperator_iff,
    decide_eq_true_eq]

section Runs

variable {l tail : List Char}

/-- Characters that are not operators are taken. -/
lemma not_isOperator_of_mem (hl : ∀ c ∈ l, c ∉ Operator.chars) :
    ∀ c ∈ l, (!Operator.isOperator c) = true := by
  intro c hc
  rw [Bool.not_eq_true', Bool.eq_false_iff, Ne, Operator.isOperator_iff]
  exact hl c hc

/-- The next operator is not taken. -/
lemma isOperator_of_mem_head? (htail : ∀ c ∈ tail.head?, c ∈ Operator.chars) :
    ∀ c ∈ tail.head?, (!Operator.isOperator c) = false := by
  intro c hc
  rw [Bool.not_eq_false', Operator.isOperator_iff]
  exact htail c hc

/-- An operand reaches up to the next operator character, or to the end of the text. -/
lemma operandOf_append (hl : ∀ c ∈ l, c ∉ Operator.chars)
    (htail : ∀ c ∈ tail.head?, c ∈ Operator.chars) : operandOf (l ++ tail) = l :=
  Text.takeWhile_run (not_isOperator_of_mem hl) (isOperator_of_mem_head? htail)

/-- Dropping the left side of a body leaves the rest from its first operator character on. -/
lemma dropWhile_append (hl : ∀ c ∈ l, c ∉ Operator.chars)
    (htail : ∀ c ∈ tail.head?, c ∈ Operator.chars) :
    (l ++ tail).dropWhile (fun c => !Operator.isOperator c) = tail :=
  Text.dropWhile_run (not_isOperator_of_mem hl) (isOperator_of_mem_head? htail)

end Runs

/-- A body without an operator character is one operand. -/
theorem ofBody_of_plain {l : List Char} (hl : ∀ c ∈ l, c ∉ Operator.chars) :
    ofBody l = ⟨l, none⟩ := by
  have hleft := @operandOf_append l [] hl (by simp)
  have hdrop := @dropWhile_append l [] hl (by simp)
  rw [List.append_nil] at hleft hdrop
  rw [ofBody, hleft, hdrop]

/-- A body is cut around its first operator, and its right side is the first operand of the rest. -/
theorem ofBody_operator {l : List Char} (o : Operator) (hl : ∀ c ∈ l, c ∉ Operator.chars)
    (text : List Char) : ofBody (l ++ o.toChar :: text) = ⟨l, some (o, operandOf text)⟩ := by
  have hop : ∀ c ∈ (o.toChar :: text).head?, c ∈ Operator.chars := by
    intro c hc
    obtain rfl := Option.some.inj hc
    exact Operator.isOperator_iff.mp o.isOperator_toChar
  rw [ofBody, operandOf_append hl hop, dropWhile_append hl hop]
  simp only [Operator.ofChar?_toChar, Option.map_some]

/-- Nothing from the next operator on matters. -/
theorem ofBody_append {l r tail : List Char} (o : Operator) (hl : ∀ c ∈ l, c ∉ Operator.chars)
    (hr : ∀ c ∈ r, c ∉ Operator.chars) (htail : ∀ c ∈ tail.head?, c ∈ Operator.chars) :
    ofBody (l ++ o.toChar :: (r ++ tail)) = ⟨l, some (o, r)⟩ := by
  rw [ofBody_operator o hl, operandOf_append hr htail]

end Formula

end Worksheet
