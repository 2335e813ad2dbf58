/-!
# Decimal digit runs

Row numbers, keys, counts and the digits of a written number are all runs of the ten ASCII digits.
`digits` writes a natural number and `digitsValue` reads a run; leading zeros are allowed when
reading and never written, so reading undoes writing (`digitsValue_digits`).

Counts and addresses are machine words: `word?` and `count?` refuse a run whose value does not fit
in 64 bits.
-/

namespace Worksheet.Text

/-- The number of values of a machine word; every stored index and count is below it. -/
def wordLimit : Nat := 0x10000000000000000

/-- The digits of a number, most significant first and without leading zeros; zero is one digit. -/
def digits (n : Nat) : List Char := Nat.toDigits 10 n

/-- The number that a run of digits denotes; the empty run denotes zero. -/
def digitsValue (ds : List Char) : Nat := Nat.ofDigitChars 10 ds 0

/-- Reading the digits of a number gives the number. -/
@[simp] theorem digitsValue_digits (n : Nat) : digitsValue (digits n) = n :=
  Nat.ofDigitChars_ten_toDigits

/-- A number has at least one digit. -/
theorem digits_ne_nil (n : Nat) : digits n ≠ [] := Nat.toDigits_ne_nil

/-- The digits of a number are ASCII digits. -/
theorem isDigit_of_mem_digits {n : Nat} {c : Char} (h : c ∈ digits n) : c.isDigit = true :=
  Nat.isDigit_of_mem_toDigits (by decide) (by decide) h

/-- A run of digits: at least one character, and digits only. -/
def isNumber (cs : List Char) : Bool := !cs.isEmpty && cs.all Char.isDigit

/-- The value of a run of digits that fits in a machine word. -/
def word? (cs : List Char) : Option Nat :=
  if isNumber cs && decide (digitsValue cs < wordLimit) then some (digitsValue cs) else none

/-- A written count: a machine word, which one plus sign may precede. -/
def count? : List Char → Option Nat
  | '+' :: cs => word? cs
  | cs => word? cs

/-- A run of digits is a text that is not empty and has digits only. -/
theorem isNumber_iff {cs : List Char} :
    isNumber cs = true ↔ cs ≠ [] ∧ ∀ c ∈ cs, c.isDigit = true := by
  simp [isNumber]

/-- A text is read as a machine word exactly if it is a run of digits whose value fits. -/
theorem word?_eq_some_iff {cs : List Char} {n : Nat} :
    word? cs = some n ↔ isNumber cs = true ∧ digitsValue cs = n ∧ n < wordLimit := by
  simp only [word?, Option.ite_none_right_eq_some, Option.some.injEq, Bool.and_eq_true,
    decide_eq_true_eq]
  constructor
  · rintro ⟨⟨hnumber, hlt⟩, rfl⟩
    exact ⟨hnumber, rfl, hlt⟩
  · rintro ⟨hnumber, rfl, hlt⟩
    exact ⟨⟨hnumber, hlt⟩, rfl⟩

/-- A number that fits in a word is read back from its digits. -/
theorem word?_digits {n : Nat} (h : n < wordLimit) : word? (digits n) = some n :=
  word?_eq_some_iff.mpr
    ⟨isNumber_iff.mpr ⟨digits_ne_nil n, fun _ hc => isDigit_of_mem_digits hc⟩,
      digitsValue_digits n, h⟩

end Worksheet.Text
