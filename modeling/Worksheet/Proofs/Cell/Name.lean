import Mathlib
import Worksheet.Cell.Name
import Worksheet.Proofs.Text.Runs
import Worksheet.Text.Blank

/-!
# Names are read back

The letters of a column count back to its number (`columnNumber_numberLetters`), and the name of a
cell is read as that cell (`ofNameChars?_nameChars`).  A name is made of letters and digits only, so
it can stand next to blanks and signs and still be told apart from them.

In the first twenty-six columns a name has a single letter (`nameChars_of_lt`).
-/

namespace Worksheet

/-! ### Letters and digits -/

section Characters

variable {c : Char}

lemma isUpper_iff : c.isUpper = true ↔ 65 ≤ c.toNat ∧ c.toNat ≤ 90 := by
  simp [Char.isUpper, UInt32.le_iff_toNat_le]

lemma isLower_iff : c.isLower = true ↔ 97 ≤ c.toNat ∧ c.toNat ≤ 122 := by
  simp [Char.isLower, UInt32.le_iff_toNat_le]

lemma isDigit_iff : c.isDigit = true ↔ 48 ≤ c.toNat ∧ c.toNat ≤ 57 := by
  simp [Char.isDigit_iff_toNat]

lemma isAlpha_of_isDigit (h : c.isDigit = true) : c.isAlpha = false := by
  rw [isDigit_iff] at h
  rw [Bool.eq_false_iff, Ne, Char.isAlpha, Bool.or_eq_true, isUpper_iff, isLower_iff]
  omega

lemma isDigit_of_isAlpha (c : Char) (h : c.isAlpha = true) : c.isDigit = false := by
  cases hc : c.isDigit with
  | false => rfl
  | true => rw [isAlpha_of_isDigit hc] at h; cases h

lemma isBlank_of_isAlphanum (h : c.isAlphanum = true) : Text.isBlank c = false := by
  rw [Char.isAlphanum, Char.isAlpha, Bool.or_eq_true, Bool.or_eq_true, isUpper_iff, isLower_iff,
    isDigit_iff] at h
  simp only [Text.isBlank, Bool.or_eq_false_iff, Bool.and_eq_false_iff, decide_eq_false_iff_not,
    beq_eq_false_iff_ne]
  omega

/-- A character whose capital is a digit is that digit. -/
lemma toUpper_eq_of_isDigit (h : c.toUpper.isDigit = true) : c.toUpper = c := by
  refine Char.toUpper_eq_of_not_isLower fun hlower => ?_
  have hletter : c.toUpper.isAlpha = true := by
    rw [Char.isAlpha_toUpper_eq_isAlpha, Char.isAlpha, hlower, Bool.or_true]
  rw [isAlpha_of_isDigit h] at hletter
  cases hletter

end Characters

/-! ### Columns -/

section Columns

variable {i n : ℕ}

/-- The letters of the alphabet have consecutive codes. -/
lemma toNat_capital (h : i < 26) : (capital i).toNat = 65 + i := by
  have hvalid : ('A'.toNat + i).isValidChar := Or.inl (by change 65 + i < 0xd800; omega)
  rw [capital, Char.toNat_ofNat, if_pos hvalid]
  rfl

lemma isUpper_capital (h : i < 26) : (capital i).isUpper = true := by
  rw [isUpper_iff, toNat_capital h]
  omega

/-- A letter counts as its index, from one. -/
lemma letterValue_capital (h : i < 26) : letterValue (capital i) = i + 1 := by
  have hupper : (capital i).toUpper = capital i :=
    Char.toUpper_eq_of_not_isLower (Char.not_isLower_of_isUpper (isUpper_capital h))
  rw [letterValue, hupper, toNat_capital h]
  exact congrArg (· + 1) (Nat.add_sub_cancel_left 65 i)

/-- The last letter of a column is its lowest digit. -/
lemma columnNumber_append_singleton (letters : List Char) (c : Char) :
    columnNumber (letters ++ [c]) = 26 * columnNumber letters + letterValue c := by
  rw [columnNumber, List.foldl_append]
  rfl

/-- The letters of a column number count back to it. -/
theorem columnNumber_numberLetters (n : ℕ) : columnNumber (numberLetters n) = n := by
  induction n using Nat.strong_induction_on with
  | _ n ih =>
    cases n with
    | zero => rw [numberLetters]; rfl
    | succ n =>
      have hdigit : n % 26 < 26 := Nat.mod_lt n (by decide)
      rw [numberLetters, columnNumber_append_singleton, ih (n / 26) (by omega),
        letterValue_capital hdigit]
      omega

lemma isUpper_of_mem_numberLetters {c : Char} (h : c ∈ numberLetters n) : c.isUpper = true := by
  induction n using Nat.strong_induction_on with
  | _ n ih =>
    cases n with
    | zero => rw [numberLetters] at h; cases h
    | succ n =>
      rw [numberLetters, List.mem_append, List.mem_singleton] at h
      rcases h with h | rfl
      · exact ih (n / 26) (by omega) h
      · exact isUpper_capital (Nat.mod_lt n (by decide))

lemma isAlpha_of_mem_columnLetters {col : ℕ} {c : Char} (h : c ∈ columnLetters col) :
    c.isAlpha = true := by
  rw [Char.isAlpha, isUpper_of_mem_numberLetters h, Bool.true_or]

lemma columnLetters_ne_nil (col : ℕ) : columnLetters col ≠ [] := by
  rw [columnLetters, numberLetters]
  exact List.append_ne_nil_of_right_ne_nil _ (List.cons_ne_nil _ _)

end Columns

/-! ### Whole names -/

namespace Position

variable {p : Position}

lemma toList_name (p : Position) : p.name.toList = p.nameChars := String.toList_ofList

lemma isAlphanum_of_mem_nameChars {c : Char} (h : c ∈ p.nameChars) : c.isAlphanum = true := by
  rw [Char.isAlphanum, Bool.or_eq_true]
  exact (List.mem_append.mp h).imp isAlpha_of_mem_columnLetters Text.isDigit_of_mem_digits

lemma nameChars_ne_nil (p : Position) : p.nameChars ≠ [] :=
  List.append_ne_nil_of_left_ne_nil (columnLetters_ne_nil p.col) _

/-- In the first twenty-six columns a name is one letter and the digits of its row. -/
lemma nameChars_of_lt (h : p.col < 26) :
    p.nameChars = capital p.col :: Text.digits (p.row + 1) := by
  rw [nameChars, columnLetters, numberLetters, Nat.div_eq_of_lt h, Nat.mod_eq_of_lt h,
    numberLetters, List.nil_append, List.singleton_append]

/-- The name of a cell is read as that cell, as long as both of its numbers are machine words. -/
theorem ofNameChars?_nameChars (hrow : p.row + 1 < Text.wordLimit)
    (hcol : p.col + 1 < Text.wordLimit) : ofNameChars? p.nameChars = some p := by
  have hletters : ∀ c ∈ columnLetters p.col, c.isAlpha = true :=
    fun c hc => isAlpha_of_mem_columnLetters hc
  -- the letters end where the digits begin
  have hstop : ∀ c ∈ (Text.digits (p.row + 1)).head?, c.isAlpha = false := fun c hc =>
    isAlpha_of_isDigit (Text.isDigit_of_mem_digits (List.mem_of_mem_head? hc))
  have htake : p.nameChars.takeWhile Char.isAlpha = columnLetters p.col :=
    Text.takeWhile_run hletters hstop
  have hdrop : p.nameChars.dropWhile Char.isAlpha = Text.digits (p.row + 1) :=
    Text.dropWhile_run hletters hstop
  have hnumber : columnNumber (columnLetters p.col) = p.col + 1 := columnNumber_numberLetters _
  have hnonempty : (columnLetters p.col).isEmpty = false :=
    List.isEmpty_eq_false_iff.mpr (columnLetters_ne_nil p.col)
  simp only [ofNameChars?, htake, hdrop, hnumber, hnonempty, Text.word?_digits hrow,
    Nat.not_le.mpr hcol, decide_false, Bool.or_self, Bool.false_eq_true, if_false,
    Nat.add_sub_cancel]

end Position

end Worksheet
