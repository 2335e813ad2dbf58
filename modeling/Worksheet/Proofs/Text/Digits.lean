import Mathlib
import Worksheet.Text.Digits

/-!
# Values of runs of digits

The digits of a number and the letters of a column are both read from the left, with one
multiplication and one addition for each character.  What that comes to is the place value of the
run (`foldl_eq_placeValue`), and it can be done in a machine word: if the value fits, so does every
step on the way to it, and if it does not, some step is refused (`placeValue?_eq`).

A run of digits is the text of its value but for the zeros in front of it
(`digits_digitsValue`).  Of a run of zeros one is left, which is the text of zero
(`digits_digitsValue_eq_withoutZeros`).
-/

namespace Worksheet.Text

/-! ### Place values -/

section PlaceValue

variable {base : ℕ} {weight : Char → ℕ}

/-- The place value of a run of characters, the last of which counts its weight and every other one
`base` times what it would count one place further right. -/
def placeValue (base : ℕ) (weight : Char → ℕ) (cs : List Char) : ℕ :=
  Nat.ofDigits base (cs.map weight).reverse

/-- One more character moves the others one place to the left. -/
lemma placeValue_concat (cs : List Char) (c : Char) :
    placeValue base weight (cs ++ [c]) = base * placeValue base weight cs + weight c := by
  rw [placeValue, List.map_append, List.map_singleton, List.reverse_append, List.reverse_singleton,
    List.singleton_append, Nat.ofDigits_cons, placeValue, add_comm]

/-- Reading a run from the left gives its place value. -/
theorem foldl_eq_placeValue (cs : List Char) :
    cs.foldl (fun n c => base * n + weight c) 0 = placeValue base weight cs := by
  induction cs using List.reverseRecOn with
  | nil => rfl
  | append_singleton cs c ih => rw [List.foldl_concat, ih, placeValue_concat]

/-- A number that fits in a machine word. -/
def inWord? (n : ℕ) : Option ℕ := if n < wordLimit then some n else none

lemma inWord?_of_lt {n : ℕ} (h : n < wordLimit) : inWord? n = some n := if_pos h

lemma inWord?_of_le {n : ℕ} (h : wordLimit ≤ n) : inWord? n = none := if_neg (Nat.not_lt.mpr h)

/-- Reads a run from the left in a machine word.  Nothing is read once a multiplication or an
addition leaves the word. -/
def placeValue? (base : ℕ) (weight : Char → ℕ) (cs : List Char) : Option ℕ :=
  cs.foldlM (fun n c => (inWord? (base * n)).bind fun m => inWord? (m + weight c)) 0

/-- A run is read in a machine word exactly if its place value fits, however long it is. -/
theorem placeValue?_eq (hbase : 0 < base) (cs : List Char) :
    placeValue? base weight cs = inWord? (placeValue base weight cs) := by
  induction cs using List.reverseRecOn with
  | nil => rfl
  | append_singleton cs c ih =>
    rw [placeValue_concat]
    have hstep : placeValue? base weight (cs ++ [c]) = (placeValue? base weight cs).bind fun n =>
        (inWord? (base * n)).bind fun m => inWord? (m + weight c) := by
      rw [placeValue?, List.foldlM_append]
      simp only [List.foldlM_cons, List.foldlM_nil, bind_pure]
      rfl
    rw [hstep, ih]
    generalize placeValue base weight cs = n
    -- a number that has left the word does not come back to it
    have hmono : n ≤ base * n := Nat.le_mul_of_pos_left n hbase
    by_cases hn : n < wordLimit
    · rw [inWord?_of_lt hn, Option.bind_some]
      by_cases hproduct : base * n < wordLimit
      · rw [inWord?_of_lt hproduct, Option.bind_some]
      · rw [inWord?_of_le (by omega : wordLimit ≤ base * n), Option.bind_none,
          inWord?_of_le (by omega)]
    · rw [inWord?_of_le (by omega : wordLimit ≤ n), Option.bind_none, inWord?_of_le (by omega)]

end PlaceValue

/-! ### Digits -/

/-- The weight of a digit. -/
def digitWeight (c : Char) : ℕ := c.toNat - '0'.toNat

/-- The value of a run of digits is its place value. -/
lemma digitsValue_eq_placeValue (ds : List Char) : digitsValue ds = placeValue 10 digitWeight ds :=
  foldl_eq_placeValue ds

/-- Zeros in front of digits count nothing. -/
lemma digitsValue_zeros_append (n : ℕ) (ds : List Char) :
    digitsValue (List.replicate n '0' ++ ds) = digitsValue ds := by
  rw [digitsValue, Nat.ofDigitChars_append, Nat.ofDigitChars_replicate_zero, mul_zero]
  rfl

/-- Every zero behind digits multiplies by ten. -/
lemma digitsValue_append_zeros (ds : List Char) (n : ℕ) :
    digitsValue (ds ++ List.replicate n '0') = digitsValue ds * 10 ^ n := by
  rw [digitsValue, Nat.ofDigitChars_append, Nat.ofDigitChars_replicate_zero, mul_comm]
  rfl

/-- A digit is the digit of its weight, which is less than ten. -/
lemma digitChar_digitWeight {c : Char} (h : c.isDigit = true) :
    digitWeight c < 10 ∧ (digitWeight c).digitChar = c := by
  have hcode : 48 ≤ c.toNat ∧ c.toNat ≤ 57 := Char.isDigit_iff_toNat.mp h
  have hlt : digitWeight c < 10 := by
    change c.toNat - 48 < 10
    omega
  refine ⟨hlt, Char.toNat_inj.mp ?_⟩
  rw [Nat.toNat_digitChar_of_lt_ten hlt]
  exact Nat.add_sub_of_le hcode.1

variable {ds : List Char}

/-- Digits without a zero in front are the digits of their value. -/
lemma digits_digitsValue_cons {d : Char} (hd : d ≠ '0') (h : ∀ c ∈ d :: ds, c.isDigit = true) :
    digits (digitsValue (d :: ds)) = d :: ds := by
  induction ds using List.reverseRecOn with
  | nil =>
    obtain ⟨hlt, hchar⟩ := digitChar_digitWeight (h d List.mem_cons_self)
    have hvalue : digitsValue [d] = digitWeight d := digitsValue_eq_placeValue [d]
    rw [hvalue, digits, Nat.toDigits_of_lt_base hlt, hchar]
  | append_singleton ds c ih =>
    obtain ⟨hlt, hchar⟩ := digitChar_digitWeight (h c (by simp))
    have hfront : digits (digitsValue (d :: ds)) = d :: ds :=
      ih fun e he => h e (by rw [← List.cons_append]; exact List.mem_append_left _ he)
    have hpos : 0 < digitsValue (d :: ds) := by
      refine Nat.pos_of_ne_zero fun hzero => hd ?_
      rw [hzero] at hfront
      exact (List.cons.inj hfront).1.symm
    have hvalue : digitsValue (d :: (ds ++ [c])) =
        10 * digitsValue (d :: ds) + digitWeight c := by
      rw [← List.cons_append, digitsValue_eq_placeValue, placeValue_concat,
        digitsValue_eq_placeValue]
    rw [hvalue, digits, ← Nat.toDigits_append_toDigits (by decide) hpos hlt,
      Nat.toDigits_of_lt_base hlt, hchar]
    exact congrArg (· ++ [c]) hfront

/-- The digits of the value of a run are the run without the zeros in front. -/
theorem digits_digitsValue (h : ∀ c ∈ ds, c.isDigit = true) (hpos : digitsValue ds ≠ 0) :
    digits (digitsValue ds) = ds.dropWhile (· == '0') := by
  induction ds with
  | nil => exact absurd rfl hpos
  | cons d ds ih =>
    by_cases hd : d = '0'
    · subst hd
      have hvalue : digitsValue ('0' :: ds) = digitsValue ds := digitsValue_zeros_append 1 ds
      rw [hvalue] at hpos ⊢
      exact ih (List.forall_mem_cons.mp h).2 hpos
    · rw [digits_digitsValue_cons hd h, List.dropWhile_cons_of_neg (by rwa [beq_iff_eq])]

/-- A run of digits without the zeros in front; of a run of zeros one zero is left. -/
def withoutZeros (ds : List Char) : List Char :=
  if ds.all (· == '0') then ['0'] else ds.dropWhile (· == '0')

/-- Only zeros count nothing. -/
lemma digitsValue_eq_zero_iff (h : ∀ c ∈ ds, c.isDigit = true) :
    digitsValue ds = 0 ↔ ∀ c ∈ ds, c = '0' := by
  constructor
  · intro hzero
    induction ds with
    | nil => exact List.forall_mem_nil _
    | cons d ds ih =>
      have hd : d = '0' := by
        by_contra hd
        have hdigits := digits_digitsValue_cons hd h
        rw [hzero] at hdigits
        exact hd (List.cons.inj hdigits).1.symm
      subst hd
      have hrest : digitsValue ds = 0 := (digitsValue_zeros_append 1 ds).symm.trans hzero
      exact List.forall_mem_cons.mpr ⟨rfl, ih (List.forall_mem_cons.mp h).2 hrest⟩
  · intro hzeros
    have hvalue := digitsValue_zeros_append ds.length []
    rw [List.append_nil, ← List.eq_replicate_of_mem hzeros] at hvalue
    exact hvalue

/-- The digits of the value of a run are the run without the zeros in front, and one zero if there
is nothing else. -/
theorem digits_digitsValue_eq_withoutZeros (h : ∀ c ∈ ds, c.isDigit = true) :
    digits (digitsValue ds) = withoutZeros ds := by
  have hzeros : ds.all (· == '0') = true ↔ digitsValue ds = 0 := by
    simp [digitsValue_eq_zero_iff h]
  rw [withoutZeros]
  split
  · next hall =>
    rw [hzeros.mp hall]
    rfl
  · next hall => exact digits_digitsValue h (mt hzeros.mpr hall)

/-! ### Machine words -/

/-- A run of digits with a value that fits in 64 bits. -/
structure IsWordRun (ds : List Char) : Prop where
  /-- There is a digit. -/
  ne_nil : ds ≠ []
  /-- The digits are ASCII digits. -/
  isDigit : ∀ c ∈ ds, c.isDigit = true
  /-- The value in base ten is a machine word. -/
  value_lt : placeValue 10 digitWeight ds < 2 ^ 64

/-- A machine word is read from the runs of digits that fit, as their value. -/
lemma word?_eq_some_iff_isWordRun {n : ℕ} :
    word? ds = some n ↔ IsWordRun ds ∧ placeValue 10 digitWeight ds = n := by
  rw [word?_eq_some_iff, isNumber_iff, digitsValue_eq_placeValue]
  constructor
  · rintro ⟨⟨hne, hdigit⟩, rfl, hlt⟩
    exact ⟨⟨hne, hdigit, hlt⟩, rfl⟩
  · rintro ⟨⟨hne, hdigit, hlt⟩, rfl⟩
    exact ⟨⟨hne, hdigit⟩, rfl, hlt⟩

end Worksheet.Text
