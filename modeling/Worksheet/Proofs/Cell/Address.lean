import Mathlib
import Worksheet.Proofs.Cell.Name
import Worksheet.Proofs.Text.Digits
import Worksheet.Proofs.Text.Runs

/-!
# Names and cells

A name is a run of letters and a run of digits, each of them with a value in a machine word
(`IsName`).  The letters count in base 26 with the digits 1 to 26, so a column has one spelling and
there is no letter for zero; the digits count in base ten, where zeros in front change nothing.

`name_correspondence` says that reading accepts exactly the names, and gets their values less one;
that every cell whose indices can be counted from one in a machine word has a name; and that the
name of the cell that has been read is the name that was read, in capitals and without zeros in
front of the digits.
-/

namespace Worksheet

/-! ### Letters -/

section Letters

variable {letters : List Char}

/-- The number of a column is the place value of its letters. -/
lemma columnNumber_eq_placeValue (letters : List Char) :
    columnNumber letters = Text.placeValue 26 letterValue letters :=
  Text.foldl_eq_placeValue letters

/-- In capitals, a letter is the letter of its place in the alphabet. -/
lemma exists_capital {c : Char} (h : c.isAlpha = true) :
    ∃ i < 26, c.toUpper = capital i ∧ letterValue c = i + 1 := by
  have hupper : 65 ≤ c.toUpper.toNat ∧ c.toUpper.toNat ≤ 90 := by
    rw [← isUpper_iff, Char.isUpper_toUpper_eq_isAlpha, h]
  have hlt : c.toUpper.toNat - 65 < 26 := by omega
  refine ⟨c.toUpper.toNat - 65, hlt, Char.toNat_inj.mp ?_, rfl⟩
  rw [toNat_capital hlt]
  omega

/-- There is no letter for zero. -/
lemma columnNumber_pos (hne : letters ≠ []) : 0 < columnNumber letters := by
  obtain ⟨front, c, rfl⟩ := (List.eq_nil_or_concat' letters).resolve_left hne
  rw [columnNumber_append_singleton, letterValue]
  omega

/-- The letters of the number that letters count to are the same letters, in capitals. -/
theorem numberLetters_columnNumber (h : ∀ c ∈ letters, c.isAlpha = true) :
    numberLetters (columnNumber letters) = letters.map Char.toUpper := by
  induction letters using List.reverseRecOn with
  | nil => exact numberLetters.eq_1
  | append_singleton letters c ih =>
    obtain ⟨i, hi, hcapital, hvalue⟩ := exists_capital (h c (by simp))
    have hfront : numberLetters (columnNumber letters) = letters.map Char.toUpper :=
      ih fun e he => h e (List.mem_append_left _ he)
    have hdiv : (26 * columnNumber letters + i) / 26 = columnNumber letters := by omega
    have hmod : (26 * columnNumber letters + i) % 26 = i := by omega
    rw [columnNumber_append_singleton, hvalue, ← Nat.add_assoc, numberLetters, hdiv, hmod, hfront,
      List.map_append, List.map_singleton, hcapital]

end Letters

/-! ### Names -/

namespace Position

/-- The value of a run of letters in base 26 with the digits A to Z, which count from one; case does
not matter. -/
def columnValue (letters : List Char) : ℕ := Text.placeValue 26 letterValue letters

/-- The value of a run of digits in base ten. -/
def rowValue (digits : List Char) : ℕ := Text.placeValue 10 Text.digitWeight digits

/-- A text is the name with the given letters and digits. -/
structure IsName (name : String) (letters digits : List Char) : Prop where
  /-- The digits follow the letters, and there is nothing else. -/
  toList_eq : name.toList = letters ++ digits
  /-- There is a letter. -/
  letters_ne_nil : letters ≠ []
  /-- The letters are ASCII letters. -/
  isAlpha : ∀ c ∈ letters, c.isAlpha = true
  /-- There is a digit. -/
  digits_ne_nil : digits ≠ []
  /-- The digits are ASCII digits. -/
  isDigit : ∀ c ∈ digits, c.isDigit = true
  /-- The value of the letters is a machine word. -/
  column_le : columnValue letters ≤ 2 ^ 64 - 1
  /-- Rows are counted from one. -/
  one_le_row : 1 ≤ rowValue digits
  /-- The value of the digits is a machine word. -/
  row_le : rowValue digits ≤ 2 ^ 64 - 1

variable {p : Position} {cs : List Char} {name : String} {letters digits : List Char}

/-- What reading a name gets from it. -/
lemma ofNameChars?_eq_some_iff : ofNameChars? cs = some p ↔
    cs.takeWhile Char.isAlpha ≠ [] ∧ columnNumber (cs.takeWhile Char.isAlpha) < Text.wordLimit ∧
      Text.word? (cs.dropWhile Char.isAlpha) = some (p.row + 1) ∧
      p.col = columnNumber (cs.takeWhile Char.isAlpha) - 1 := by
  rw [ofNameChars?]
  generalize cs.takeWhile Char.isAlpha = letters
  generalize Text.word? (cs.dropWhile Char.isAlpha) = number
  constructor
  · intro h
    split at h
    · cases h
    · next haccepted =>
      rw [Bool.or_eq_true, decide_eq_true_eq, List.isEmpty_iff, not_or, Nat.not_le] at haccepted
      split at h
      · obtain rfl := Option.some.inj h
        exact ⟨haccepted.1, haccepted.2, rfl, rfl⟩
      · cases h
  · rintro ⟨hne, hlt, rfl, hcol⟩
    have haccepted :
        (letters.isEmpty || decide (Text.wordLimit ≤ columnNumber letters)) = false := by
      rw [List.isEmpty_eq_false_iff.mpr hne, decide_eq_false (Nat.not_le.mpr hlt), Bool.or_self]
    simp only [haccepted, Bool.false_eq_true, if_false, ← hcol]

/-- A reader that adds the letters up in a machine word, and gives up when a step leaves it, reads
the same names as the one that looks at the sum. -/
theorem ofNameChars?_eq_checked (cs : List Char) : ofNameChars? cs =
    if cs.takeWhile Char.isAlpha = [] then none
    else (Text.placeValue? 26 letterValue (cs.takeWhile Char.isAlpha)).bind fun column =>
      (Text.word? (cs.dropWhile Char.isAlpha)).bind fun row =>
        if row = 0 then none else some ⟨row - 1, column - 1⟩ := by
  rw [ofNameChars?, Text.placeValue?_eq (by decide), ← columnNumber_eq_placeValue]
  generalize cs.takeWhile Char.isAlpha = letters
  generalize Text.word? (cs.dropWhile Char.isAlpha) = number
  by_cases hne : letters = []
  · rw [hne]
    rfl
  have hempty : letters.isEmpty = false := List.isEmpty_eq_false_iff.mpr hne
  rw [if_neg hne]
  rcases Nat.lt_or_ge (columnNumber letters) Text.wordLimit with hlt | hle
  · simp only [hempty, decide_eq_false (Nat.not_le.mpr hlt), Text.inWord?_of_lt hlt,
      Option.bind_some, Bool.or_self, Bool.false_eq_true, if_false]
    rcases number with _ | _ | row <;> rfl
  · rw [decide_eq_true hle, Text.inWord?_of_le hle, Bool.or_true, if_pos rfl, Option.bind_none]

/-- A name is read as the cell of its values. -/
lemma IsName.ofName?_eq (h : IsName name letters digits) :
    ofName? name = some ⟨rowValue digits - 1, columnValue letters - 1⟩ := by
  have hstop : ∀ c ∈ digits.head?, c.isAlpha = false :=
    fun c hc => isAlpha_of_isDigit (h.isDigit c (List.mem_of_mem_head? hc))
  have htake : name.toList.takeWhile Char.isAlpha = letters := by
    rw [h.toList_eq, Text.takeWhile_run h.isAlpha hstop]
  have hdrop : name.toList.dropWhile Char.isAlpha = digits := by
    rw [h.toList_eq, Text.dropWhile_run h.isAlpha hstop]
  have hcolumn := h.column_le
  have hrow := h.one_le_row
  have hrow' := h.row_le
  rw [columnValue, ← columnNumber_eq_placeValue] at hcolumn ⊢
  rw [rowValue, ← Text.digitsValue_eq_placeValue] at hrow hrow' ⊢
  have hword : Text.word? digits = some (Text.digitsValue digits - 1 + 1) := by
    rw [Nat.sub_add_cancel hrow]
    exact Text.word?_eq_some_iff.mpr
      ⟨Text.isNumber_iff.mpr ⟨h.digits_ne_nil, h.isDigit⟩, rfl, Nat.lt_of_le_pred (by decide) hrow'⟩
  rw [ofName?, ofNameChars?_eq_some_iff, htake, hdrop]
  exact ⟨h.letters_ne_nil, Nat.lt_of_le_pred (by decide) hcolumn, hword, rfl⟩

/-- What is read is a name. -/
lemma exists_isName (h : ofName? name = some p) : ∃ letters digits, IsName name letters digits := by
  obtain ⟨hne, hcolumn, hword, -⟩ := ofNameChars?_eq_some_iff.mp h
  obtain ⟨hnumber, hvalue, hrow⟩ := Text.word?_eq_some_iff.mp hword
  obtain ⟨hne', hdigits⟩ := Text.isNumber_iff.mp hnumber
  refine ⟨_, _, List.takeWhile_append_dropWhile.symm, hne, fun c hc => List.mem_takeWhile_imp hc,
    hne', hdigits, ?_, ?_, ?_⟩
  · rw [columnValue, ← columnNumber_eq_placeValue]
    exact Nat.le_pred_of_lt hcolumn
  · rw [rowValue, ← Text.digitsValue_eq_placeValue, hvalue]
    exact Nat.succ_pos _
  · rw [rowValue, ← Text.digitsValue_eq_placeValue, hvalue]
    exact Nat.le_pred_of_lt hrow

/-- The cell of a name has this name, in capitals and without zeros in front of the digits. -/
lemma IsName.toList_name (h : IsName name letters digits) :
    (⟨rowValue digits - 1, columnValue letters - 1⟩ : Position).name.toList =
      letters.map Char.toUpper ++ digits.dropWhile (· == '0') := by
  have hrow := h.one_le_row
  have hcolumn : 0 < columnNumber letters := columnNumber_pos h.letters_ne_nil
  rw [Position.toList_name, nameChars, columnLetters, columnValue, ← columnNumber_eq_placeValue,
    Nat.sub_add_cancel hcolumn, numberLetters_columnNumber h.isAlpha, Nat.sub_add_cancel hrow]
  rw [rowValue, ← Text.digitsValue_eq_placeValue] at hrow ⊢
  rw [Text.digits_digitsValue h.isDigit (by omega)]

/-- A text is read as a cell exactly if it is a name, as the cell that its letters and digits count
to from one.  Every cell whose indices can be counted from one in a machine word is read from its
name, and a cell that is read has the name that it is read from, in capitals and without zeros in
front of the digits. -/
theorem name_correspondence :
    (∀ name p, ofName? name = some p ↔ ∃ letters digits, IsName name letters digits ∧
      p = ⟨rowValue digits - 1, columnValue letters - 1⟩) ∧
    (∀ p : Position, p.row < 2 ^ 64 - 1 → p.col < 2 ^ 64 - 1 → ofName? p.name = some p) ∧
    ∀ name letters digits p, IsName name letters digits → ofName? name = some p →
      p.name.toList = letters.map Char.toUpper ++ digits.dropWhile (· == '0') := by
  refine ⟨fun name p => ⟨fun h => ?_, ?_⟩, fun p hrow hcol => ?_, ?_⟩
  · obtain ⟨letters, digits, hname⟩ := exists_isName h
    rw [hname.ofName?_eq] at h
    exact ⟨letters, digits, hname, (Option.some.inj h).symm⟩
  · rintro ⟨letters, digits, hname, rfl⟩
    exact hname.ofName?_eq
  · rw [ofName?, toList_name]
    exact ofNameChars?_nameChars (Nat.add_lt_of_lt_sub hrow) (Nat.add_lt_of_lt_sub hcol)
  · intro name letters digits p hname h
    rw [hname.ofName?_eq] at h
    rw [← Option.some.inj h, hname.toList_name]

/-- A name with a small letter and zeros in front of its digits is read as its cell, which has the
same name without them, and is read from that name as well. -/
theorem name_correspondence_of_zeros :
    IsName "zZ007" ['z', 'Z'] ['0', '0', '7'] ∧ ofName? "zZ007" = some ⟨6, 701⟩ ∧
      (⟨6, 701⟩ : Position).name.toList = ['Z', 'Z', '7'] ∧
      ofName? (⟨6, 701⟩ : Position).name = some ⟨6, 701⟩ := by
  have hname : IsName "zZ007" ['z', 'Z'] ['0', '0', '7'] :=
    ⟨by decide, by decide, List.all_eq_true.mp rfl, by decide, List.all_eq_true.mp rfl,
      by decide, by decide, by decide⟩
  have hread : ofName? "zZ007" = some ⟨6, 701⟩ :=
    (name_correspondence.1 _ _).mpr ⟨_, _, hname, by decide⟩
  refine ⟨hname, hread, ?_, name_correspondence.2.1 _ (by decide) (by decide)⟩
  exact name_correspondence.2.2 _ _ _ _ hname hread

example : ofName? "a0" = none := by decide

end Position

end Worksheet
