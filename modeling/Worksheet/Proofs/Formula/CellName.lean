import Mathlib
import Worksheet.Proofs.Cell.Address
import Worksheet.Proofs.Formula.Reference

/-!
# Cell names as references

A name may have many letters, a reference has one.  So the search for a reference takes from a name
its last letter and all its digits (`find?_name`), and the cell of that reference is in the row of
the name and in the column of the letter (`position?_name`).  This is the cell of the name only if
there is no letter in front of the last one (`position?_eq_ofName?_iff`), since each of them adds to
the column.

`name_as_reference` puts this together and adds that the text around a name does not matter, as long
as it neither refers in front of the name nor makes its digits longer (`find?_name_append`).
-/

namespace Worksheet

namespace Position

variable {p : Position} {name : String} {front digits : List Char} {letter : Char}

/-! ### The column of the last letter -/

/-- The last letter is the lowest digit of a column. -/
lemma columnValue_concat (front : List Char) (letter : Char) :
    columnValue (front ++ [letter]) = 26 * columnValue front + letterValue letter :=
  Text.placeValue_concat front letter

/-- Letters count as much as the last of them exactly if there are no others. -/
lemma columnValue_concat_eq_iff (front : List Char) (letter : Char) :
    columnValue (front ++ [letter]) = letterValue letter ↔ front = [] := by
  rw [columnValue_concat]
  constructor
  · intro h
    by_contra hne
    have hpos : 0 < columnValue front := by
      rw [columnValue, ← columnNumber_eq_placeValue]
      exact columnNumber_pos hne
    omega
  · rintro rfl
    exact Nat.zero_add _

/-! ### The characters of a name -/

namespace IsName

section Characters

variable {letters : List Char}

/-- The letters of a name are those of its characters that are letters. -/
lemma filter_isAlpha (h : IsName name letters digits) :
    name.toList.filter Char.isAlpha = letters := by
  have hdigits : ∀ c ∈ digits, ¬ c.isAlpha = true := fun c hc => by
    rw [isAlpha_of_isDigit (h.isDigit c hc)]
    decide
  rw [h.toList_eq, List.filter_append, List.filter_eq_self.mpr h.isAlpha,
    List.filter_eq_nil_iff.mpr hdigits, List.append_nil]

/-- A text that begins with a name does not begin with a digit. -/
lemma not_isDigit_of_mem_head? (h : IsName name letters digits) (rest : List Char) :
    ∀ c ∈ (name.toList ++ rest).head?, c.isDigit = false := by
  obtain ⟨first, letters, rfl⟩ := List.exists_cons_of_ne_nil h.letters_ne_nil
  intro c hc
  rw [h.toList_eq] at hc
  obtain rfl := Option.some.inj hc
  exact isDigit_of_isAlpha _ (h.isAlpha _ List.mem_cons_self)

end Characters

/-! ### The reference in a name -/

/-- The reference in a name is its last letter with all of its digits. -/
theorem find?_name (h : IsName name (front ++ [letter]) digits) :
    Reference.find? name.toList = some ⟨letter.toUpper, digits⟩ := by
  have hfirst : ¬ Refers (front ++ [letter]) :=
    not_refers_of_not_isDigit fun c hc => isDigit_of_isAlpha c (h.isAlpha c hc)
  have hfound : Reference.find? (letter :: (digits ++ [])) = some ⟨letter.toUpper, digits⟩ :=
    Reference.find?_letter_digits (h.isAlpha letter (by simp)) h.digits_ne_nil h.isDigit (by simp)
  rw [List.append_nil] at hfound
  rw [h.toList_eq, List.append_assoc, List.singleton_append, Reference.find?_append hfirst, hfound]

/-- The cell of the reference in a name is in the row of the name and in the column of the last
letter. -/
theorem position?_name (h : IsName name (front ++ [letter]) digits) :
    (⟨letter.toUpper, digits⟩ : Reference).position? =
      some ⟨rowValue digits - 1, letterValue letter - 1⟩ := by
  have hletter : letter.isAlpha = true := h.isAlpha letter (by simp)
  rw [Reference.position?_eq_some_iff (Reference.find?_eq_some_iff.mp h.find?_name)]
  refine ⟨?_, ?_, ?_⟩
  · rw [letterValue, Nat.add_sub_cancel]
    exact (Nat.add_sub_cancel' (Reference.le_toNat_toUpper hletter)).symm
  · rw [Text.digitsValue_eq_placeValue, ← rowValue, Nat.sub_add_cancel h.one_le_row]
  · rw [Nat.sub_add_cancel h.one_le_row]
    exact Nat.lt_of_le_pred (by decide) h.row_le

/-- The cell of the reference in a name is the cell of the name exactly if the name has no letter in
front of its last one. -/
theorem position?_eq_ofName?_iff (h : IsName name (front ++ [letter]) digits) :
    (⟨letter.toUpper, digits⟩ : Reference).position? = ofName? name ↔ front = [] := by
  obtain ⟨i, -, -, hvalue⟩ := exists_capital (h.isAlpha letter (by simp))
  have hcolumn := columnValue_concat front letter
  rw [h.position?_name, h.ofName?_eq, Option.some.injEq, Position.mk.injEq,
    ← columnValue_concat_eq_iff front letter]
  -- no letter counts as zero, so nothing is lost when both columns are counted from zero
  omega

/-- The same reference is found when text stands around the name, unless that text refers before the
name begins or makes its digits longer. -/
theorem find?_name_append (h : IsName name (front ++ [letter]) digits) {before after : List Char}
    (hbefore : ¬ Refers before) (hafter : ∀ c ∈ after.head?, c.isDigit = false) :
    Reference.find? (before ++ name.toList ++ after) = some ⟨letter.toUpper, digits⟩ := by
  rw [List.append_assoc,
    Reference.find?_append_of_not_refers hbefore (h.not_isDigit_of_mem_head? after),
    Reference.find?_append_of_find? h.find?_name hafter]

end IsName

/-- A name refers to a cell in its own row, in the column at whose place in the alphabet its last
letter stands; this is the cell of the name exactly if the name has only one letter.  The reference
is the same when the name stands in a longer text, if nothing refers in front of it and no digit
follows it. -/
theorem name_as_reference (h : ofName? name = some p) :
    ∃ r q, Reference.find? name.toList = some r ∧ r.position? = some q ∧
      q.row = p.row ∧
      (∃ letter ∈ (name.toList.filter Char.isAlpha).getLast?,
        q.col < 26 ∧ letter.toUpper = capital q.col) ∧
      (q = p ↔ name.toList.countP Char.isAlpha = 1) ∧
      ∀ before after : List Char, ¬ Refers before → (∀ c ∈ after.head?, c.isDigit = false) →
        Reference.find? (before ++ name.toList ++ after) = some r := by
  obtain ⟨letters, digits, hname⟩ := exists_isName h
  obtain ⟨front, letter, rfl⟩ := (List.eq_nil_or_concat' letters).resolve_left hname.letters_ne_nil
  obtain rfl : p = ⟨rowValue digits - 1, columnValue (front ++ [letter]) - 1⟩ :=
    Option.some.inj (h.symm.trans hname.ofName?_eq)
  obtain ⟨i, hi, hcapital, hvalue⟩ := exists_capital (hname.isAlpha letter (by simp))
  refine ⟨_, _, hname.find?_name, hname.position?_name, rfl, ⟨letter, ?_, ?_⟩, ?_,
    fun before after => hname.find?_name_append⟩
  · rw [hname.filter_isAlpha]
    exact List.getLast?_concat
  · rw [hvalue, Nat.add_sub_cancel]
    exact ⟨hi, hcapital⟩
  · rw [List.countP_eq_length_filter, hname.filter_isAlpha, List.length_append,
      List.length_singleton, Nat.add_eq_right, List.length_eq_zero_iff,
      ← hname.position?_eq_ofName?_iff, hname.position?_name, hname.ofName?_eq, Option.some.injEq]

/-- Between a text that ends in a letter and one that begins with another place, a name of two
letters refers with its second one, and so to another cell. -/
theorem name_as_reference_of_two_letters :
    ofName? "zB007" = some ⟨6, 677⟩ ∧ ¬ Refers "5A".toList ∧
      Reference.find? ("5A".toList ++ "zB007".toList ++ "x9".toList) =
        some ⟨'B', ['0', '0', '7']⟩ ∧
      ∃ q, (⟨'B', ['0', '0', '7']⟩ : Reference).position? = some q ∧ q.row = 6 ∧
        'B' = capital q.col ∧ q ≠ ⟨6, 677⟩ := by
  have hread : ofName? "zB007" = some ⟨6, 677⟩ := by decide
  have hbefore : ¬ Refers "5A".toList := Reference.find?_eq_none_iff.mp (by decide)
  obtain ⟨r, q, hfound, hcell, hrow, ⟨letter, hlast, -, hcol⟩, hsame, haround⟩ :=
    name_as_reference hread
  obtain rfl : r = ⟨'B', ['0', '0', '7']⟩ := Option.some.inj (hfound.symm.trans (by decide))
  obtain rfl : letter = 'B' := Option.some.inj (hlast.symm.trans (by decide))
  have hafter : ∀ c ∈ "x9".toList.head?, c.isDigit = false := by simp
  exact ⟨hread, hbefore, haround _ _ hbefore hafter, q, hcell, hrow, hcol,
    fun hq => absurd (hsame.mp hq) (by decide)⟩

/-- A place in front of a name is found instead, and a digit behind it is taken as well. -/
example : Reference.find? "x5zB7".toList = some ⟨'X', ['5']⟩ ∧
    Reference.find? "zB71".toList = some ⟨'B', ['7', '1']⟩ := by decide

end Position

end Worksheet
