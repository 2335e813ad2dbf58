import Mathlib
import Worksheet.Cell.Key
import Worksheet.Proofs.Text.Digits
import Worksheet.Proofs.Text.Runs

/-!
# Keys are read back

A key is two runs of digits around a hyphen, each with a value in a machine word (`IsKey`).  These
are the texts that are read, each as the cell that its runs count to (`ofKey?_eq_some_iff`).  Since
digits are no hyphens, a text can be cut into two such runs in one way only: at its first hyphen.

The key of a cell with machine words for its indices is read as that cell (`ofKeyChars?_keyChars`),
and no two cells have the same key, of whatever size their indices are (`key_injective`).  The other
way round, a text that is read is the key of its cell up to zeros in front of its runs
(`IsKey.keyChars_eq`).
-/

namespace Worksheet.Position

/-- The row and the column of a position are machine words. -/
def IsWord (p : Position) : Prop := p.row < 2 ^ 64 ∧ p.col < 2 ^ 64

variable {p : Position}

/-! ### Cutting at the hyphen -/

section Hyphen

variable {row col : List Char}

lemma hyphen_not_mem (h : ∀ c ∈ row, c.isDigit = true) : '-' ∉ row := by
  intro hmem
  cases h '-' hmem

/-- Digits in front of a hyphen are the row, and what is behind it is the column. -/
lemma ofKeyChars?_append (h : ∀ c ∈ row, c.isDigit = true) (col : List Char) :
    ofKeyChars? (row ++ '-' :: col) =
      (Text.word? row).bind fun r => (Text.word? col).map fun c => ⟨r, c⟩ := by
  have hhyphen : '-' ∉ row := hyphen_not_mem h
  rw [ofKeyChars?, Text.dropWhile_separator hhyphen, Text.takeWhile_separator hhyphen]
  dsimp only
  cases Text.word? row <;> cases Text.word? col <;> rfl

/-- What is read from a text is read from the parts around its first hyphen. -/
lemma exists_append_of_ofKeyChars? {cs : List Char} (h : ofKeyChars? cs = some p) :
    ∃ row col, cs = row ++ '-' :: col ∧ Text.word? row = some p.row ∧
      Text.word? col = some p.col := by
  rw [ofKeyChars?] at h
  split at h
  · cases h
  · next c col hcol =>
    obtain ⟨r, hr, h⟩ := Option.bind_eq_some_iff.mp h
    obtain ⟨c', hc', h⟩ := Option.bind_eq_some_iff.mp h
    obtain rfl := Option.some.inj h
    have hhyphen : c = '-' := by
      have hhead := List.head?_dropWhile_not (· != '-') cs
      rw [hcol] at hhead
      simpa using hhead
    subst hhyphen
    exact ⟨cs.takeWhile (· != '-'), col, by rw [← hcol, List.takeWhile_append_dropWhile], hr, hc'⟩

end Hyphen

/-! ### Keys -/

/-- A text is the key with the given runs of digits. -/
structure IsKey (key : String) (row col : List Char) : Prop where
  /-- There is a hyphen between the runs, and there is nothing else. -/
  toList_eq : key.toList = row ++ '-' :: col
  /-- The row is a run of digits. -/
  row : Text.IsWordRun row
  /-- The column is a run of digits. -/
  col : Text.IsWordRun col

/-- A text is read exactly if it is a key, as the cell that its runs count to. -/
theorem ofKey?_eq_some_iff {key : String} :
    ofKey? key = some p ↔ ∃ row col, IsKey key row col ∧
      p = ⟨Text.placeValue 10 Text.digitWeight row, Text.placeValue 10 Text.digitWeight col⟩ := by
  rw [ofKey?]
  constructor
  · intro h
    obtain ⟨row, col, htext, hrow, hcol⟩ := exists_append_of_ofKeyChars? h
    obtain ⟨hrow, hrowValue⟩ := Text.word?_eq_some_iff_isWordRun.mp hrow
    obtain ⟨hcol, hcolValue⟩ := Text.word?_eq_some_iff_isWordRun.mp hcol
    exact ⟨row, col, ⟨htext, hrow, hcol⟩, by rw [hrowValue, hcolValue]⟩
  · rintro ⟨row, col, ⟨htext, hrow, hcol⟩, rfl⟩
    rw [htext, ofKeyChars?_append hrow.isDigit,
      Text.word?_eq_some_iff_isWordRun.mpr ⟨hrow, rfl⟩,
      Text.word?_eq_some_iff_isWordRun.mpr ⟨hcol, rfl⟩]
    rfl

/-- The key of a cell is read as that cell, as long as its indices are machine words. -/
theorem ofKeyChars?_keyChars (h : p.IsWord) : ofKeyChars? p.keyChars = some p := by
  have hdigits : ∀ c ∈ Text.digits p.row, c.isDigit = true :=
    fun c hc => Text.isDigit_of_mem_digits hc
  rw [keyChars, ofKeyChars?_append hdigits, Text.word?_digits h.1, Text.word?_digits h.2]
  rfl

lemma toList_key (p : Position) : p.key.toList = p.keyChars := String.toList_ofList

/-- The cell of a text that is a key has the key that the text is without zeros in front of its
runs. -/
lemma IsKey.keyChars_eq {key : String} {row col : List Char} (h : IsKey key row col)
    (hp : ofKey? key = some p) :
    p.keyChars = Text.withoutZeros row ++ '-' :: Text.withoutZeros col := by
  rw [ofKey?, h.toList_eq, ofKeyChars?_append h.row.isDigit,
    Text.word?_eq_some_iff_isWordRun.mpr ⟨h.row, rfl⟩,
    Text.word?_eq_some_iff_isWordRun.mpr ⟨h.col, rfl⟩] at hp
  obtain rfl := Option.some.inj hp
  rw [keyChars, ← Text.digitsValue_eq_placeValue, ← Text.digitsValue_eq_placeValue,
    Text.digits_digitsValue_eq_withoutZeros h.row.isDigit,
    Text.digits_digitsValue_eq_withoutZeros h.col.isDigit]

/-- Cells with the same key are the same. -/
theorem key_injective : Function.Injective key := by
  have hcut : ∀ p : Position, p.keyChars.takeWhile (· != '-') = Text.digits p.row ∧
      p.keyChars.dropWhile (· != '-') = '-' :: Text.digits p.col := by
    intro p
    have hhyphen : '-' ∉ Text.digits p.row :=
      hyphen_not_mem fun c hc => Text.isDigit_of_mem_digits hc
    exact ⟨Text.takeWhile_separator hhyphen _, Text.dropWhile_separator hhyphen _⟩
  intro p q h
  have hchars : p.keyChars = q.keyChars := by rw [← toList_key, h, toList_key]
  obtain ⟨hrow, hcol⟩ := hcut p
  rw [hchars, (hcut q).1] at hrow
  rw [hchars, (hcut q).2] at hcol
  obtain ⟨r, c⟩ := p
  obtain ⟨r', c'⟩ := q
  have hr : r' = r := by rw [← Text.digitsValue_digits r', hrow, Text.digitsValue_digits]
  have hc : c' = c := by
    rw [← Text.digitsValue_digits c', (List.cons.inj hcol).2, Text.digitsValue_digits]
  rw [hr, hc]

/-- A character of a key is a digit or a hyphen. -/
lemma isDigit_of_mem_keyChars {c : Char} (h : c ∈ p.keyChars) : c.isDigit = true ∨ c = '-' := by
  rw [keyChars, List.mem_append, List.mem_cons] at h
  rcases h with h | rfl | h
  · exact Or.inl (Text.isDigit_of_mem_digits h)
  · exact Or.inr rfl
  · exact Or.inl (Text.isDigit_of_mem_digits h)

end Worksheet.Position
