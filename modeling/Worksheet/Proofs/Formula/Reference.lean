import Mathlib
import Worksheet.Formula.Reference
import Worksheet.Proofs.Text.Runs

/-!
# What a reference inside a text is

`Reference.find?` walks through a text and stops at the first letter with a digit behind it.  Here
the same notion is said without the walk: `Refers` tells whether a text has such a place at all,
`Reference.IsFirstIn` that a reference stands at the leftmost one, and `Reference.Names` which cell
it is the address of.  `find?_eq_none_iff`, `find?_eq_some_iff` and `position?_eq_some_iff` show
that the search and the reading of an address compute exactly these three.
-/

namespace Worksheet

/-- At some place of a text a letter is directly followed by a digit. -/
def Refers (cs : List Char) : Prop :=
  ∃ before c d after, cs = before ++ c :: d :: after ∧ c.isAlpha = true ∧ d.isDigit = true

namespace Reference

/-- A reference stands at the leftmost place of a text where a letter is directly followed by a
digit.  Its column is that letter as a capital, and all the digits that follow belong to it. -/
def IsFirstIn (r : Reference) (cs : List Char) : Prop :=
  ∃ before letter after, cs = before ++ letter :: (r.rowDigits ++ after) ∧
    letter.isAlpha = true ∧ letter.toUpper = r.column ∧
    r.rowDigits ≠ [] ∧ (∀ d ∈ r.rowDigits, d.isDigit = true) ∧
    (∀ d ∈ after.head?, d.isDigit = false) ∧ ¬ Refers (before ++ [letter])

/-- A reference is the address of a cell: its letter counts the column from `A`, and its digits
count the row from one and fit in 64 bits. -/
def Names (r : Reference) (p : Position) : Prop :=
  r.column.toNat = 'A'.toNat + p.col ∧ Text.digitsValue r.rowDigits = p.row + 1 ∧
    p.row + 1 < 2 ^ 64

end Reference

/-! ### Places where a letter is followed by a digit -/

/-- The empty text has no such place. -/
lemma not_refers_nil : ¬ Refers [] := by
  rintro ⟨before, c, d, after, h, -, -⟩
  simp at h

/-- Such a place is at the start of a text or behind its first character. -/
lemma refers_cons {c : Char} {cs : List Char} :
    Refers (c :: cs) ↔
      (c.isAlpha = true ∧ ∃ d ∈ cs.head?, d.isDigit = true) ∨ Refers cs := by
  constructor
  · rintro ⟨before, a, b, after, h, ha, hb⟩
    cases before with
    | nil =>
      obtain ⟨rfl, rfl⟩ := List.cons.inj h
      exact Or.inl ⟨ha, b, rfl, hb⟩
    | cons e before => exact Or.inr ⟨before, a, b, after, (List.cons.inj h).2, ha, hb⟩
  · rintro (⟨hc, d, hd, hdigit⟩ | ⟨before, a, b, after, rfl, ha, hb⟩)
    · cases cs with
      | nil => cases hd
      | cons e cs =>
        obtain rfl := Option.some.inj hd
        exact ⟨[], c, e, cs, rfl, hc, hdigit⟩
    · exact ⟨c :: before, a, b, after, rfl, ha, hb⟩

/-- A single character is no such place. -/
lemma not_refers_singleton (c : Char) : ¬ Refers [c] := by
  simp [refers_cons, not_refers_nil]

/-- A text without digits has no such place. -/
lemma not_refers_of_not_isDigit {cs : List Char} (h : ∀ c ∈ cs, c.isDigit = false) :
    ¬ Refers cs := by
  rintro ⟨before, c, d, after, rfl, -, hd⟩
  rw [h d (by simp)] at hd
  cases hd

/-- A character that is no digit makes no such place at the end of a text. -/
lemma not_refers_concat {cs : List Char} {c : Char} (h : ¬ Refers cs) (hc : c.isDigit = false) :
    ¬ Refers (cs ++ [c]) := by
  rintro ⟨before, a, b, after, heq, ha, hb⟩
  rcases List.eq_nil_or_concat' after with rfl | ⟨after, e, rfl⟩
  · -- the digit of the place would be the character at the end
    have hlast : cs ++ [c] = (before ++ [a]) ++ [b] := by simp [heq]
    obtain ⟨-, hcb⟩ := List.append_inj' hlast rfl
    obtain rfl := List.singleton_inj.mp hcb
    rw [hc] at hb
    cases hb
  · have hlast : cs ++ [c] = (before ++ a :: b :: after) ++ [e] := by
      rw [heq, List.append_assoc]; rfl
    exact h ⟨before, a, b, after, (List.append_inj' hlast rfl).1, ha, hb⟩

/-- What stands behind the next character does not matter for the character before it. -/
lemma head?_append_cons (before : List Char) (c : Char) (rest : List Char) :
    (before ++ c :: rest).head? = (before ++ [c]).head? := by
  cases before <;> rfl

namespace Reference

/-! ### The search -/

/-- The search skips a character that is no letter with a digit behind it. -/
lemma find?_cons {c : Char} {cs : List Char}
    (h : ¬ (c.isAlpha = true ∧ ∃ d ∈ cs.head?, d.isDigit = true)) :
    find? (c :: cs) = find? cs := by
  cases cs with
  | nil => rfl
  | cons d cs => rw [find?, if_neg (by simpa using h)]

/-- The search passes over everything before the character where the first place can begin. -/
lemma find?_append {before : List Char} {c : Char} (h : ¬ Refers (before ++ [c]))
    (rest : List Char) : find? (before ++ c :: rest) = find? (c :: rest) := by
  induction before with
  | nil => rfl
  | cons b before ih =>
    rw [List.cons_append, refers_cons, not_or, ← head?_append_cons before c rest] at h
    rw [List.cons_append, find?_cons h.1]
    exact ih h.2

/-- A letter with digits behind it is found where it stands. -/
lemma find?_letter_digits {c : Char} {ds after : List Char} (hc : c.isAlpha = true)
    (hne : ds ≠ []) (hds : ∀ d ∈ ds, d.isDigit = true)
    (hafter : ∀ d ∈ after.head?, d.isDigit = false) :
    find? (c :: (ds ++ after)) = some ⟨c.toUpper, ds⟩ := by
  obtain ⟨d, ds, rfl⟩ := List.exists_cons_of_ne_nil hne
  have hd : d.isDigit = true := hds d (by simp)
  have hrun : (ds ++ after).takeWhile Char.isDigit = ds :=
    Text.takeWhile_run (fun e he => hds e (List.mem_cons_of_mem d he)) hafter
  rw [List.cons_append, find?, if_pos (by rw [hc, hd]; rfl), hrun]

/-- The search finds nothing exactly in a text without a letter directly before a digit. -/
theorem find?_eq_none_iff {cs : List Char} : find? cs = none ↔ ¬ Refers cs := by
  induction cs with
  | nil => exact iff_of_true rfl not_refers_nil
  | cons c cs ih =>
    rw [refers_cons]
    by_cases h : c.isAlpha = true ∧ ∃ d ∈ cs.head?, d.isDigit = true
    · obtain ⟨hc, d, hd, hdigit⟩ := h
      cases cs with
      | nil => cases hd
      | cons e cs =>
        obtain rfl := Option.some.inj hd
        simp [find?, hc, hdigit]
    · rw [find?_cons h, ih, or_iff_right h]

/-- What the search finds stands at the first place. -/
lemma isFirstIn_of_find? {cs : List Char} {r : Reference} (h : find? cs = some r) :
    r.IsFirstIn cs := by
  fun_induction find? cs with
  | case1 c d rest hplace =>
    obtain ⟨hc, hd⟩ : c.isAlpha = true ∧ d.isDigit = true := by simpa using hplace
    obtain rfl := Option.some.inj h
    refine ⟨[], c, rest.dropWhile Char.isDigit, ?_, hc, rfl, List.cons_ne_nil _ _, ?_, ?_,
      not_refers_singleton c⟩
    · rw [List.nil_append, List.cons_append, List.takeWhile_append_dropWhile]
    · intro e he
      rcases List.mem_cons.mp he with rfl | he
      · exact hd
      · exact List.mem_takeWhile_imp he
    · intro e he
      have hhead := List.head?_dropWhile_not Char.isDigit rest
      rw [Option.mem_def.mp he] at hhead
      simpa using hhead
  | case2 c d rest hplace ih =>
    obtain ⟨before, letter, after, hcs, hletter, hcol, hne, hds, hafter, hfirst⟩ := ih h
    refine ⟨c :: before, letter, after, by rw [hcs, List.cons_append], hletter, hcol, hne, hds,
      hafter, ?_⟩
    rw [List.cons_append, refers_cons, ← head?_append_cons before letter (r.rowDigits ++ after),
      ← hcs, not_or]
    exact ⟨by simpa using hplace, hfirst⟩
  | case3 cs hshort => cases h

/-- The search finds exactly the reference at the first place where a letter is directly followed
by a digit. -/
theorem find?_eq_some_iff {cs : List Char} {r : Reference} :
    find? cs = some r ↔ r.IsFirstIn cs := by
  refine ⟨isFirstIn_of_find?, ?_⟩
  rintro ⟨before, letter, after, rfl, hletter, hcol, hne, hds, hafter, hfirst⟩
  rw [find?_append hfirst, find?_letter_digits hletter hne hds hafter, hcol]

/-! ### Texts around a reference -/

/-- The search passes over a text in which it finds nothing, unless a digit follows. -/
theorem find?_append_of_not_refers {before cs : List Char} (h : ¬ Refers before)
    (hcs : ∀ d ∈ cs.head?, d.isDigit = false) : find? (before ++ cs) = find? cs := by
  cases cs with
  | nil => rw [List.append_nil]; exact find?_eq_none_iff.mpr h
  | cons c cs => exact find?_append (not_refers_concat h (hcs c rfl)) cs

/-- What is found in a text is found as well when more text follows, unless a digit comes next. -/
theorem find?_append_of_find? {cs after : List Char} {r : Reference} (h : find? cs = some r)
    (hafter : ∀ d ∈ after.head?, d.isDigit = false) : find? (cs ++ after) = some r := by
  obtain ⟨before, letter, rest, rfl, hletter, hcol, hne, hds, hrest, hfirst⟩ :=
    find?_eq_some_iff.mp h
  refine find?_eq_some_iff.mpr
    ⟨before, letter, rest ++ after, by simp, hletter, hcol, hne, hds, ?_, hfirst⟩
  cases rest with
  | nil => exact hafter
  | cons d rest => exact hrest

/-! ### The cell of a reference -/

/-- The capital of a letter is not before `A`. -/
lemma le_toNat_toUpper {c : Char} (hc : c.isAlpha = true) : 'A'.toNat ≤ c.toUpper.toNat := by
  have hupper : c.toUpper.isUpper = true := by rw [Char.isUpper_toUpper_eq_isAlpha, hc]
  rw [Char.isUpper, decide_eq_true_eq] at hupper
  exact UInt32.le_iff_toNat_le.mp hupper.1

/-- The address of a reference in a text is the cell that it names. -/
theorem position?_eq_some_iff {r : Reference} {cs : List Char} (h : r.IsFirstIn cs)
    {p : Position} : r.position? = some p ↔ r.Names p := by
  obtain ⟨before, letter, after, -, hletter, hcol, hne, hds, -, -⟩ := h
  have hle : 'A'.toNat ≤ r.column.toNat := hcol ▸ le_toNat_toUpper hletter
  have hnumber : Text.isNumber r.rowDigits = true := Text.isNumber_iff.mpr ⟨hne, hds⟩
  constructor
  · intro hp
    unfold position? at hp
    split at hp
    · next row hrow =>
      obtain rfl := Option.some.inj hp
      obtain ⟨-, hvalue, hlt⟩ := Text.word?_eq_some_iff.mp hrow
      exact ⟨(Nat.add_sub_cancel' hle).symm, hvalue, hlt⟩
    · cases hp
  · rintro ⟨hp, hvalue, hlt⟩
    have hrow : Text.word? r.rowDigits = some (p.row + 1) :=
      Text.word?_eq_some_iff.mpr ⟨hnumber, hvalue, hlt⟩
    simp only [position?, hrow, hp, Nat.add_sub_cancel_left]

end Reference

end Worksheet
