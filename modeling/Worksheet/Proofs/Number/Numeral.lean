import Mathlib
import Worksheet.Number.Numeral
import Worksheet.Proofs.Cell.Name
import Worksheet.Proofs.Text.Runs

/-!
# Numerals are read back

`WellFormed` is the grammar of numerals without a reader.  `scan?_chars` says that the reader takes
every text of the grammar for the numeral that it is, and takes all of it; `read?_chars` adds that
nothing in front of it is skipped.
-/

namespace Worksheet

/-! ### The grammar -/

/-- An exponent has a mark and at least one digit. -/
structure Exponent.WellFormed (e : Exponent) : Prop where
  mark : e.mark = 'e' ∨ e.mark = 'E'
  ne_nil : e.digits ≠ []
  digits : ∀ c ∈ e.digits, c.isDigit = true

/-- A numeral without its sign is the word for infinity, or has a digit before or behind the place
of its point. -/
inductive Unsigned.WellFormed : Unsigned → Prop
  | infinity : WellFormed .infinity
  | decimal {whole : List Char} {fraction : Option (List Char)} {exponent : Option Exponent}
      (hwhole : ∀ c ∈ whole, c.isDigit = true)
      (hfraction : ∀ ds ∈ fraction, ∀ c ∈ ds, c.isDigit = true)
      (hdigit : whole ≠ [] ∨ fraction.getD [] ≠ [])
      (hexponent : ∀ e ∈ exponent, e.WellFormed) : WellFormed (.decimal whole fraction exponent)

/-! ### Signs and exponents -/

/-- A sign is taken off a text that does not start with one. -/
lemma Sign.scan_chars (s : Option Sign) {cs : List Char}
    (h : ∀ c ∈ cs.head?, c ≠ '+' ∧ c ≠ '-') : Sign.scan (Sign.chars s ++ cs) = (s, cs) := by
  cases s with
  | none =>
    change Sign.scan cs = (none, cs)
    unfold Sign.scan
    split
    · exact absurd rfl (h '+' rfl).1
    · exact absurd rfl (h '-' rfl).2
    · rfl
  | some s => cases s <;> rfl

/-- A digit is no sign. -/
lemma ne_sign_of_isDigit {c : Char} (h : c.isDigit = true) : c ≠ '+' ∧ c ≠ '-' := by
  constructor <;> rintro rfl <;> cases h

namespace Exponent

variable {e : Exponent}

lemma head?_chars (e : Exponent) : e.chars.head? = some e.mark := rfl

/-- An exponent is read whole. -/
lemma scan_chars (h : e.WellFormed) : scan e.chars = (some e, []) := by
  obtain ⟨mark, sign, digits⟩ := e
  obtain ⟨hmark, hne, hdigits⟩ := h
  have hsign : Sign.scan (Sign.chars sign ++ digits) = (sign, digits) :=
    Sign.scan_chars sign fun c hc => ne_sign_of_isDigit (hdigits c (List.mem_of_mem_head? hc))
  have htake : digits.takeWhile Char.isDigit = digits := List.takeWhile_eq_self_iff.mpr hdigits
  have hdrop : digits.dropWhile Char.isDigit = [] := List.dropWhile_eq_nil_iff.mpr hdigits
  have hletter : (mark == 'e' || mark == 'E') = true := by simpa using hmark
  have hnonempty : (!digits.isEmpty) = true := by simpa using hne
  simp only [scan, chars, hsign, htake, hdrop, hletter, hnonempty, Bool.and_self, if_true]

end Exponent

/-! ### Numbers without a sign -/

namespace Unsigned

variable {whole : List Char} {fraction : Option (List Char)} {exponent : Option Exponent}

/-- What stands behind the digits of a number starts with no digit. -/
lemma isDigit_of_mem_head?_exponent (hexponent : ∀ e ∈ exponent, e.WellFormed) :
    ∀ c ∈ (exponent.elim [] Exponent.chars).head?, c ≠ '.' ∧ c.isDigit = false := by
  cases exponent with
  | none => simp
  | some e =>
    intro c hc
    rw [Option.elim_some, e.head?_chars] at hc
    obtain rfl := Option.some.inj hc
    rcases (hexponent e rfl).mark with h | h <;> rw [h] <;> decide

/-- A point and its digits are read up to the exponent. -/
lemma scanFraction_append {rest : List Char}
    (hfraction : ∀ ds ∈ fraction, ∀ c ∈ ds, c.isDigit = true)
    (hrest : ∀ c ∈ rest.head?, c ≠ '.' ∧ c.isDigit = false) :
    scanFraction (fraction.elim [] ('.' :: ·) ++ rest) = (fraction, rest) := by
  cases fraction with
  | none =>
    change scanFraction rest = (none, rest)
    unfold scanFraction
    split
    · exact absurd rfl (hrest '.' rfl).1
    · rfl
  | some ds =>
    have hstop : ∀ c ∈ rest.head?, c.isDigit = false := fun c hc => (hrest c hc).2
    simp only [Option.elim_some, List.cons_append, scanFraction,
      Text.takeWhile_run (hfraction ds rfl) hstop, Text.dropWhile_run (hfraction ds rfl) hstop]

/-- A number starts with a digit or with a point. -/
lemma head?_chars_decimal (hwhole : ∀ c ∈ whole, c.isDigit = true)
    (hdigit : whole ≠ [] ∨ fraction.getD [] ≠ []) (exponent : Option Exponent) :
    ∃ c, (decimal whole fraction exponent).chars.head? = some c ∧ (c.isDigit = true ∨ c = '.') := by
  cases whole with
  | cons c whole => exact ⟨c, rfl, Or.inl (hwhole c List.mem_cons_self)⟩
  | nil =>
    cases fraction with
    | none => simp at hdigit
    | some ds => exact ⟨'.', rfl, Or.inr rfl⟩

/-- A text that starts with a digit or with a point does not start with the word for infinity. -/
lemma isPrefixOf_infinityWord {cs : List Char} {c : Char} (hc : cs.head? = some c)
    (hfirst : c.isDigit = true ∨ c = '.') : infinityWord.isPrefixOf cs = false := by
  cases cs with
  | nil => cases hc
  | cons d rest =>
    obtain rfl := Option.some.inj hc
    have hne : ('I' == d) = false := by
      rw [beq_eq_false_iff_ne]
      rintro rfl
      rcases hfirst with hfirst | hfirst <;> cases hfirst
    rw [infinityWord, List.isPrefixOf, hne, Bool.false_and]

/-- A number is read whole. -/
theorem scan?_chars {u : Unsigned} (h : u.WellFormed) : scan? u.chars = some (u, []) := by
  cases h with
  | infinity => rfl
  | @decimal whole fraction exponent hwhole hfraction hdigit hexponent =>
    set number := (decimal whole fraction exponent).chars with hnumber
    have hstop := isDigit_of_mem_head?_exponent hexponent
    obtain ⟨c, hc, hfirst⟩ := head?_chars_decimal hwhole hdigit exponent
    rw [← hnumber] at hc
    have hword : infinityWord.isPrefixOf number = false := isPrefixOf_infinityWord hc hfirst
    have hparts : number = whole ++ (fraction.elim [] ('.' :: ·) ++
        exponent.elim [] Exponent.chars) := List.append_assoc _ _ _
    have hend : ∀ c ∈ (fraction.elim [] ('.' :: ·) ++ exponent.elim [] Exponent.chars).head?,
        c.isDigit = false := by
      cases fraction with
      | none => exact fun c hc => (hstop c hc).2
      | some ds =>
        intro c hc
        obtain rfl := Option.some.inj hc
        rfl
    have htake : number.takeWhile Char.isDigit = whole := hparts ▸ Text.takeWhile_run hwhole hend
    have hdrop : number.dropWhile Char.isDigit =
        fraction.elim [] ('.' :: ·) ++ exponent.elim [] Exponent.chars :=
      hparts ▸ Text.dropWhile_run hwhole hend
    have hexp : Exponent.scan (exponent.elim [] Exponent.chars) = (exponent, []) := by
      cases exponent with
      | none => rfl
      | some e => exact Exponent.scan_chars (hexponent e rfl)
    have hsome : (whole.isEmpty && (fraction.getD []).isEmpty) = false := by
      rw [Bool.and_eq_false_iff, List.isEmpty_eq_false_iff, List.isEmpty_eq_false_iff]
      exact hdigit
    simp only [scan?, hword, Bool.false_eq_true, if_false, htake, hdrop,
      scanFraction_append hfraction hstop, hsome, hexp]

end Unsigned

/-! ### Numerals -/

namespace Numeral

variable {n : Numeral}

/-- No numeral starts with a sign behind its sign, or with a space. -/
lemma head?_chars_unsigned {u : Unsigned} (h : u.WellFormed) :
    ∃ c, u.chars.head? = some c ∧ (c ≠ '+' ∧ c ≠ '-') ∧ isSpace c = false := by
  cases h with
  | infinity => exact ⟨'I', rfl, by decide, rfl⟩
  | @decimal whole fraction exponent hwhole hfraction hdigit hexponent =>
    obtain ⟨c, hc, hfirst⟩ := Unsigned.head?_chars_decimal hwhole hdigit exponent
    refine ⟨c, hc, ?_⟩
    rcases hfirst with hfirst | rfl
    · refine ⟨ne_sign_of_isDigit hfirst, ?_⟩
      rw [isDigit_iff] at hfirst
      simp only [isSpace, Bool.or_eq_false_iff, Bool.and_eq_false_iff, decide_eq_false_iff_not,
        beq_eq_false_iff_ne]
      omega
    · exact ⟨by decide, rfl⟩

/-- A numeral is read whole. -/
theorem scan?_chars (h : n.size.WellFormed) : scan? n.chars = some (n, []) := by
  obtain ⟨c, hc, hsign, -⟩ := head?_chars_unsigned h
  have hscan : Sign.scan (Sign.chars n.sign ++ n.size.chars) = (n.sign, n.size.chars) := by
    refine Sign.scan_chars n.sign fun d hd => ?_
    rw [hc] at hd
    obtain rfl := Option.some.inj hd
    exact hsign
  simp only [scan?, chars, hscan, Unsigned.scan?_chars h, Option.map_some]

/-- No space stands in front of a numeral. -/
lemma dropWhile_isSpace_chars (h : n.size.WellFormed) : n.chars.dropWhile isSpace = n.chars := by
  obtain ⟨c, hc, -, hspace⟩ := head?_chars_unsigned h
  obtain ⟨sign, size⟩ := n
  cases sign with
  | none =>
    cases hsize : size.chars with
    | nil => rw [hsize] at hc; cases hc
    | cons d rest =>
      rw [hsize] at hc
      obtain rfl := Option.some.inj hc
      simp only [chars, hsize]
      exact List.dropWhile_cons_of_neg (by simp [hspace])
  | some s => cases s <;> rfl

/-- A text that is a numeral is read as its value. -/
theorem read?_chars (h : n.size.WellFormed) : read? n.chars = some n.value := by
  rw [read?, dropWhile_isSpace_chars h, scan?_chars h, Option.map_some]

end Numeral

end Worksheet
