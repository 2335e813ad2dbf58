import Mathlib
import Worksheet.Proofs.Formula.Literal
import Worksheet.Proofs.Number.Longest
import Worksheet.Proofs.Text.Digits

/-!
# The numbers of literals

A literal is the word for infinity or digits with at most one point (`IsLiteral.size_of_scan?`), so
the number that it stands for is the plain value of its characters (`plainValue_chars`), correctly
rounded.  It is never negative, and infinite only for the word or where the digits overflow.
-/

namespace Worksheet

/-! ### Digits with a point -/

/-- A text has digits only, and at most one point. -/
structure IsPlain (cs : List Char) : Prop where
  digit_or_point : ∀ c ∈ cs, c.isDigit = true ∨ c = '.'
  count_point : cs.count '.' ≤ 1

/-- The number that digits with a point denote: that of the digits, divided by ten for each digit
behind the point. -/
def plainValue (cs : List Char) : ℚ :=
  Text.placeValue 10 Text.digitWeight (cs.filter (· != '.')) /
    10 ^ ((cs.dropWhile (· != '.')).length - 1)

namespace Unsigned

variable {whole : List Char} {fraction : Option (List Char)}

lemma chars_whole (whole : List Char) : (decimal whole none none).chars = whole := by
  simp [chars]

lemma chars_point (whole ds : List Char) :
    (decimal whole (some ds) none).chars = whole ++ '.' :: ds := by
  simp [chars]

lemma ne_point_of_isDigit {c : Char} (h : c.isDigit = true) : (c != '.') = true := by
  rw [bne_iff_ne]
  rintro rfl
  cases h

lemma count_point_of_isDigit {ds : List Char} (h : ∀ c ∈ ds, c.isDigit = true) :
    ds.count '.' = 0 :=
  List.count_eq_zero.mpr fun hmem => by cases h '.' hmem

lemma filter_of_isDigit {ds : List Char} (h : ∀ c ∈ ds, c.isDigit = true) :
    ds.filter (· != '.') = ds :=
  List.filter_eq_self.mpr fun c hc => ne_point_of_isDigit (h c hc)

/-- Without an exponent a number has at most one character that is no digit: its point. -/
lemma isPlain_chars (h : (decimal whole fraction none).WellFormed) :
    IsPlain (decimal whole fraction none).chars := by
  obtain - | ⟨hwhole, hfraction, -, -⟩ := h
  cases fraction with
  | none =>
    rw [chars_whole]
    exact ⟨fun c hc => Or.inl (hwhole c hc), by rw [count_point_of_isDigit hwhole]; exact zero_le_one⟩
  | some ds =>
    have hds : ∀ c ∈ ds, c.isDigit = true := hfraction ds rfl
    rw [chars_point]
    refine ⟨fun c hc => ?_, ?_⟩
    · rw [List.mem_append, List.mem_cons] at hc
      rcases hc with hc | rfl | hc
      · exact Or.inl (hwhole c hc)
      · exact Or.inr rfl
      · exact Or.inl (hds c hc)
    · rw [List.count_append, List.count_cons_self, count_point_of_isDigit hwhole,
        count_point_of_isDigit hds]

/-- Without an exponent the plain value of the characters is what a number denotes. -/
lemma plainValue_chars (h : (decimal whole fraction none).WellFormed) :
    plainValue (decimal whole fraction none).chars = (toDecimal whole fraction none).value := by
  obtain - | ⟨hwhole, hfraction, -, -⟩ := h
  have hpoint : ∀ c ∈ whole, (c != '.') = true := fun c hc => ne_point_of_isDigit (hwhole c hc)
  rw [Decimal.value_eq, toDecimal, Text.digitsValue_eq_placeValue, plainValue, Option.elim_none]
  cases fraction with
  | none =>
    rw [chars_whole, filter_of_isDigit hwhole, List.dropWhile_eq_nil_iff.mpr hpoint]
    simp
  | some ds =>
    have hdrop : (whole ++ '.' :: ds).dropWhile (· != '.') = '.' :: ds := by
      rw [List.dropWhile_append_of_pos hpoint]
      rfl
    have hfilter : (whole ++ '.' :: ds).filter (· != '.') = whole ++ ds := by
      rw [List.filter_append, List.filter_cons_of_neg (by simp), filter_of_isDigit hwhole,
        filter_of_isDigit (hfraction ds rfl)]
    rw [chars_point, hdrop, hfilter]
    simp [div_eq_mul_inv]

/-- The word for infinity is not made of digits. -/
lemma chars_ne_infinityWord (h : (decimal whole fraction none).WellFormed) :
    (decimal whole fraction none).chars ≠ infinityWord := by
  intro hword
  have hfirst := (isPlain_chars h).digit_or_point 'I' (by rw [hword]; exact List.mem_cons_self)
  rcases hfirst with hfirst | hfirst <;> cases hfirst

end Unsigned

/-! ### Literals -/

namespace IsLiteral

variable {cs rest : List Char} {n : Numeral}

lemma sign_of_scan? (h : IsLiteral cs) (hscan : Numeral.scan? cs = some (n, rest)) :
    n.sign = none := by
  rw [Numeral.scan?, h.sign_scan_eq] at hscan
  obtain ⟨⟨size, tail⟩, -, hn⟩ := Option.map_eq_some_iff.mp hscan
  obtain rfl := congrArg Prod.fst hn
  rfl

/-- What is taken from a literal is the word for infinity or has no exponent. -/
lemma size_of_scan? (h : IsLiteral cs) (hscan : Numeral.scan? cs = some (n, rest)) :
    n.size = .infinity ∨ ∃ whole fraction, n.size = .decimal whole fraction none := by
  rw [Numeral.scan?, h.sign_scan_eq] at hscan
  obtain ⟨⟨size, tail⟩, hsize, hn⟩ := Option.map_eq_some_iff.mp hscan
  obtain rfl := congrArg Prod.fst hn
  have hfirst := h.unsigned_scan?_eq
  rw [hsize, Option.map_some] at hfirst
  split at hfirst
  · exact Or.inl (Option.some.inj hfirst)
  · unfold Unsigned.scanPlain? at hfirst
    dsimp only at hfirst
    split at hfirst
    · cases hfirst
    · exact Or.inr ⟨_, _, Option.some.inj hfirst⟩

end IsLiteral

/-- A number without an exponent denotes a finite double as long as its value does not overflow. -/
lemma Unsigned.Denotes.isFinite_iff {whole : List Char} {fraction : Option (List Char)} {x : Float}
    (h : (Unsigned.decimal whole fraction none).Denotes (Binary64.number x)) :
    x.isFinite = true ↔ (toDecimal whole fraction none).value < 2 ^ 1024 - 2 ^ 970 := by
  have hrounds : Binary64.Rounds _ (Binary64.number x) := h
  rw [Binary64.isFinite_iff_number_lt, ← not_le, ← not_le, not_iff_not,
    ← Binary64.rounds_infinity_iff_le]
  constructor
  · intro hle
    rwa [le_antisymm hrounds.le_infinity hle] at hrounds
  · intro hinfinity
    exact (hrounds.unique hinfinity).ge

namespace Formula

open Numeral

/-- A side of a formula that does not refer to a cell and is read as a number is read from the word
for infinity or from digits with at most one point.  The number is not negative, and it is finite
unless it is read from the word or from digits that overflow. -/
theorem literal_unsigned {body side : List Char} {x : Float}
    (hside : side ∈ (ofBody body).sides) (href : Reference.find? side = none)
    (hread : read? side = some x) :
    ∃ n : Numeral, n.IsLongest (withoutSpace side) ∧ n.Denotes x ∧
      (n.chars = Unsigned.infinityWord ∨ IsPlain n.chars) ∧
      Binary64.isNegative x = false ∧
      (x.isFinite = true ↔
        n.chars ≠ Unsigned.infinityWord ∧ plainValue n.chars < 2 ^ 1024 - 2 ^ 970) := by
  obtain ⟨n, hlongest, hdenotes⟩ := ((read?_longest side).2 x).mp hread
  have hliteral : IsLiteral (withoutSpace side) :=
    (IsLiteral.of_mem_sides hside href).of_suffix (List.dropWhile_suffix _)
  obtain ⟨rest, hscan⟩ := exists_scan?_iff.mpr hlongest
  refine ⟨n, hlongest, hdenotes, ?_⟩
  have hform : n.size.WellFormed := hlongest.1.1
  have hsize := hliteral.size_of_scan? hscan
  obtain ⟨sign, size⟩ := n
  obtain rfl : sign = none := hliteral.sign_of_scan? hscan
  obtain ⟨hsign, hnumber⟩ := hdenotes
  change size.Denotes (Binary64.number x) at hnumber
  have hchars : Numeral.chars ⟨none, size⟩ = size.chars := rfl
  rw [hchars]
  refine ⟨?_, hsign, ?_⟩
  · rcases hsize with rfl | ⟨whole, fraction, rfl⟩
    · exact Or.inl rfl
    · exact Or.inr (Unsigned.isPlain_chars hform)
  · rcases hsize with rfl | ⟨whole, fraction, rfl⟩
    · have hinfinite : Binary64.number x = Binary64.infinity := hnumber
      rw [Binary64.isFinite_iff_number_lt, hinfinite]
      exact iff_of_false (lt_irrefl _) fun h => h.1 rfl
    · rw [hnumber.isFinite_iff, Unsigned.plainValue_chars hform]
      exact (and_iff_right (Unsigned.chars_ne_infinityWord hform)).symm

/-- The exponent of this body is cut at its sign, so its left side is read as 12.5. -/
theorem literal_unsigned_of_exponent :
    let side := " 12.5e".toList
    side ∈ (ofBody " 12.5e+3".toList).sides ∧ Reference.find? side = none ∧
      read? side = some 12.5 ∧
      ∃ n : Numeral, n.IsLongest "12.5e".toList ∧ n.Denotes 12.5 ∧
        (n.chars = Unsigned.infinityWord ∨ IsPlain n.chars) ∧
        Binary64.isNegative 12.5 = false ∧
        ((12.5 : Float).isFinite = true ↔
          n.chars ≠ Unsigned.infinityWord ∧ plainValue n.chars < 2 ^ 1024 - 2 ^ 970) := by
  intro side
  have hside : side ∈ (ofBody " 12.5e+3".toList).sides := by decide
  have href : Reference.find? side = none := by decide
  have hread : read? side = some 12.5 := by decide +kernel
  exact ⟨hside, href, hread, literal_unsigned hside href hread⟩

/-- Digits overflow without the word. -/
example : (read? (List.replicate 308 '9')).map Float.isFinite = some true ∧
    (read? (List.replicate 309 '9')).map Float.isFinite = some false := by decide +kernel

end Formula

end Worksheet
