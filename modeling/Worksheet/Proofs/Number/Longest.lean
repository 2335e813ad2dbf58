import Mathlib
import Worksheet.Proofs.Number.Kind
import Worksheet.Proofs.Number.Nearest
import Worksheet.Proofs.Number.Numeral

/-!
# The longest numeral counts

A numeral is read part by part, and each part is taken as far as it goes.  What is taken is a
numeral (`scan?_sound`), and no numeral at the start of the text is longer (`exists_scan?_append`):
a part that could be taken farther would only be cut short by a character with which no later part
starts.

`read?_longest` says what is read from a text without saying how it is read: nothing if no numeral
stands behind the leading space, and else the double that the longest one denotes.  A decimal
denotes the double that it rounds to correctly.
-/

namespace Worksheet

/-! ### What is taken is a numeral -/

/-- A sign and the rest are the text. -/
lemma Sign.chars_append_scan (cs : List Char) :
    Sign.chars (Sign.scan cs).1 ++ (Sign.scan cs).2 = cs := by
  unfold Sign.scan
  split <;> rfl

lemma isDigit_of_mem_takeWhile (cs : List Char) :
    ∀ c ∈ cs.takeWhile Char.isDigit, c.isDigit = true := by
  intro c hc
  exact List.mem_takeWhile_imp hc

/-- What is taken for an exponent is one, and with the rest it is the text. -/
lemma Exponent.scan_sound (cs : List Char) :
    (∀ e ∈ (scan cs).1, e.WellFormed) ∧
      (scan cs).1.elim [] Exponent.chars ++ (scan cs).2 = cs := by
  cases cs with
  | nil => exact ⟨fun e he => absurd he (Option.not_mem_none e), rfl⟩
  | cons mark rest =>
    simp only [scan]
    split
    · next h =>
      obtain ⟨hmark, hdigits⟩ := Bool.and_eq_true_iff.mp h
      refine ⟨?_, ?_⟩
      · intro e he
        obtain rfl := Option.some.inj he
        exact ⟨by simpa using hmark, by simpa using hdigits, isDigit_of_mem_takeWhile _⟩
      · rw [Option.elim_some, chars, List.cons_append, List.append_assoc,
          List.takeWhile_append_dropWhile, Sign.chars_append_scan]
    · exact ⟨fun e he => absurd he (Option.not_mem_none e), rfl⟩

namespace Unsigned

/-- A point with its digits and the rest are the text. -/
lemma scanFraction_sound (cs : List Char) :
    (∀ ds ∈ (scanFraction cs).1, ∀ c ∈ ds, c.isDigit = true) ∧
      (scanFraction cs).1.elim [] ('.' :: ·) ++ (scanFraction cs).2 = cs := by
  unfold scanFraction
  split
  · next cs =>
    refine ⟨?_, ?_⟩
    · intro ds hds
      obtain rfl := Option.some.inj hds
      exact isDigit_of_mem_takeWhile cs
    · rw [Option.elim_some, List.cons_append, List.takeWhile_append_dropWhile]
  · exact ⟨fun ds hds => absurd hds (Option.not_mem_none ds), rfl⟩

/-- What is taken is a numeral, and with the rest it is the text. -/
lemma scan?_sound {cs rest : List Char} {u : Unsigned} (h : scan? cs = some (u, rest)) :
    u.WellFormed ∧ u.chars ++ rest = cs := by
  unfold scan? at h
  split at h
  · next hword =>
    cases h
    refine ⟨.infinity, ?_⟩
    obtain ⟨tail, rfl⟩ := List.isPrefixOf_iff_prefix.mp hword
    rw [List.drop_left, chars]
  · obtain ⟨hfraction, hrest⟩ := scanFraction_sound (cs.dropWhile Char.isDigit)
    obtain ⟨hexponent, htail⟩ := Exponent.scan_sound (scanFraction (cs.dropWhile Char.isDigit)).2
    simp only at h
    split at h
    · cases h
    · next hdigit =>
      cases h
      refine ⟨.decimal (isDigit_of_mem_takeWhile cs) hfraction ?_ hexponent, ?_⟩
      · rw [Bool.not_eq_true, Bool.and_eq_false_iff, List.isEmpty_eq_false_iff,
          List.isEmpty_eq_false_iff] at hdigit
        exact hdigit
      · rw [chars, List.append_assoc, htail, List.append_assoc, hrest,
          List.takeWhile_append_dropWhile]

end Unsigned

/-- What is taken is a numeral, and with the rest it is the text. -/
lemma Numeral.scan?_sound {cs rest : List Char} {n : Numeral} (h : scan? cs = some (n, rest)) :
    n.size.WellFormed ∧ n.chars ++ rest = cs := by
  have hmap : (Unsigned.scan? (Sign.scan cs).2).map
      (fun p => ((⟨(Sign.scan cs).1, p.1⟩ : Numeral), p.2)) = some (n, rest) := h
  obtain ⟨⟨size, tail⟩, hsize, hn⟩ := Option.map_eq_some_iff.mp hmap
  obtain ⟨rfl, rfl⟩ := Prod.mk.inj hn
  obtain ⟨hform, hchars⟩ := Unsigned.scan?_sound hsize
  refine ⟨hform, ?_⟩
  rw [chars, List.append_assoc, hchars, Sign.chars_append_scan]

/-! ### No numeral is longer -/

/-- An exponent is taken at least as far as it goes. -/
lemma Exponent.length_scan_le {exponent : Option Exponent} (h : ∀ e ∈ exponent, e.WellFormed)
    (tail : List Char) :
    (scan (exponent.elim [] Exponent.chars ++ tail)).2.length ≤ tail.length := by
  cases exponent with
  | none =>
    have hlength := congrArg List.length (scan_sound tail).2
    rw [List.length_append] at hlength
    simp only [Option.elim_none, List.nil_append]
    omega
  | some e =>
    obtain ⟨hmark, hne, hdigits⟩ := h e rfl
    have hsign :
        Sign.scan (Sign.chars e.sign ++ (e.digits ++ tail)) = (e.sign, e.digits ++ tail) := by
      refine Sign.scan_chars e.sign ?_
      intro c hc
      rw [List.head?_append_of_ne_nil _ hne] at hc
      exact ne_sign_of_isDigit (hdigits c (List.mem_of_mem_head? hc))
    have hdrop : (e.digits ++ tail).dropWhile Char.isDigit = tail.dropWhile Char.isDigit :=
      List.dropWhile_append_of_pos hdigits
    have htake : (!((e.digits ++ tail).takeWhile Char.isDigit).isEmpty) = true := by
      rw [List.takeWhile_append_of_pos hdigits]
      simp [hne]
    have hletter : (e.mark == 'e' || e.mark == 'E') = true := by simpa using hmark
    simp only [Option.elim_some, chars, List.cons_append, List.append_assoc, scan, hsign, hletter,
      htake, Bool.and_self, if_true, hdrop]
    exact List.length_dropWhile_le _ _

namespace Unsigned

variable {whole : List Char} {fraction : Option (List Char)} {exponent : Option Exponent}

/-- What is left of a text behind its whole digits: a point with its digits and an exponent are
taken off. -/
def afterWhole (cs : List Char) : List Char := (Exponent.scan (scanFraction cs).2).2

/-- Nothing is added to a text. -/
lemma length_afterWhole_le (cs : List Char) : (afterWhole cs).length ≤ cs.length := by
  have hfraction := congrArg List.length (scanFraction_sound cs).2
  have hexponent := congrArg List.length (Exponent.scan_sound (scanFraction cs).2).2
  rw [List.length_append] at hfraction hexponent
  rw [afterWhole]
  omega

/-- A fraction and an exponent are taken at least as far as they go. -/
lemma length_afterWhole_append_le (hfraction : ∀ ds ∈ fraction, ∀ c ∈ ds, c.isDigit = true)
    (hexponent : ∀ e ∈ exponent, e.WellFormed) (tail : List Char) :
    (afterWhole (fraction.elim [] ('.' :: ·) ++
      (exponent.elim [] Exponent.chars ++ tail))).length ≤ tail.length := by
  cases exponent with
  | none =>
    cases fraction with
    | none => exact length_afterWhole_le tail
    | some ds =>
      have hdrop : (scanFraction ('.' :: (ds ++ tail))).2 = tail.dropWhile Char.isDigit :=
        List.dropWhile_append_of_pos (hfraction ds rfl)
      have hlength := congrArg List.length (Exponent.scan_sound (tail.dropWhile Char.isDigit)).2
      rw [List.length_append] at hlength
      have hle := List.length_dropWhile_le Char.isDigit tail
      simp only [Option.elim_some, Option.elim_none, List.nil_append, List.cons_append, afterWhole,
        hdrop]
      omega
  | some e =>
    -- an exponent starts with a letter, which ends the digits behind the point
    have hstop : ∀ c ∈ (e.chars ++ tail).head?, c ≠ '.' ∧ c.isDigit = false := by
      intro c hc
      rw [List.head?_append, e.head?_chars] at hc
      exact isDigit_of_mem_head?_exponent hexponent c hc
    have hscan : scanFraction (fraction.elim [] ('.' :: ·) ++ (e.chars ++ tail)) =
        (fraction, e.chars ++ tail) := scanFraction_append hfraction hstop
    rw [Option.elim_some, afterWhole, hscan]
    exact Exponent.length_scan_le hexponent tail

/-- Whole digits are taken at least as far as they go, and what follows with them. -/
lemma length_afterWhole_dropWhile_le (hwhole : ∀ c ∈ whole, c.isDigit = true)
    (hfraction : ∀ ds ∈ fraction, ∀ c ∈ ds, c.isDigit = true)
    (hexponent : ∀ e ∈ exponent, e.WellFormed) (tail : List Char) :
    (afterWhole (((decimal whole fraction exponent).chars ++ tail).dropWhile Char.isDigit)).length
      ≤ tail.length := by
  have hchars : (decimal whole fraction exponent).chars ++ tail =
      whole ++ (fraction.elim [] ('.' :: ·) ++ (exponent.elim [] Exponent.chars ++ tail)) := by
    simp [chars]
  rw [hchars]
  by_cases hnone : fraction = none ∧ exponent = none
  · obtain ⟨rfl, rfl⟩ := hnone
    have hdrop : (whole ++ tail).dropWhile Char.isDigit = tail.dropWhile Char.isDigit :=
      List.dropWhile_append_of_pos hwhole
    have hle := List.length_dropWhile_le Char.isDigit tail
    simp only [Option.elim_none, List.nil_append, hdrop]
    exact (length_afterWhole_le _).trans hle
  · -- a point or a letter ends the digits
    have hstop : ∀ c ∈ (fraction.elim [] ('.' :: ·) ++
        (exponent.elim [] Exponent.chars ++ tail)).head?, c.isDigit = false := by
      cases fraction with
      | some ds =>
        intro c hc
        obtain rfl := Option.some.inj hc
        rfl
      | none =>
        cases exponent with
        | none => exact absurd ⟨rfl, rfl⟩ hnone
        | some e =>
          intro c hc
          rw [Option.elim_none, List.nil_append, Option.elim_some, List.head?_append,
            e.head?_chars] at hc
          exact (isDigit_of_mem_head?_exponent hexponent c hc).2
    rw [Text.dropWhile_run hwhole hstop]
    exact length_afterWhole_append_le hfraction hexponent tail

/-- A text that starts with a digit, or with a point and a digit, is read. -/
lemma scan?_eq_some {cs : List Char} (hword : infinityWord.isPrefixOf cs = false)
    (hdigit : cs.takeWhile Char.isDigit ≠ [] ∨
      (scanFraction (cs.dropWhile Char.isDigit)).1.getD [] ≠ []) :
    ∃ u, scan? cs = some (u, afterWhole (cs.dropWhile Char.isDigit)) := by
  have hsome : ((cs.takeWhile Char.isDigit).isEmpty &&
      ((scanFraction (cs.dropWhile Char.isDigit)).1.getD []).isEmpty) = false := by
    rw [Bool.and_eq_false_iff, List.isEmpty_eq_false_iff, List.isEmpty_eq_false_iff]
    exact hdigit
  set point := scanFraction (cs.dropWhile Char.isDigit) with hpoint
  refine ⟨decimal (cs.takeWhile Char.isDigit) point.1 (Exponent.scan point.2).1, ?_⟩
  simp only [scan?, hword, hsome, ← hpoint, Bool.false_eq_true, if_false]
  rfl

/-- A text that starts with a numeral is read, and at least as far as the numeral goes. -/
lemma exists_scan?_append {u : Unsigned} (h : u.WellFormed) (tail : List Char) :
    ∃ v rest, scan? (u.chars ++ tail) = some (v, rest) ∧ rest.length ≤ tail.length := by
  cases h with
  | infinity => exact ⟨.infinity, tail, rfl, le_rfl⟩
  | @decimal whole fraction exponent hwhole hfraction hdigit hexponent =>
    have hrest := length_afterWhole_dropWhile_le hwhole hfraction hexponent tail
    obtain ⟨c, hc, hfirst⟩ := head?_chars_decimal hwhole hdigit exponent
    set cs := (Unsigned.decimal whole fraction exponent).chars ++ tail with hcs
    have hhead : cs.head? = some c := by rw [hcs, List.head?_append, hc, Option.some_or]
    have hparts : cs = whole ++ (fraction.elim [] ('.' :: ·) ++
        (exponent.elim [] Exponent.chars ++ tail)) := by simp [hcs, chars]
    have hdigit' : cs.takeWhile Char.isDigit ≠ [] ∨
        (scanFraction (cs.dropWhile Char.isDigit)).1.getD [] ≠ [] := by
      by_cases hnil : whole = []
      · -- the digits behind the point are taken
        right
        subst hnil
        cases fraction with
        | none => exact absurd rfl (hdigit.resolve_left (not_not.mpr rfl))
        | some ds =>
          have hne : ds ≠ [] := hdigit.resolve_left (not_not.mpr rfl)
          rw [hparts]
          change (ds ++ (exponent.elim [] Exponent.chars ++ tail)).takeWhile Char.isDigit ≠ []
          rw [List.takeWhile_append_of_pos (hfraction ds rfl)]
          exact List.append_ne_nil_of_left_ne_nil hne _
      · left
        rw [hparts, List.takeWhile_append_of_pos hwhole]
        exact List.append_ne_nil_of_left_ne_nil hnil _
    obtain ⟨v, hv⟩ := scan?_eq_some (isPrefixOf_infinityWord hhead hfirst) hdigit'
    exact ⟨v, _, hv, hrest⟩

end Unsigned

namespace Numeral

variable {cs : List Char} {n : Numeral} {x : Float}

/-- A text that starts with a numeral is read, and at least as far as the numeral goes. -/
lemma exists_scan?_append (h : n.size.WellFormed) (tail : List Char) :
    ∃ m rest, scan? (n.chars ++ tail) = some (m, rest) ∧ rest.length ≤ tail.length := by
  obtain ⟨v, rest, hv, hle⟩ := Unsigned.exists_scan?_append h tail
  obtain ⟨c, hc, hsign, -⟩ := head?_chars_unsigned h
  have hscan : Sign.scan (Sign.chars n.sign ++ (n.size.chars ++ tail)) =
      (n.sign, n.size.chars ++ tail) := by
    refine Sign.scan_chars n.sign ?_
    intro d hd
    rw [List.head?_append, hc] at hd
    obtain rfl := Option.some.inj hd
    exact hsign
  refine ⟨⟨n.sign, v⟩, rest, ?_, hle⟩
  rw [chars, List.append_assoc, scan?, hscan]
  simp only [hv, Option.map_some]

/-! ### The longest numeral -/

/-- A text starts with a numeral. -/
def Begins (n : Numeral) (cs : List Char) : Prop := n.size.WellFormed ∧ n.chars <+: cs

/-- A numeral is the longest one with which a text starts. -/
def IsLongest (n : Numeral) (cs : List Char) : Prop :=
  n.Begins cs ∧ ∀ m : Numeral, m.Begins cs → m.chars.length ≤ n.chars.length

/-- Nothing is taken from a text exactly if it starts with no numeral. -/
lemma scan?_eq_none_iff : scan? cs = none ↔ ∀ n : Numeral, ¬ n.Begins cs := by
  constructor
  · rintro hnone n ⟨hform, tail, rfl⟩
    obtain ⟨m, rest, hm, -⟩ := exists_scan?_append hform tail
    rw [hnone] at hm
    cases hm
  · intro hall
    by_contra hsome
    obtain ⟨⟨n, rest⟩, hn⟩ := Option.ne_none_iff_exists'.mp hsome
    obtain ⟨hform, hchars⟩ := scan?_sound hn
    exact hall n ⟨hform, rest, hchars⟩

/-- A numeral is known by its text. -/
lemma eq_of_chars_eq {m : Numeral} (hm : m.size.WellFormed) (hn : n.size.WellFormed)
    (h : m.chars = n.chars) : m = n := by
  have hscan := scan?_chars hm
  rw [h, scan?_chars hn] at hscan
  cases hscan
  rfl

/-- What is taken from a text is the longest numeral with which it starts. -/
lemma exists_scan?_iff : (∃ rest, scan? cs = some (n, rest)) ↔ n.IsLongest cs := by
  have hlongest : ∀ {m rest}, scan? cs = some (m, rest) → m.IsLongest cs := by
    intro m rest hm
    obtain ⟨hform, hchars⟩ := scan?_sound hm
    refine ⟨⟨hform, rest, hchars⟩, ?_⟩
    rintro k ⟨hk, tail, htail⟩
    obtain ⟨m', rest', hm', hle⟩ := exists_scan?_append hk tail
    rw [htail, hm] at hm'
    cases hm'
    have hlength := congrArg List.length (hchars.trans htail.symm)
    rw [List.length_append, List.length_append] at hlength
    omega
  constructor
  · rintro ⟨rest, hn⟩
    exact hlongest hn
  · rintro ⟨hbegins, hmax⟩
    obtain ⟨⟨m, rest⟩, hm⟩ : ∃ p, scan? cs = some p := by
      rw [← Option.ne_none_iff_exists', Ne, scan?_eq_none_iff]
      intro hall
      exact hall n hbegins
    obtain ⟨⟨hform, hstart⟩, hmax'⟩ := hlongest hm
    have hlength : m.chars.length = n.chars.length :=
      le_antisymm (hmax m ⟨hform, hstart⟩) (hmax' n hbegins)
    have hchars : m.chars = n.chars :=
      (List.prefix_of_prefix_length_le hstart hbegins.2 hlength.le).eq_of_length hlength
    obtain rfl := eq_of_chars_eq hform hbegins.1 hchars
    exact ⟨rest, hm⟩

end Numeral

/-! ### What a numeral denotes -/

/-- A numeral without its sign denotes infinity, or the double that is the decimal correctly
rounded. -/
def Unsigned.Denotes : Unsigned → ℕ → Prop
  | infinity, b => b = Binary64.infinity
  | decimal whole fraction exponent, b =>
    Binary64.Rounds (toDecimal whole fraction exponent).value b

lemma Decimal.value_nonneg (d : Decimal) : 0 ≤ d.value := by
  rw [value_eq]
  positivity

/-- A numeral without its sign denotes one double, and it is read as that. -/
lemma Unsigned.number_eq_iff {u : Unsigned} {b : ℕ} : u.number = b ↔ u.Denotes b := by
  cases u with
  | infinity => exact eq_comm
  | decimal whole fraction exponent =>
    rw [number, Decimal.nearest_eq, Denotes,
      Binary64.nearest_eq_iff (Decimal.value_nonneg _)]

lemma Unsigned.number_le_infinity (u : Unsigned) : u.number ≤ Binary64.infinity := by
  cases u with
  | infinity => exact le_rfl
  | decimal whole fraction exponent =>
    have hdenotes : (decimal whole fraction exponent).Denotes _ := number_eq_iff.mp rfl
    exact hdenotes.le_infinity

namespace Numeral

variable {cs : List Char} {n : Numeral} {x : Float}

/-- A numeral denotes a double with the sign that is written. -/
def Denotes (n : Numeral) (x : Float) : Prop :=
  Binary64.isNegative x = (n.sign == some .minus) ∧ n.size.Denotes (Binary64.number x)

lemma value_eq_iff : n.value = x ↔ n.Denotes x := by
  constructor
  · rintro rfl
    obtain ⟨hsign, hnumber⟩ :=
      Binary64.parts_ofParts (n.sign == some .minus) n.size.number_le_infinity
    exact ⟨hsign, Unsigned.number_eq_iff.mp hnumber.symm⟩
  · rintro ⟨hsign, hsize⟩
    rw [value, Unsigned.number_eq_iff.mpr hsize, ← hsign, Binary64.ofParts_number]

/-- The code points of the space that is skipped in front of a numeral. -/
def spaceCodes : List ℕ :=
  [0x09, 0x0a, 0x0b, 0x0c, 0x0d, 0x20, 0xa0, 0x1680, 0x2000, 0x2001, 0x2002, 0x2003, 0x2004, 0x2005,
    0x2006, 0x2007, 0x2008, 0x2009, 0x200a, 0x2028, 0x2029, 0x202f, 0x205f, 0x3000, 0xfeff]

/-- A text without the space in front. -/
def withoutSpace (cs : List Char) : List Char := cs.dropWhile fun c => decide (c.toNat ∈ spaceCodes)

lemma isSpace_eq (c : Char) : isSpace c = decide (c.toNat ∈ spaceCodes) := by
  rw [Bool.eq_iff_iff, decide_eq_true_iff]
  constructor
  · intro h
    simp only [isSpace, Bool.or_eq_true, Bool.and_eq_true, decide_eq_true_eq, beq_iff_eq] at h
    simp only [spaceCodes, List.mem_cons, List.not_mem_nil, or_false]
    omega
  · intro h
    have hall : ∀ code ∈ spaceCodes, isSpace (Char.ofNat code) = true := by decide
    rw [← Char.ofNat_toNat c]
    exact hall _ h

lemma dropWhile_isSpace_eq (cs : List Char) : cs.dropWhile isSpace = withoutSpace cs := by
  rw [withoutSpace, ← funext isSpace_eq]

/-- From a text nothing is read exactly if no numeral stands behind the leading space, and else the
double is read that the longest such numeral denotes. -/
theorem read?_longest (cs : List Char) :
    (read? cs = none ↔ ∀ n : Numeral, ¬ n.Begins (withoutSpace cs)) ∧
      ∀ x, read? cs = some x ↔ ∃ n : Numeral, n.IsLongest (withoutSpace cs) ∧ n.Denotes x := by
  rw [read?, dropWhile_isSpace_eq]
  refine ⟨?_, ?_⟩
  · rw [Option.map_eq_none_iff, scan?_eq_none_iff]
  · intro x
    rw [Option.map_eq_some_iff]
    constructor
    · rintro ⟨⟨n, rest⟩, hn, hvalue⟩
      exact ⟨n, exists_scan?_iff.mp ⟨rest, hn⟩, value_eq_iff.mp hvalue⟩
    · rintro ⟨n, hlongest, hdenotes⟩
      obtain ⟨rest, hn⟩ := exists_scan?_iff.mpr hlongest
      exact ⟨(n, rest), hn, value_eq_iff.mpr hdenotes⟩

/-- Nothing of an exponent without digits counts, and neither does a second point. -/
example : (scan? "-5.e+".toList).map Prod.snd = some "e+".toList ∧
    (scan? "3.14.15".toList).map Prod.snd = some ".15".toList := by decide

end Numeral

end Worksheet
