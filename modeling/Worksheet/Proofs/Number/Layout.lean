import Mathlib
import Worksheet.Number.Display
import Worksheet.Proofs.Number.Fewest
import Worksheet.Proofs.Number.Kind

/-!
# The layout of a displayed number

`layout` places the point, the zeros and the exponent of a number from its digits and the exponent
of its shortest decimal, and so by the place of the first digit.  The display chooses the notation
by comparing the double with the two limits of plain notation instead.  That comes to the same
(`plainFrom_le_iff`, `lt_plainBelow_iff`): rounding keeps the order of the shortest decimal and of
the limits, and a decimal on the other side of a limit that rounds to the same double would not be
the nearest one with one digit.
-/

namespace Worksheet.Number

open Binary64 Decimal

variable {b : ℕ} {ds : List Char} {e : ℤ}

/-! ### The notations -/

/-- The text of `0.d₁…dₖ · 10ᵉ`: digits and zeros for a whole number below 10²¹, digits around a
point, digits behind a point and at most five zeros, or an exponent with its sign. -/
def layout (ds : List Char) (e : ℤ) : List Char :=
  if ds.length ≤ e ∧ e ≤ 21 then ds ++ List.replicate (e - ds.length).toNat '0'
  else if 0 < e ∧ e ≤ 21 then ds.take e.toNat ++ '.' :: ds.drop e.toNat
  else if -6 < e ∧ e ≤ 0 then '0' :: '.' :: (List.replicate (-e).toNat '0' ++ ds)
  else
    ds.take 1 ++ (if 1 < ds.length then '.' :: ds.drop 1 else []) ++
      'e' :: (if 0 ≤ e - 1 then '+' else '-') :: Text.digits (e - 1).natAbs

lemma positional_eq_layout (hne : ds ≠ []) (he : -6 < e ∧ e ≤ 21) :
    positional ds e = layout ds e := by
  have hlength := List.length_pos_of_ne_nil hne
  obtain ⟨hlow, hhigh⟩ := he
  rw [positional, layout]
  by_cases hsmall : e ≤ 0
  · rw [if_pos hsmall, if_neg (by omega), if_neg (by omega), if_pos ⟨hlow, hsmall⟩]
  · rw [if_neg hsmall]
    by_cases hwhole : ds.length ≤ e.toNat
    · have hzeros : e.toNat - ds.length = (e - ds.length).toNat := by omega
      rw [if_pos hwhole, if_pos ⟨by omega, hhigh⟩, hzeros]
    · rw [if_neg hwhole, if_neg (by omega), if_pos ⟨by omega, hhigh⟩]

lemma scientific_eq_layout (hne : ds ≠ []) (he : ¬ (-6 < e ∧ e ≤ 21)) :
    scientific ds e = layout ds e := by
  have hlength := List.length_pos_of_ne_nil hne
  have hleading : leading ds = ds.take 1 ++ if 1 < ds.length then '.' :: ds.drop 1 else [] := by
    obtain ⟨d, rest, rfl⟩ := List.exists_cons_of_ne_nil hne
    cases rest with
    | nil => rfl
    | cons d' rest => simp [leading]
  have hsign : (if e < 1 then '-' else '+') = if 0 ≤ e - 1 then '+' else '-' := by
    by_cases h : e < 1
    · rw [if_pos h, if_neg (by omega)]
    · rw [if_neg h, if_pos (by omega)]
  have hwhole : ¬ (ds.length ≤ e ∧ e ≤ 21) := by omega
  have hpoint : ¬ (0 < e ∧ e ≤ 21) := by omega
  have hzeros : ¬ (-6 < e ∧ e ≤ 0) := by omega
  rw [scientific, layout, if_neg hwhole, if_neg hpoint, if_neg hzeros, hleading, hsign]

/-! ### The limits of plain notation -/

lemma plainFrom_eq : plainFrom = nearest (10 ^ (-6 : ℤ)) := by
  rw [plainFrom, power_eq_zpow]
  norm_cast

lemma plainBelow_eq : plainBelow = nearest (10 ^ (21 : ℤ)) := by
  rw [plainBelow, power_eq_zpow]
  norm_cast

/-- The upper limit is a double. -/
lemma magnitude_plainBelow : magnitude plainBelow = 10 ^ (21 : ℤ) := by
  have hclosed : magnitude plainBelow = power 10 21 := by decide +kernel
  rw [hclosed, power_eq_zpow]
  norm_cast

/-- The lower limit is not a double, but the nearest double is not far from it. -/
lemma magnitude_plainFrom :
    98 / 10 ^ 8 < magnitude plainFrom ∧ magnitude plainFrom < 102 / 10 ^ 8 := by decide +kernel

/-- The shortest decimal of a double to which a power of ten rounds has one digit, and it is not
farther than the power. -/
lemma one_digit_of_power {q : ℤ} (h : IsShortest (nearest (10 ^ q)) ds e) :
    ds.length = 1 ∧ distance (nearest (10 ^ q)) (ofDigits ds e) ≤
      distance (nearest (10 ^ q)) ⟨1, q⟩ := by
  have hone : (⟨1, q⟩ : Decimal).digitCount = 1 := by
    change (Text.digits 1).length = 1
    decide
  have hrounds : Rounds (⟨1, q⟩ : Decimal).value (nearest (10 ^ q)) := by
    rw [value_one]
    exact rounds_nearest (by positivity)
  have hlength : ds.length = 1 := by
    have hle := h.fewest _ hrounds
    have hpos := List.length_pos_of_ne_nil h.ne_nil
    omega
  exact ⟨hlength, h.closest _ hrounds (hone.trans hlength.symm)⟩

/-- Below the upper limit are the doubles whose shortest decimals are below it. -/
lemma lt_plainBelow_iff (hpos : 0 < b) (h : IsShortest b ds e) : b < plainBelow ↔ e ≤ 21 := by
  obtain ⟨hle, hlt⟩ := h.value_bounds hpos
  have hnearest : nearest (ofDigits ds e).value = b :=
    (nearest_eq_iff (by rw [value_eq]; positivity)).mpr h.rounds
  constructor
  · intro hb
    by_contra he
    have hlarge : (10 : ℚ) ^ (21 : ℤ) ≤ (ofDigits ds e).value :=
      (zpow_le_zpow_right₀ (by norm_num) (by omega)).trans hle
    have hmono := monotone_nearest hlarge
    rw [hnearest, ← plainBelow_eq] at hmono
    omega
  · intro he
    have hsmall : (ofDigits ds e).value < 10 ^ (21 : ℤ) :=
      hlt.trans_le (zpow_le_zpow_right₀ (by norm_num) he)
    have hmono := monotone_nearest hsmall.le
    rw [hnearest, ← plainBelow_eq] at hmono
    refine lt_of_le_of_ne hmono ?_
    rintro rfl
    -- the limit itself would be nearer
    have hself : distance plainBelow ⟨1, 21⟩ = 0 := by
      rw [distance, value_one, magnitude_plainBelow, sub_self, abs_zero]
    have hother : distance plainBelow (ofDigits ds e) = 10 ^ (21 : ℤ) - (ofDigits ds e).value := by
      rw [distance_of_le (by rw [magnitude_plainBelow]; exact hsmall.le), magnitude_plainBelow]
    rw [plainBelow_eq] at h
    have hdistance := (one_digit_of_power h).2
    rw [← plainBelow_eq, hself, hother] at hdistance
    linarith

/-- From the lower limit on are the doubles whose shortest decimals are not below it. -/
lemma plainFrom_le_iff (hpos : 0 < b) (h : IsShortest b ds e) : plainFrom ≤ b ↔ -6 < e := by
  obtain ⟨hle, hlt⟩ := h.value_bounds hpos
  have hnearest : nearest (ofDigits ds e).value = b :=
    (nearest_eq_iff (by rw [value_eq]; positivity)).mpr h.rounds
  constructor
  · intro hb
    by_contra he
    have hsmall : (ofDigits ds e).value < 10 ^ (-6 : ℤ) :=
      hlt.trans_le (zpow_le_zpow_right₀ (by norm_num) (by omega))
    have hmono := monotone_nearest hsmall.le
    rw [hnearest, ← plainFrom_eq] at hmono
    obtain rfl : b = plainFrom := le_antisymm hmono hb
    -- a smaller decimal with one digit would be farther than the limit
    obtain ⟨hlow, hhigh⟩ := magnitude_plainFrom
    have hself : distance plainFrom ⟨1, -6⟩ < 2 / 10 ^ 8 := by
      rw [distance, value_one, abs_lt]
      constructor <;> norm_num at hlow hhigh ⊢ <;> linarith
    rw [plainFrom_eq] at h
    obtain ⟨hlength, hdistance⟩ := one_digit_of_power h
    rw [← plainFrom_eq] at h hdistance
    have hnine : (ofDigits ds e).value ≤ 9 / 10 ^ 7 := by
      have hexp : (ofDigits ds e).exponent ≤ -7 := by
        change e - ds.length ≤ -7
        omega
      have := value_le_of_digitCount_eq_one (h.digitCount_eq.trans hlength) hexp
      norm_num at this ⊢
      exact this
    have hother :
        distance plainFrom (ofDigits ds e) = magnitude plainFrom - (ofDigits ds e).value :=
      distance_of_le (by linarith)
    linarith
  · intro he
    have hlarge : (10 : ℚ) ^ (-6 : ℤ) ≤ (ofDigits ds e).value :=
      (zpow_le_zpow_right₀ (by norm_num) (by omega)).trans hle
    have hmono := monotone_nearest hlarge
    rwa [hnearest, ← plainFrom_eq] at hmono

/-- The text of a positive finite double is the layout of its shortest decimal. -/
lemma magnitudeChars_eq_layout (hpos : 0 < b) (hlt : b < infinity) (h : IsShortest b ds e) :
    magnitudeChars b = layout ds e := by
  obtain ⟨hds, he⟩ := (isShortest_iff hpos hlt).mp h
  have hplain : (plainFrom ≤ b ∧ b < plainBelow) ↔ (-6 < e ∧ e ≤ 21) :=
    and_congr (plainFrom_le_iff hpos h) (lt_plainBelow_iff hpos h)
  simp only [magnitudeChars, ← hds, ← he, hplain]
  split
  · next hin => exact positional_eq_layout h.ne_nil hin
  · next hout => exact scientific_eq_layout h.ne_nil hout

/-- A finite double other than zero has a shortest decimal, and what is displayed is its sign and
the layout of that. -/
theorem display_eq_layout {x : Float} (hfinite : x.isFinite = true) (hzero : (x == 0) = false) :
    (∃ ds e, IsShortest (number x) ds e) ∧
      ∀ ds e, IsShortest (number x) ds e →
        (display x).toList = (if isNegative x then ['-'] else []) ++ layout ds e := by
  obtain ⟨hnan, hinf⟩ := isFinite_iff.mp hfinite
  have hlt := number_lt_infinity hnan hinf
  have hpos : 0 < number x := by
    refine Nat.pos_of_ne_zero ?_
    intro hnumber
    rw [beq_zero_iff.mpr (eq_zero_of_number_eq_zero hnumber)] at hzero
    cases hzero
  refine ⟨⟨_, _, (isShortest_iff hpos hlt).mpr ⟨rfl, rfl⟩⟩, ?_⟩
  intro ds e h
  rw [display, String.toList_ofList, displayChars]
  simp only [if_neg (not_lt.mpr hlt.le), if_neg hpos.ne', if_neg hlt.ne,
    magnitudeChars_eq_layout hpos hlt h]
  cases isNegative x <;> rfl

/-- The negative double next to the lower limit has sixteen digits and an exponent. -/
theorem display_eq_layout_next_to_limit :
    let x := Float.ofBits 0xbeb0c6f7a0b5ed8c
    x.isFinite = true ∧ (x == 0) = false ∧
      IsShortest (number x) "9999999999999997".toList (-6) ∧
      (display x).toList = "-9.999999999999997e-7".toList := by
  intro x
  have hfinite : x.isFinite = true := by decide
  have hzero : (x == 0) = false := by decide
  have hnumber : number x = 0x3eb0c6f7a0b5ed8c := by decide
  have hshortest : shortest 0x3eb0c6f7a0b5ed8c = ⟨9999999999999997, -22⟩ := by decide +kernel
  have h : IsShortest (number x) "9999999999999997".toList (-6) := by
    rw [hnumber, isShortest_iff (by decide) (by decide), hshortest]
    decide
  refine ⟨hfinite, hzero, h, ?_⟩
  rw [(display_eq_layout hfinite hzero).2 _ _ h]
  decide

end Worksheet.Number
