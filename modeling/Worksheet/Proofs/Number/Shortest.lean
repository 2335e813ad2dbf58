import Mathlib
import Worksheet.Proofs.Number.Rounding

/-!
# The shortest decimal reads back

The search for the digits of a double tries one decimal grid after the other, from the coarsest on,
and takes the first point that reads back.  `nearest_shortest` says that it always ends with such a
point: a grid that is fine enough holds the double itself, and a double is its own nearest double.
-/

namespace Worksheet

namespace Binary64

/-- A double is a point of every decimal grid from ten to the power -1074 down. -/
lemma exists_eq_mul_ten_zpow (b : ℕ) {q : ℤ} (hq : q ≤ -1074) :
    ∃ c : ℕ, magnitude b = c * (10 : ℚ) ^ q := by
  obtain ⟨m, e, h, hvalue⟩ := exists_isDouble b
  obtain ⟨k, hk⟩ := Int.eq_ofNat_of_zero_le (show 0 ≤ e - q by have := h.exponent; omega)
  obtain ⟨l, hl⟩ := Int.eq_ofNat_of_zero_le (show 0 ≤ -q by omega)
  refine ⟨m * 2 ^ k * 5 ^ l, ?_⟩
  have hten : (10 : ℚ) ^ q = 2 ^ q * 5 ^ q := by
    rw [← mul_zpow]
    norm_num
  have htwo : (2 : ℚ) ^ k * 2 ^ q = 2 ^ e := by
    rw [← zpow_natCast, ← zpow_add₀ two_ne_zero, ← hk, sub_add_cancel]
  have hfive : (5 : ℚ) ^ l * 5 ^ q = 1 := by
    rw [← zpow_natCast, ← zpow_add₀ (by norm_num), ← hl, neg_add_cancel,
      zpow_zero]
  calc magnitude b = m * 2 ^ e * 1 := by rw [hvalue, mul_one]
    _ = m * (2 ^ k * 2 ^ q) * (5 ^ l * 5 ^ q) := by rw [htwo, hfive]
    _ = ((m * 2 ^ k * 5 ^ l : ℕ) : ℚ) * 10 ^ q := by
      rw [hten]
      push_cast
      ring

end Binary64

namespace Decimal

variable {b : ℕ} {q : ℤ}

/-- A point that is taken from a grid reads back. -/
lemma nearest_of_onGrid? {d : Decimal} (h : onGrid? b q = some d) : d.nearest = b := by
  simp only [onGrid?] at h
  split at h
  · next hlow hhigh =>
    rw [beq_iff_eq] at hlow hhigh
    rw [← Option.some.inj h]
    split
    · exact hlow
    · exact hhigh
  · next hlow _ =>
    rw [← Option.some.inj h]
    exact beq_iff_eq.mp hlow
  · next _ hhigh =>
    rw [← Option.some.inj h]
    exact beq_iff_eq.mp hhigh
  · cases h

/-- The search ends with a point that reads back if its last grid is fine enough. -/
lemma nearest_coarsest (hb : b ≤ Binary64.infinity) {n : ℕ} (hq : q - n ≤ -1074) :
    (coarsest b n q).nearest = b := by
  induction n generalizing q with
  | zero =>
    obtain ⟨c, hc⟩ := Binary64.exists_eq_mul_ten_zpow b (by simpa using hq)
    have hpower : ((10 : ℕ) : ℚ) ^ q ≠ 0 := by positivity
    have hquotient : Binary64.magnitude b / power 10 q = (c : ℚ) := by
      rw [hc, power_eq_zpow]
      exact mul_div_cancel_right₀ _ hpower
    have hfloor : (c : ℚ).floor = c := Int.floor_natCast (R := ℚ) c
    rw [coarsest, hquotient, hfloor, Int.toNat_natCast, nearest_eq, value_eq, ← hc,
      Binary64.nearest_magnitude hb]
  | succ n ih =>
    rw [coarsest]
    split
    · next d hd => exact nearest_of_onGrid? hd
    · exact ih (by push_cast at hq; omega)

/-- The shortest decimal of a double reads back as the double. -/
theorem nearest_shortest (hb : b ≤ Binary64.infinity) : (shortest b).nearest = b := by
  refine nearest_coarsest hb ?_
  have hleast : Binary64.minExponent = -1074 := rfl
  rw [hleast]
  omega

end Decimal

end Worksheet
