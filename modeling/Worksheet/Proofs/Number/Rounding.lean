import Mathlib
import Worksheet.Number.Decimal

/-!
# Rounding to doubles

A nonnegative double is a natural number below 2⁵³ times a power of two, in one way only that the
format knows: `IsDouble`.  `nearest_magnitude` says that rounding leaves it where it is, and
`nearest_eq_infinity` and `nearest_eq_zero` say what becomes of the numbers past the largest and far
below the smallest double.

A decimal is rounded by its value alone (`Decimal.nearest_eq`): the two shortcuts that spare the
computation of a large power agree with the rounding of the value.
-/

namespace Worksheet

/-- The powers of the number formats are the powers of the rationals. -/
lemma power_eq_zpow (base : ℕ) (e : ℤ) : power base e = (base : ℚ) ^ e := by
  cases e with
  | ofNat n => simp [power]
  | negSucc n => simp [power, zpow_negSucc]

namespace Binary64

/-! ### Powers of two around a number -/

/-- The exponent of the largest power of two below a number is its logarithm. -/
lemma floorLog2_eq_log {x : ℚ} (hx : 0 < x) : floorLog2 x = Int.log 2 x := by
  have hnum : 0 < x.num := Rat.num_pos.mpr hx
  have hne : x.num.natAbs ≠ 0 := by omega
  have hvalue : x = (x.num.natAbs : ℚ) / (x.den : ℚ) := by
    rw [Nat.cast_natAbs, abs_of_pos hnum]
    exact (Rat.num_div_den x).symm
  have hden : (0 : ℚ) < x.den := by exact_mod_cast x.den_pos
  set a := x.num.natAbs.log2 with ha
  set b := x.den.log2 with hb
  have hnum_ge : (2 : ℚ) ^ a ≤ x.num.natAbs := by exact_mod_cast Nat.log2_self_le hne
  have hnum_lt : (x.num.natAbs : ℚ) < 2 ^ (a + 1) := by exact_mod_cast Nat.lt_log2_self
  have hden_ge : (2 : ℚ) ^ b ≤ x.den := by exact_mod_cast Nat.log2_self_le x.den_nz
  have hden_lt : (x.den : ℚ) < 2 ^ (b + 1) := by exact_mod_cast Nat.lt_log2_self
  -- the quotient of the two logarithms is right or one too large
  have hupper : x < (2 : ℚ) ^ ((a : ℤ) - b + 1) := by
    rw [hvalue, div_lt_iff₀ hden]
    calc (x.num.natAbs : ℚ) < 2 ^ (a + 1) := hnum_lt
      _ = (2 : ℚ) ^ ((a : ℤ) - b + 1) * 2 ^ b := by
        rw [← zpow_natCast, ← zpow_natCast, ← zpow_add₀ two_ne_zero]
        congr 1
        push_cast
        ring
      _ ≤ (2 : ℚ) ^ ((a : ℤ) - b + 1) * x.den := by gcongr
  have hlower : (2 : ℚ) ^ ((a : ℤ) - b - 1) ≤ x := by
    rw [hvalue, le_div_iff₀ hden]
    calc (2 : ℚ) ^ ((a : ℤ) - b - 1) * x.den ≤ (2 : ℚ) ^ ((a : ℤ) - b - 1) * 2 ^ (b + 1) := by
          gcongr
      _ = 2 ^ a := by
        rw [← zpow_natCast, ← zpow_natCast, ← zpow_add₀ two_ne_zero]
        congr 1
        push_cast
        ring
      _ ≤ x.num.natAbs := hnum_ge
  have hle : (a : ℤ) - b - 1 ≤ Int.log 2 x :=
    (Int.zpow_le_iff_le_log one_lt_two hx).mp (by exact_mod_cast hlower)
  have hlt : Int.log 2 x < (a : ℤ) - b + 1 :=
    (Int.lt_zpow_iff_log_lt one_lt_two hx).mp (by exact_mod_cast hupper)
  simp only [floorLog2, ← ha, ← hb, power_eq_zpow]
  split
  · next hpower =>
    have := (Int.zpow_le_iff_le_log one_lt_two hx).mp hpower
    omega
  · next hpower =>
    have := mt (Int.zpow_le_iff_le_log one_lt_two hx).mpr hpower
    omega

/-! ### Rounding to a natural number -/

/-- A natural number is its own nearest one. -/
lemma roundHalfEven_natCast (n : ℕ) : roundHalfEven (n : ℚ) = n := by
  have hfloor : (n : ℚ).floor = n := Int.floor_natCast (R := ℚ) n
  simp only [roundHalfEven, hfloor, Int.toNat_natCast, sub_self]
  rw [if_pos (by norm_num)]

/-- Rounding never passes a natural number from above. -/
lemma le_roundHalfEven {n : ℕ} {x : ℚ} (h : (n : ℚ) ≤ x) : n ≤ roundHalfEven x := by
  have hfloor : n ≤ x.floor.toNat := by
    have : (n : ℤ) ≤ x.floor := Int.le_floor.mpr (by exact_mod_cast h)
    omega
  simp only [roundHalfEven]
  split
  · exact hfloor
  · split <;> omega

/-- What is less than a half rounds to zero. -/
lemma roundHalfEven_eq_zero {x : ℚ} (hx : 0 ≤ x) (h : x < 1 / 2) : roundHalfEven x = 0 := by
  have hfloor : x.floor = 0 := Int.floor_eq_zero_iff.mpr ⟨hx, h.trans (by norm_num)⟩
  simp only [roundHalfEven, hfloor, Int.toNat_zero, Nat.cast_zero, sub_zero, if_pos h]

/-! ### Doubles as multiples of powers of two -/

/-- The double with number `b` is `m` times two to the power `e`: either `m` has all 53 bits, or `e`
is the least exponent. -/
structure IsDouble (b m : ℕ) (e : ℤ) : Prop where
  number : b = (e + 1074).toNat * 2 ^ 52 + m
  exponent : -1074 ≤ e
  lt : m < 2 ^ 53
  normal : 2 ^ 52 ≤ m ∨ e = -1074

/-- Every number of a double stands for a multiple of a power of two. -/
lemma exists_isDouble (b : ℕ) : ∃ m e, IsDouble b m e ∧ magnitude b = m * (2 : ℚ) ^ e := by
  have hb : b / fractions * 2 ^ 52 + b % fractions = b := Nat.div_add_mod' b fractions
  have hfraction : b % fractions < 2 ^ 52 := Nat.mod_lt b (by decide)
  by_cases hbiased : b / fractions = 0
  · refine ⟨b % fractions, -1074, ⟨?_, le_refl _, by omega, Or.inr rfl⟩, ?_⟩
    · rw [hbiased] at hb
      omega
    · simp only [magnitude, hbiased, if_true, power_eq_zpow, minExponent]
      norm_cast
  · refine ⟨fractions + b % fractions, -1074 + (b / fractions : ℕ) - 1, ⟨?_, ?_, ?_, ?_⟩, ?_⟩
    · have hexp : (-1074 + ((b / fractions : ℕ) : ℤ) - 1 + 1074).toNat = b / fractions - 1 := by
        omega
      rw [hexp, Nat.sub_mul, one_mul]
      change b = b / fractions * 2 ^ 52 - 2 ^ 52 + (2 ^ 52 + b % fractions)
      have hpos : 2 ^ 52 ≤ b / fractions * 2 ^ 52 :=
        Nat.le_mul_of_pos_left _ (Nat.pos_of_ne_zero hbiased)
      omega
    · omega
    · change 2 ^ 52 + b % fractions < 2 ^ 53
      omega
    · exact Or.inl (Nat.le_add_right (2 ^ 52) _)
    · simp only [magnitude, hbiased, if_false, power_eq_zpow, minExponent]
      norm_cast

/-- The exponent with which a positive double is rounded is its own. -/
lemma IsDouble.exponent_eq {b m : ℕ} {e : ℤ} (h : IsDouble b m e) (hm : 0 < m) :
    max (Int.log 2 (m * (2 : ℚ) ^ e) - 52) (-1074) = e := by
  have hpos : (0 : ℚ) < m * 2 ^ e := by positivity
  have hlt : Int.log 2 (m * (2 : ℚ) ^ e) < 53 + e := by
    refine (Int.lt_zpow_iff_log_lt one_lt_two hpos).mp ?_
    rw [Nat.cast_ofNat, zpow_add₀ two_ne_zero]
    have : (m : ℚ) < 2 ^ (53 : ℤ) := by exact_mod_cast h.lt
    gcongr
  rcases h.normal with hnormal | hleast
  · have hle : 52 + e ≤ Int.log 2 (m * (2 : ℚ) ^ e) := by
      refine (Int.zpow_le_iff_le_log one_lt_two hpos).mp ?_
      rw [Nat.cast_ofNat, zpow_add₀ two_ne_zero]
      have : (2 : ℚ) ^ (52 : ℤ) ≤ m := by exact_mod_cast hnormal
      gcongr
    have := h.exponent
    omega
  · omega

/-- Rounding a positive number, with the powers of the rationals. -/
lemma nearest_of_pos {x : ℚ} (hx : 0 < x) {e : ℤ} (he : max (Int.log 2 x - 52) (-1074) = e) :
    nearest x = min ((e + 1074).toNat * 2 ^ 52 + roundHalfEven (x / 2 ^ e)) infinity := by
  have hexp : max (floorLog2 x - fractionBits) minExponent = e := by
    rw [floorLog2_eq_log hx, ← he]
    rfl
  simp only [nearest, if_neg (not_le.mpr hx), hexp, power_eq_zpow]
  rw [minExponent, sub_neg_eq_add, Nat.cast_ofNat]
  rfl

/-- A double is its own nearest double. -/
theorem nearest_magnitude {b : ℕ} (hb : b ≤ infinity) : nearest (magnitude b) = b := by
  obtain ⟨m, e, h, hvalue⟩ := exists_isDouble b
  rw [hvalue]
  rcases Nat.eq_zero_or_pos m with rfl | hm
  · have hnumber := h.number
    have hleast : e = -1074 := h.normal.resolve_left (by decide)
    rw [hleast] at hnumber
    simp only [nearest, Nat.cast_zero, zero_mul, le_refl, if_true]
    omega
  · have hpos : (0 : ℚ) < m * 2 ^ e := by positivity
    have hquotient : (m : ℚ) * 2 ^ e / 2 ^ e = m := mul_div_cancel_right₀ _ (by positivity)
    rw [nearest_of_pos hpos (h.exponent_eq hm), hquotient, roundHalfEven_natCast, ← h.number,
      min_eq_left hb]

/-- A number that is at least two to the power 1024 rounds to infinity. -/
lemma nearest_eq_infinity {x : ℚ} (h : 2 ^ (1024 : ℤ) ≤ x) : nearest x = infinity := by
  have hx : 0 < x := lt_of_lt_of_le (by positivity) h
  have hlog : 1024 ≤ Int.log 2 x := by
    refine (Int.zpow_le_iff_le_log one_lt_two hx).mp ?_
    rwa [Nat.cast_ofNat]
  set e := Int.log 2 x - 52 with he
  have hexp : max (Int.log 2 x - 52) (-1074) = e := by omega
  have hquotient : ((2 ^ 52 : ℕ) : ℚ) ≤ x / 2 ^ e := by
    have hself : (2 : ℚ) ^ Int.log 2 x ≤ x := by
      exact_mod_cast Int.zpow_log_le_self one_lt_two hx
    rw [le_div_iff₀ (by positivity)]
    calc ((2 ^ 52 : ℕ) : ℚ) * 2 ^ e = 2 ^ Int.log 2 x := by
          rw [he, zpow_sub₀ two_ne_zero]
          exact mul_div_cancel₀ _ (by positivity)
      _ ≤ x := hself
  have hround := le_roundHalfEven hquotient
  have hlarge : infinity ≤ (e + 1074).toNat * 2 ^ 52 + roundHalfEven (x / 2 ^ e) := by
    have : 2046 ≤ (e + 1074).toNat := by omega
    rw [infinity, fractions]
    omega
  rw [nearest_of_pos hx hexp, min_eq_right hlarge]

/-- A number that is less than half of the smallest double rounds to zero. -/
lemma nearest_eq_zero {x : ℚ} (hx : 0 < x) (h : x < 2 ^ (-1075 : ℤ)) : nearest x = 0 := by
  have hlog : Int.log 2 x < -1075 := by
    refine (Int.lt_zpow_iff_log_lt one_lt_two hx).mp ?_
    rwa [Nat.cast_ofNat]
  have hexp : max (Int.log 2 x - 52) (-1074) = -1074 := by omega
  have hhalf : x / 2 ^ (-1074 : ℤ) < 1 / 2 := by
    rw [div_lt_iff₀ (by positivity)]
    calc x < 2 ^ (-1075 : ℤ) := h
      _ = 1 / 2 * 2 ^ (-1074 : ℤ) := by
        rw [show (-1075 : ℤ) = -1 + -1074 by norm_num, zpow_add₀ two_ne_zero]
        norm_num
  rw [nearest_of_pos hx hexp, roundHalfEven_eq_zero (by positivity) hhalf]
  simp

end Binary64

/-! ### Decimals -/

namespace Decimal

lemma value_eq (d : Decimal) : d.value = d.coefficient * (10 : ℚ) ^ d.exponent := by
  rw [value, power_eq_zpow]
  norm_cast

/-- A decimal is rounded by its value. -/
theorem nearest_eq (d : Decimal) : d.nearest = Binary64.nearest d.value := by
  unfold nearest
  split
  · next hzero => simp [value_eq, hzero, Binary64.nearest]
  next hcoefficient =>
  have hpos : 0 < d.value := by
    rw [value_eq]
    have : (0 : ℚ) < d.coefficient := by exact_mod_cast Nat.pos_of_ne_zero hcoefficient
    positivity
  split
  · next hlarge =>
    symm
    refine Binary64.nearest_eq_infinity ?_
    have hone : (1 : ℚ) ≤ d.coefficient := by exact_mod_cast Nat.pos_of_ne_zero hcoefficient
    calc (2 : ℚ) ^ (1024 : ℤ) ≤ (2 ^ (205 : ℤ)) ^ 5 := by
          rw [← zpow_natCast, ← zpow_mul]
          gcongr <;> norm_num
      _ ≤ (10 ^ (62 : ℤ)) ^ 5 := by gcongr; norm_num
      _ = 1 * 10 ^ (310 : ℤ) := by rw [← zpow_natCast, ← zpow_mul, one_mul]; rfl
      _ ≤ d.coefficient * 10 ^ d.exponent := by gcongr; norm_num
      _ = d.value := d.value_eq.symm
  · split
    · next hsmall =>
      symm
      refine Binary64.nearest_eq_zero hpos ?_
      have hlt : (d.coefficient : ℚ) < 10 ^ ((d.coefficient.log2 + 1 : ℕ) : ℤ) := by
        have htwo : (d.coefficient : ℚ) < 2 ^ (d.coefficient.log2 + 1) := by
          exact_mod_cast Nat.lt_log2_self
        rw [zpow_natCast]
        exact htwo.trans_le (by gcongr; norm_num)
      calc d.value = d.coefficient * 10 ^ d.exponent := d.value_eq
        _ < 10 ^ ((d.coefficient.log2 + 1 : ℕ) : ℤ) * 10 ^ d.exponent := by gcongr
        _ = 10 ^ (d.exponent + d.coefficient.log2 + 1) := by
          rw [← zpow_add₀ (by norm_num)]
          congr 1
          push_cast
          ring
        _ ≤ 10 ^ (-330 : ℤ) := by gcongr; norm_num
        _ = (10 ^ (-66 : ℤ)) ^ 5 := by rw [← zpow_natCast, ← zpow_mul]; rfl
        _ < (2 ^ (-215 : ℤ)) ^ 5 := by gcongr; norm_num
        _ = 2 ^ (-1075 : ℤ) := by rw [← zpow_natCast, ← zpow_mul]; rfl
    · rfl

end Decimal

end Worksheet
