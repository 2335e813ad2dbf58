import Mathlib
import Worksheet.Proofs.Number.Nearest
import Worksheet.Proofs.Number.Shortest
import Worksheet.Proofs.Text.Digits

/-!
# The shortest decimal has the fewest digits

The search for the digits of a double looks at the two neighbours of its value on one decimal grid
after the other.  It does not matter that it looks at nothing else: if any point of a grid rounds to
the double, so does one of the two (`not_nearest_of_onGrid?_eq_none`), and so no decimal on a
coarser grid than the one found does (`exponent_le_shortest`).

`IsShortest` says what it is to be the shortest decimal of a double without grids: it rounds to the
double, no decimal with fewer digits does, and none with as many digits is nearer.  There is one
such decimal, and the search finds it (`isShortest_iff`).
-/

namespace Worksheet.Decimal

open Binary64

variable {b c : ℕ} {q : ℤ} {d : Decimal}

/-! ### Decimals that round to a double -/

lemma nearest_eq_iff_rounds : d.nearest = b ↔ Rounds d.value b := by
  rw [nearest_eq]
  exact Binary64.nearest_eq_iff (by rw [value_eq]; positivity)

/-- How far a decimal is from a double. -/
def distance (b : ℕ) (d : Decimal) : ℚ := |d.value - magnitude b|

lemma distance_of_le (h : d.value ≤ magnitude b) : distance b d = magnitude b - d.value := by
  rw [distance, abs_of_nonpos (by linarith)]
  ring

lemma distance_of_ge (h : magnitude b ≤ d.value) : distance b d = d.value - magnitude b :=
  abs_of_nonneg (by linarith)

/-- What lies between a decimal that rounds to a double and the double rounds to it as well. -/
lemma nearest_of_below {d' : Decimal} (hb : b ≤ infinity) (h : d.nearest = b)
    (hle : d.value ≤ d'.value) (hle' : d'.value ≤ magnitude b) : d'.nearest = b := by
  rw [nearest_eq] at h ⊢
  exact nearest_of_between h (nearest_magnitude hb) hle hle'

lemma nearest_of_above {d' : Decimal} (hb : b ≤ infinity) (h : d.nearest = b)
    (hle : magnitude b ≤ d'.value) (hle' : d'.value ≤ d.value) : d'.nearest = b := by
  rw [nearest_eq] at h ⊢
  exact nearest_of_between (nearest_magnitude hb) h hle hle'

/-- What rounds to a positive double is positive. -/
lemma coefficient_pos (hb : 0 < b) (h : d.nearest = b) : 0 < d.coefficient := by
  refine Nat.pos_of_ne_zero ?_
  intro hzero
  rw [nearest, if_pos hzero] at h
  omega

/-! ### One grid -/

/-- The point of a grid at or below a double. -/
def below (b : ℕ) (q : ℤ) : Decimal := ⟨⌊magnitude b / 10 ^ q⌋₊, q⟩

/-- The point of a grid above a double. -/
def above (b : ℕ) (q : ℤ) : Decimal := ⟨⌊magnitude b / 10 ^ q⌋₊ + 1, q⟩

lemma floor_eq (b : ℕ) (q : ℤ) :
    (magnitude b / power 10 q).floor.toNat = ⌊magnitude b / 10 ^ q⌋₊ := by
  rw [power_eq_zpow]
  exact Int.floor_toNat (magnitude b / ((10 : ℕ) : ℚ) ^ q)

lemma value_below_le (b : ℕ) (q : ℤ) : (below b q).value ≤ magnitude b := by
  have hx : 0 ≤ magnitude b := magnitude_zero ▸ strictMono_magnitude.monotone (Nat.zero_le b)
  rw [value_eq]
  exact (le_div_iff₀ (by positivity)).mp (Nat.floor_le (by positivity))

lemma lt_value_above (b : ℕ) (q : ℤ) : magnitude b < (above b q).value := by
  rw [value_eq]
  refine (div_lt_iff₀ (by positivity)).mp ?_
  rw [above]
  push_cast
  exact Nat.lt_floor_add_one _

lemma value_mono {c c' : ℕ} (h : c ≤ c') (q : ℤ) :
    (⟨c, q⟩ : Decimal).value ≤ (⟨c', q⟩ : Decimal).value := by
  rw [value_eq, value_eq]
  have : (c : ℚ) ≤ c' := by exact_mod_cast h
  gcongr

/-- A point of a grid that rounds to a double has a neighbour of the double on its side, which
rounds to it as well and is no farther. -/
lemma neighbour_of_nearest (hb : b ≤ infinity) (h : (⟨c, q⟩ : Decimal).nearest = b) :
    ((below b q).nearest = b ∧ (⟨c, q⟩ : Decimal).value ≤ (below b q).value) ∨
      ((above b q).nearest = b ∧ (above b q).value ≤ (⟨c, q⟩ : Decimal).value) := by
  rcases Nat.lt_or_ge ⌊magnitude b / 10 ^ q⌋₊ c with hc | hc
  · have hle : (above b q).value ≤ (⟨c, q⟩ : Decimal).value := value_mono hc q
    exact Or.inr ⟨nearest_of_above hb h (lt_value_above b q).le hle, hle⟩
  · have hle : (⟨c, q⟩ : Decimal).value ≤ (below b q).value := value_mono hc q
    exact Or.inl ⟨nearest_of_below hb h hle (value_below_le b q), hle⟩

/-- The point taken from a grid: the lower neighbour if it rounds to the double, unless the upper
one does too and is not farther. -/
lemma onGrid?_eq (b : ℕ) (q : ℤ) :
    onGrid? b q =
      if (above b q).nearest = b ∧ ((below b q).nearest = b →
        (above b q).value - magnitude b ≤ magnitude b - (below b q).value) then some (above b q)
      else if (below b q).nearest = b then some (below b q) else none := by
  simp only [onGrid?, floor_eq]
  rw [← below, ← above]
  by_cases hlow : (below b q).nearest = b
  · by_cases hhigh : (above b q).nearest = b
    · rw [beq_iff_eq.mpr hlow, beq_iff_eq.mpr hhigh]
      simp only [hlow, hhigh, true_and, forall_const, if_true]
      split
      · next h => rw [if_neg (not_le.mpr h)]
      · next h => rw [if_pos (not_lt.mp h)]
    · rw [beq_iff_eq.mpr hlow, beq_eq_false_iff_ne.mpr hhigh]
      simp only [hlow, hhigh, false_and, if_false, if_true]
  · by_cases hhigh : (above b q).nearest = b
    · rw [beq_eq_false_iff_ne.mpr hlow, beq_iff_eq.mpr hhigh]
      simp only [hlow, hhigh, false_implies, and_true, if_true]
    · rw [beq_eq_false_iff_ne.mpr hlow, beq_eq_false_iff_ne.mpr hhigh]
      simp only [hlow, hhigh, false_and, if_false]

/-- Which neighbour is taken from a grid, and why not the other one. -/
lemma onGrid?_cases (h : onGrid? b q = some d) :
    (d = above b q ∧ ((below b q).nearest = b →
        (above b q).value - magnitude b ≤ magnitude b - (below b q).value)) ∨
      (d = below b q ∧ ((above b q).nearest = b →
        magnitude b - (below b q).value < (above b q).value - magnitude b)) := by
  rw [onGrid?_eq] at h
  split at h
  · next hhigh => exact Or.inl ⟨(Option.some.inj h).symm, hhigh.2⟩
  · next hhigh =>
    split at h
    · refine Or.inr ⟨(Option.some.inj h).symm, ?_⟩
      intro hhigh'
      by_contra hnear
      exact hhigh ⟨hhigh', fun _ => not_lt.mp hnear⟩
    · cases h

/-- If neither neighbour of a double rounds to it, no point of the grid does. -/
lemma not_nearest_of_onGrid?_eq_none (hb : b ≤ infinity) (h : onGrid? b q = none) (c : ℕ) :
    (⟨c, q⟩ : Decimal).nearest ≠ b := by
  intro hc
  rw [onGrid?_eq] at h
  split at h
  · cases h
  · next hhigh =>
    split at h
    · cases h
    · next hlow =>
      rcases neighbour_of_nearest hb hc with ⟨hlow', -⟩ | ⟨hhigh', -⟩
      · exact hlow hlow'
      · exact hhigh ⟨hhigh', fun hlow' => absurd hlow' hlow⟩

/-- No point of its grid that rounds to a double is nearer than the one taken, and none above it is
as near. -/
lemma closest_of_onGrid? (hb : b ≤ infinity) (h : onGrid? b q = some d)
    (hc : (⟨c, q⟩ : Decimal).nearest = b) :
    distance b d ≤ distance b ⟨c, q⟩ ∧
      (distance b ⟨c, q⟩ = distance b d → (⟨c, q⟩ : Decimal).value ≤ d.value) := by
  have hbelow := value_below_le b q
  have habove := lt_value_above b q
  have hdbelow := distance_of_le hbelow
  have hdabove := distance_of_ge habove.le
  obtain ⟨rfl, hnear⟩ | ⟨rfl, hfar⟩ := onGrid?_cases h
  · rcases neighbour_of_nearest hb hc with ⟨hlow, hle⟩ | ⟨-, hle⟩
    · have hdist := distance_of_le (hle.trans hbelow)
      have hnear' := hnear hlow
      refine ⟨by linarith, ?_⟩
      intro _
      linarith
    · have hdist := distance_of_ge (habove.le.trans hle)
      refine ⟨by linarith, ?_⟩
      intro heq
      linarith
  · rcases neighbour_of_nearest hb hc with ⟨-, hle⟩ | ⟨hhigh, hle⟩
    · have hdist := distance_of_le (hle.trans hbelow)
      refine ⟨by linarith, ?_⟩
      intro _
      exact hle
    · have hdist := distance_of_ge (habove.le.trans hle)
      have hfar' := hfar hhigh
      refine ⟨by linarith, ?_⟩
      intro heq
      linarith

lemma exponent_of_onGrid? (h : onGrid? b q = some d) : d.exponent = q := by
  obtain ⟨rfl, -⟩ | ⟨rfl, -⟩ := onGrid?_cases h
  · rfl
  · rfl

/-! ### The search -/

/-- The search ends on the coarsest grid with a point that rounds to the double. -/
lemma exists_onGrid?_eq_coarsest (hb : b ≤ infinity) {n : ℕ} (hq : q - n ≤ -1074) :
    ∃ p ≤ q, onGrid? b p = some (coarsest b n q) ∧ ∀ r, p < r → r ≤ q → onGrid? b r = none := by
  induction n generalizing q with
  | zero =>
    refine ⟨q, le_rfl, ?_, fun r hr hr' => by omega⟩
    have hlow : coarsest b 0 q = below b q := by rw [coarsest, floor_eq, below]
    have hexact : (below b q).value = magnitude b := by
      obtain ⟨c, hc⟩ := exists_eq_mul_ten_zpow b (by simpa using hq)
      rw [value_eq, below, hc, mul_div_cancel_right₀ _ (by positivity), Nat.floor_natCast]
    have habove := lt_value_above b q
    rw [hlow, onGrid?_eq, if_neg, if_pos (hlow ▸ nearest_coarsest hb hq)]
    rintro ⟨-, hnear⟩
    have := hnear (hlow ▸ nearest_coarsest hb hq)
    linarith
  | succ n ih =>
    rw [coarsest]
    split
    · next d hd => exact ⟨q, le_rfl, hd, fun r hr hr' => by omega⟩
    · next hnone =>
      obtain ⟨p, hp, hsome, hall⟩ := ih (q := q - 1) (by push_cast at hq; omega)
      refine ⟨p, by omega, hsome, ?_⟩
      intro r hr hr'
      rcases hr'.eq_or_lt with rfl | hlt
      · exact hnone
      · exact hall r hr (by omega)

/-- The search starts on a grid whose first point is above the double. -/
lemma magnitude_lt_ten_zpow (hb : 0 < b) :
    magnitude b < 10 ^ gridAbove (floorLog2 (magnitude b)) := by
  have hx : 0 < magnitude b := magnitude_pos hb
  rw [floorLog2_eq_log hx]
  set k := Int.log 2 (magnitude b) with hk
  have hlog : magnitude b < 2 ^ (k + 1) := by
    exact_mod_cast Int.lt_zpow_succ_log_self one_lt_two (magnitude b)
  refine hlog.trans_le ?_
  rw [gridAbove]
  split
  · calc (2 : ℚ) ^ (k + 1) ≤ 2 ^ (3 * (k / 3 + 1)) :=
          zpow_le_zpow_right₀ one_le_two (by omega)
      _ = 8 ^ (k / 3 + 1) := by rw [zpow_mul]; norm_num
      _ ≤ 10 ^ (k / 3 + 1) := by
        obtain ⟨m, hm⟩ := Int.eq_ofNat_of_zero_le (show 0 ≤ k / 3 + 1 by omega)
        rw [hm]
        exact pow_le_pow_left₀ (by norm_num) (by norm_num) m
  · obtain ⟨m, hm⟩ := Int.eq_ofNat_of_zero_le (show 0 ≤ -(k / 4 + 1) by omega)
    have hexp : k / 4 + 1 = -(m : ℤ) := by omega
    calc (2 : ℚ) ^ (k + 1) ≤ 2 ^ (4 * (k / 4 + 1)) :=
          zpow_le_zpow_right₀ one_le_two (by omega)
      _ = 16 ^ (k / 4 + 1) := by rw [zpow_mul]; norm_num
      _ ≤ 10 ^ (k / 4 + 1) := by
        rw [hexp, zpow_neg, zpow_neg]
        refine inv_anti₀ (by positivity) ?_
        exact pow_le_pow_left₀ (by norm_num) (by norm_num) m

/-- The shortest decimal is taken from the coarsest grid that has one. -/
lemma exists_onGrid?_eq_shortest (hb : b ≤ infinity) :
    ∃ p ≤ gridAbove (floorLog2 (magnitude b)), onGrid? b p = some (shortest b) ∧
      ∀ r, p < r → r ≤ gridAbove (floorLog2 (magnitude b)) → onGrid? b r = none := by
  refine exists_onGrid?_eq_coarsest hb ?_
  have hleast : minExponent = -1074 := rfl
  rw [hleast]
  omega

/-- No decimal that rounds to a double is on a coarser grid than the shortest one. -/
theorem exponent_le_shortest (hpos : 0 < b) (hlt : b < infinity) (h : d.nearest = b) :
    d.exponent ≤ (shortest b).exponent := by
  obtain ⟨p, hp, hsome, hnone⟩ := exists_onGrid?_eq_shortest hlt.le
  set top := gridAbove (floorLog2 (magnitude b)) with htop
  have hexp : (shortest b).exponent = p := exponent_of_onGrid? hsome
  rw [hexp]
  by_contra hcoarser
  rcases le_or_gt d.exponent top with htop' | htop'
  · exact not_nearest_of_onGrid?_eq_none hlt.le (hnone _ (not_le.mp hcoarser) htop') _ h
  · -- a point of a grid beyond the first one is more than ten times as large as the double
    have hx := magnitude_lt_ten_zpow hpos
    rw [← htop] at hx
    have hone : (1 : ℚ) ≤ d.coefficient := by exact_mod_cast coefficient_pos hpos h
    have hlarge : 10 * 10 ^ top ≤ d.value := by
      calc (10 : ℚ) * 10 ^ top = 1 * 10 ^ (top + 1) := by
            rw [zpow_add_one₀ (by norm_num)]
            ring
        _ ≤ d.coefficient * 10 ^ d.exponent := by
          have hpower : (10 : ℚ) ^ (top + 1) ≤ 10 ^ d.exponent :=
            zpow_le_zpow_right₀ (by norm_num) (by omega)
          gcongr
        _ = d.value := d.value_eq.symm
    have hhalf := (rounds_iff.mp (nearest_eq_iff_rounds.mp h)).2.2.1 (b + 1) hlt (lt_add_one b)
    have hnext := magnitude_succ_le hpos
    have hpos' := magnitude_pos hpos
    linarith

lemma shortest_coefficient_pos (hpos : 0 < b) (hlt : b < infinity) : 0 < (shortest b).coefficient :=
  coefficient_pos hpos (nearest_shortest hlt.le)

/-- The digits of the shortest decimal do not end with a zero. -/
lemma shortest_mod_ten (hpos : 0 < b) (hlt : b < infinity) : (shortest b).coefficient % 10 ≠ 0 := by
  intro hzero
  obtain ⟨n, hn⟩ := Nat.dvd_of_mod_eq_zero hzero
  have hvalue : (⟨n, (shortest b).exponent + 1⟩ : Decimal).value = (shortest b).value := by
    rw [value_eq, value_eq, hn, zpow_add_one₀ (by norm_num)]
    push_cast
    ring
  have hnearest : (⟨n, (shortest b).exponent + 1⟩ : Decimal).nearest = b := by
    rw [nearest_eq, hvalue, ← nearest_eq, nearest_shortest hlt.le]
  have hle : (shortest b).exponent + 1 ≤ (shortest b).exponent :=
    exponent_le_shortest hpos hlt hnearest
  omega

/-! ### Numbers of digits -/

/-- The number of digits of a decimal. -/
def digitCount (d : Decimal) : ℕ := (Text.digits d.coefficient).length

lemma digitCount_pos (d : Decimal) : 0 < d.digitCount :=
  List.length_pos_of_ne_nil (Text.digits_ne_nil _)

/-- A decimal is less than the power of ten behind its digits. -/
lemma value_lt (d : Decimal) : d.value < 10 ^ (d.digitCount + d.exponent) := by
  have hlt : d.coefficient < 10 ^ d.digitCount :=
    (Nat.length_toDigits_le_iff (by decide) d.digitCount_pos).mp le_rfl
  rw [value_eq, zpow_add₀ (by norm_num), zpow_natCast]
  have : (d.coefficient : ℚ) < 10 ^ d.digitCount := by exact_mod_cast hlt
  gcongr

/-- A decimal is not less than the power of ten at its first digit. -/
lemma le_value (h : 0 < d.coefficient) : 10 ^ ((d.digitCount : ℤ) - 1 + d.exponent) ≤ d.value := by
  obtain ⟨k, hk⟩ : ∃ k, d.digitCount = k + 1 := Nat.exists_eq_succ_of_ne_zero d.digitCount_pos.ne'
  have hle : 10 ^ k ≤ d.coefficient := by
    rcases Nat.eq_zero_or_pos k with rfl | hk0
    · exact h
    · by_contra hlt
      have hcount : d.digitCount ≤ k :=
        (Nat.length_toDigits_le_iff (by decide) hk0).mpr (not_le.mp hlt)
      omega
  have hexp : (d.digitCount : ℤ) - 1 + d.exponent = k + d.exponent := by omega
  rw [hexp, value_eq, zpow_add₀ (by norm_num), zpow_natCast]
  have : (10 : ℚ) ^ k ≤ d.coefficient := by exact_mod_cast hle
  gcongr

lemma value_one (q : ℤ) : (⟨1, q⟩ : Decimal).value = 10 ^ q := by
  rw [value_eq, Nat.cast_one, one_mul]

/-- If a decimal that rounds to a double is not above the power of ten at the first digit of the
shortest one, this power rounds to it as well.  Since it is on the coarser grid otherwise, the
shortest one has a single digit. -/
lemma power_of_below (hpos : 0 < b) (hlt : b < infinity) (h : d.nearest = b)
    (hd : d.value ≤ 10 ^ (((shortest b).digitCount : ℤ) - 1 + (shortest b).exponent)) :
    (shortest b).digitCount = 1 ∧ (⟨1, (shortest b).exponent⟩ : Decimal).nearest = b := by
  set s := shortest b with hs
  have hs' : s.nearest = b := nearest_shortest hlt.le
  have hnearest : (⟨1, (s.digitCount : ℤ) - 1 + s.exponent⟩ : Decimal).nearest = b := by
    rw [nearest_eq] at h hs' ⊢
    rw [value_one]
    exact nearest_of_between h hs' hd (le_value (shortest_coefficient_pos hpos hlt))
  have hexp : (s.digitCount : ℤ) - 1 + s.exponent ≤ s.exponent :=
    exponent_le_shortest hpos hlt hnearest
  have hone : s.digitCount = 1 := by
    have := s.digitCount_pos
    omega
  rw [hone, Nat.cast_one, sub_self, zero_add] at hnearest
  exact ⟨hone, hnearest⟩

/-- No decimal that rounds to a double has fewer digits than the shortest one. -/
theorem digitCount_shortest_le (hpos : 0 < b) (hlt : b < infinity) (h : d.nearest = b) :
    (shortest b).digitCount ≤ d.digitCount := by
  by_contra hfewer
  have hexp := exponent_le_shortest hpos hlt h
  have hbelow : d.value ≤ 10 ^ (((shortest b).digitCount : ℤ) - 1 + (shortest b).exponent) :=
    d.value_lt.le.trans (zpow_le_zpow_right₀ (by norm_num) (by omega))
  have hone := (power_of_below hpos hlt h hbelow).1
  have := d.digitCount_pos
  omega

/-! ### The nearest of the shortest decimals -/

/-- The least spacing of the doubles is between 19/4 and 20/3 of ten to the power -324. -/
lemma least_spacing_bounds :
    19 * (10 : ℚ) ^ (-324 : ℤ) < 4 * 2 ^ (-1074 : ℤ) ∧
      3 * (2 : ℚ) ^ (-1074 : ℤ) < 20 * 10 ^ (-324 : ℤ) := by
  have hclosed : 19 * power 10 (-324) < 4 * power 2 (-1074) ∧
      3 * power 2 (-1074) < 20 * power 10 (-324) := by decide +kernel
  simpa only [power_eq_zpow, Nat.cast_ofNat] using hclosed

/-- A double below a power of ten that rounds to it is nearer to this power than to nine tenths of
it.  Only the least spacing of the doubles is wide enough to make this a question. -/
lemma nineteen_mul_lt {j : ℤ} (h : Binary64.nearest (10 ^ (j + 1)) = b) (hpos : 0 < b)
    (hb : b < infinity) (hlt : magnitude b < 10 ^ (j + 1)) : 19 * 10 ^ j < 2 * magnitude b := by
  by_contra hfar
  obtain ⟨m, e, hm, hvalue, hnext⟩ := exists_magnitude_succ b
  have hrounds : Rounds (10 ^ (j + 1)) b := (Binary64.nearest_eq_iff (by positivity)).mp h
  have hhalf := (rounds_iff.mp hrounds).2.2.1 (b + 1) hb (lt_add_one b)
  rw [zpow_add_one₀ (by norm_num)] at hhalf hlt
  rw [hvalue] at hfar hhalf hlt
  rw [hnext] at hhalf
  set T : ℚ := 10 ^ j with hT
  set u : ℚ := 2 ^ e with hu
  have hTpos : 0 < T := by positivity
  have hupos : 0 < u := by positivity
  -- the spacing is at least `T`, so the double is one of the first nine of the least spacing
  have hspacing : T ≤ u := by linarith
  have hfew : (m : ℚ) < 10 := by
    by_contra hmany
    nlinarith
  have hfew' : m < 10 := by exact_mod_cast hfew
  obtain rfl : e = -1074 := hm.normal.resolve_left (by omega)
  obtain ⟨hfour, hthree⟩ := least_spacing_bounds
  rw [← hu] at hfour hthree
  set t : ℚ := 10 ^ (-324 : ℤ) with ht
  have hone := hm.one_le hpos
  rcases lt_trichotomy j (-324) with hj | rfl | hj
  · have hsmall : 10 * T ≤ t := by
      rw [hT, ht, mul_comm, ← zpow_add_one₀ (by norm_num)]
      exact zpow_le_zpow_right₀ (by norm_num) (by omega)
    nlinarith
  · rw [← hT] at ht
    rcases Nat.lt_or_ge m 2 with hm2 | hm2
    · have : (m : ℚ) ≤ 1 := by exact_mod_cast Nat.le_of_lt_succ hm2
      nlinarith
    · have : (2 : ℚ) ≤ m := by exact_mod_cast hm2
      nlinarith
  · have hlarge : 10 * t ≤ T := by
      rw [hT, ht, mul_comm, ← zpow_add_one₀ (by norm_num)]
      exact zpow_le_zpow_right₀ (by norm_num) (by omega)
    nlinarith

/-- A decimal of one digit on a finer grid is at most nine tenths of a power of ten. -/
lemma value_le_of_digitCount_eq_one (h : d.digitCount = 1) (hd : d.exponent ≤ q) :
    d.value ≤ 9 * 10 ^ q := by
  have hlt : d.coefficient < 10 ^ 1 := (Nat.length_toDigits_le_iff (by decide) one_pos).mp h.le
  have hnine : (d.coefficient : ℚ) ≤ 9 := by exact_mod_cast (by omega : d.coefficient ≤ 9)
  have hpower := zpow_le_zpow_right₀ (show (1 : ℚ) ≤ 10 by norm_num) hd
  rw [value_eq]
  gcongr

/-- No decimal with as few digits that rounds to a double is nearer than the shortest one, and none
above it is as near. -/
theorem closest_shortest (hpos : 0 < b) (hlt : b < infinity) (h : d.nearest = b)
    (hcount : d.digitCount = (shortest b).digitCount) :
    distance b (shortest b) ≤ distance b d ∧
      (distance b d = distance b (shortest b) → d.value ≤ (shortest b).value) := by
  obtain ⟨p, -, hsome, -⟩ := exists_onGrid?_eq_shortest hlt.le
  have hexp : (shortest b).exponent = p := exponent_of_onGrid? hsome
  have hle : d.exponent ≤ p := hexp ▸ exponent_le_shortest hpos hlt h
  rcases hle.eq_or_lt with heq | hfiner
  · subst heq
    exact closest_of_onGrid? hlt.le hsome h
  · -- on a finer grid there are as few digits only below a power of ten that rounds to the double
    have hbelow : d.value ≤ 10 ^ (((shortest b).digitCount : ℤ) - 1 + (shortest b).exponent) :=
      d.value_lt.le.trans (zpow_le_zpow_right₀ (by norm_num) (by omega))
    obtain ⟨hone, hnearest⟩ := power_of_below hpos hlt h hbelow
    rw [hexp] at hnearest
    have hvalue : d.value ≤ 9 * 10 ^ (p - 1) :=
      value_le_of_digitCount_eq_one (hcount.trans hone) (by omega)
    have hpower : (⟨1, p⟩ : Decimal).value = 10 * 10 ^ (p - 1) := by
      rw [value_one, mul_comm, ← zpow_add_one₀ (by norm_num), sub_add_cancel]
    have hten : (0 : ℚ) < 10 ^ (p - 1) := by positivity
    have hstrict : distance b ⟨1, p⟩ < distance b d := by
      rcases le_or_gt (⟨1, p⟩ : Decimal).value (magnitude b) with hx | hx
      · rw [distance_of_le hx, distance_of_le (by linarith)]
        linarith
      · have hnear : 19 * 10 ^ (p - 1) < 2 * magnitude b := by
          refine nineteen_mul_lt ?_ hpos hlt ?_
          · rw [sub_add_cancel, ← value_one, ← nearest_eq, hnearest]
          · rwa [sub_add_cancel, ← value_one]
        rw [distance_of_ge hx.le, distance_of_le (by linarith)]
        linarith
    have hfar := (closest_of_onGrid? hlt.le hsome hnearest).1.trans_lt hstrict
    exact ⟨hfar.le, fun heq => absurd heq hfar.ne'⟩

/-! ### The shortest decimal -/

/-- The decimal `0.d₁…dₖ · 10ᵉ`. -/
def ofDigits (ds : List Char) (e : ℤ) : Decimal := ⟨Text.digitsValue ds, e - ds.length⟩

/-- `0.d₁…dₖ · 10ᵉ` with nonzero `d₁` and `dₖ` is the shortest decimal of a double: it rounds to the
double, no decimal with fewer digits does, and none with as many digits is nearer, nor as near and
larger. -/
structure IsShortest (b : ℕ) (ds : List Char) (e : ℤ) : Prop where
  digits : ∀ c ∈ ds, c.isDigit = true
  ne_nil : ds ≠ []
  first : ∀ c ∈ ds.head?, c ≠ '0'
  last : ∀ c ∈ ds.getLast?, c ≠ '0'
  rounds : Rounds (ofDigits ds e).value b
  fewest : ∀ d : Decimal, Rounds d.value b → ds.length ≤ d.digitCount
  closest : ∀ d : Decimal, Rounds d.value b → d.digitCount = ds.length →
    distance b (ofDigits ds e) ≤ distance b d
  upper : ∀ d : Decimal, Rounds d.value b → d.digitCount = ds.length →
    distance b d = distance b (ofDigits ds e) → d.value ≤ (ofDigits ds e).value

/-- The digits of a number do not start with a zero. -/
lemma ne_zero_of_mem_head?_digits {n : ℕ} (hn : 0 < n) : ∀ c ∈ (Text.digits n).head?, c ≠ '0' := by
  have hdigits : ∀ c ∈ Text.digits n, c.isDigit = true :=
    fun c hc => Text.isDigit_of_mem_digits hc
  have hvalue := Text.digitsValue_digits n
  have hfirst := Text.digits_digitsValue hdigits (by rw [hvalue]; exact hn.ne')
  rw [hvalue] at hfirst
  rintro c hc rfl
  have hstop := List.head?_dropWhile_not (· == '0') (Text.digits n)
  rw [← hfirst, Option.mem_def.mp hc] at hstop
  cases hstop

/-- The digits of a number end with its remainder. -/
lemma getLast?_digits (n : ℕ) : (Text.digits n).getLast? = some (n % 10).digitChar := by
  rw [Text.digits]
  rcases Nat.lt_or_ge n 10 with hn | hn
  · rw [Nat.toDigits_of_lt_base hn, Nat.mod_eq_of_lt hn, List.getLast?_singleton]
  · rw [Nat.toDigits_of_base_le (by decide) hn, List.getLast?_concat]

namespace IsShortest

variable {ds ds' : List Char} {e e' : ℤ}

/-- Digits without a zero in front are those of their decimal. -/
lemma digits_coefficient (h : IsShortest b ds e) :
    Text.digits (ofDigits ds e).coefficient = ds := by
  obtain ⟨c, rest, rfl⟩ := List.exists_cons_of_ne_nil h.ne_nil
  exact Text.digits_digitsValue_cons (h.first c rfl) h.digits

lemma digitCount_eq (h : IsShortest b ds e) : (ofDigits ds e).digitCount = ds.length :=
  congrArg List.length h.digits_coefficient

/-- The exponent is that of the power of ten behind the digits. -/
lemma value_bounds (hb : 0 < b) (h : IsShortest b ds e) :
    10 ^ (e - 1) ≤ (ofDigits ds e).value ∧ (ofDigits ds e).value < 10 ^ e := by
  have hpos := coefficient_pos hb (nearest_eq_iff_rounds.mpr h.rounds)
  have hle := le_value hpos
  have hlt := (ofDigits ds e).value_lt
  rw [h.digitCount_eq] at hle hlt
  have hlow : (ds.length : ℤ) - 1 + (ofDigits ds e).exponent = e - 1 := by
    change (ds.length : ℤ) - 1 + (e - ds.length) = e - 1
    ring
  have hhigh : (ds.length : ℤ) + (ofDigits ds e).exponent = e := add_sub_cancel _ _
  rw [hlow] at hle
  rw [hhigh] at hlt
  exact ⟨hle, hlt⟩

/-- A double has only one shortest decimal. -/
theorem unique (hb : 0 < b) (h : IsShortest b ds e) (h' : IsShortest b ds' e') :
    ds = ds' ∧ e = e' := by
  have hlength : ds.length = ds'.length := by
    have hle := h.fewest _ h'.rounds
    have hle' := h'.fewest _ h.rounds
    rw [h.digitCount_eq] at hle'
    rw [h'.digitCount_eq] at hle
    omega
  have hcount : (ofDigits ds' e').digitCount = ds.length := h'.digitCount_eq.trans hlength.symm
  have hcount' : (ofDigits ds e).digitCount = ds'.length := h.digitCount_eq.trans hlength
  have hdistance : distance b (ofDigits ds e) = distance b (ofDigits ds' e') :=
    le_antisymm (h.closest _ h'.rounds hcount) (h'.closest _ h.rounds hcount')
  have hvalue : (ofDigits ds e).value = (ofDigits ds' e').value :=
    le_antisymm (h'.upper _ h.rounds hcount' hdistance) (h.upper _ h'.rounds hcount hdistance.symm)
  -- the value determines the exponent, and then the digits
  obtain ⟨hle, hlt⟩ := h.value_bounds hb
  obtain ⟨hle', hlt'⟩ := h'.value_bounds hb
  have hexp : e - 1 < e' :=
    (zpow_lt_zpow_iff_right₀ (by norm_num)).mp ((hvalue ▸ hle).trans_lt hlt')
  have hexp' : e' - 1 < e :=
    (zpow_lt_zpow_iff_right₀ (by norm_num)).mp ((hvalue ▸ hle').trans_lt hlt)
  obtain rfl : e = e' := by omega
  have hcoefficient : (ofDigits ds e).coefficient = (ofDigits ds' e).coefficient := by
    rw [value_eq, value_eq] at hvalue
    have hexponent : (ofDigits ds e).exponent = (ofDigits ds' e).exponent := by
      simp only [ofDigits, hlength]
    rw [hexponent] at hvalue
    exact_mod_cast mul_right_cancel₀ (by positivity) hvalue
  refine ⟨?_, rfl⟩
  rw [← h.digits_coefficient, ← h'.digits_coefficient, hcoefficient]

end IsShortest

/-- The search finds the shortest decimal of a double, and there is no other. -/
theorem isShortest_iff (hpos : 0 < b) (hlt : b < infinity) {ds : List Char} {e : ℤ} :
    IsShortest b ds e ↔
      ds = Text.digits (shortest b).coefficient ∧ e = (shortest b).exponent + ds.length := by
  have hfound : IsShortest b (Text.digits (shortest b).coefficient)
      ((shortest b).exponent + (shortest b).digitCount) := by
    have hself : ofDigits (Text.digits (shortest b).coefficient)
        ((shortest b).exponent + (shortest b).digitCount) = shortest b := by
      rw [ofDigits, Text.digitsValue_digits, digitCount, add_sub_cancel_right]
    refine ⟨fun c hc => Text.isDigit_of_mem_digits hc, Text.digits_ne_nil _,
      ne_zero_of_mem_head?_digits (shortest_coefficient_pos hpos hlt), ?_, ?_, ?_, ?_, ?_⟩
    · rintro c hc rfl
      rw [getLast?_digits] at hc
      have hcode := congrArg Char.toNat (Option.some.inj hc)
      rw [Nat.toNat_digitChar_of_lt_ten (Nat.mod_lt _ (by decide))] at hcode
      exact shortest_mod_ten hpos hlt (Nat.add_eq_left.mp hcode)
    · rw [hself]
      exact nearest_eq_iff_rounds.mp (nearest_shortest hlt.le)
    · intro d hd
      exact digitCount_shortest_le hpos hlt (nearest_eq_iff_rounds.mpr hd)
    · intro d hd hcount
      rw [hself]
      exact (closest_shortest hpos hlt (nearest_eq_iff_rounds.mpr hd) hcount).1
    · intro d hd hcount
      rw [hself]
      exact (closest_shortest hpos hlt (nearest_eq_iff_rounds.mpr hd) hcount).2
  constructor
  · intro h
    obtain ⟨rfl, rfl⟩ := h.unique hpos hfound
    exact ⟨rfl, rfl⟩
  · rintro ⟨rfl, rfl⟩
    exact hfound

end Worksheet.Decimal
