import Mathlib
import Worksheet.Proofs.Number.Rounding

/-!
# Correct rounding

The numbers of the doubles are in the order of their values (`strictMono_magnitude`), and infinity
takes the place of two to the power 1024, the double that would come next.  `Rounds` says what it
is to be the correctly rounded double of a number without saying how it is found: no double is
nearer, and a tie goes to the even one.  There is just one such double, and `nearest` finds it
(`nearest_eq_iff`).

Hence rounding is monotone, and the numbers that round to one double have no gaps between them.
Those that round to infinity begin half-way between the largest double and two to the power 1024
(`rounds_infinity_iff_le`).
-/

namespace Worksheet.Binary64

/-! ### The doubles in order -/

/-- A multiple of a power of two is found where `nearest` looks for it; the multiple 2⁵³ is a carry
into the next power. -/
lemma magnitude_number {m : ℕ} {e : ℤ} (he : -1074 ≤ e) (hm : m ≤ 2 ^ 53)
    (hnormal : 2 ^ 52 ≤ m ∨ e = -1074) :
    magnitude ((e + 1074).toNat * 2 ^ 52 + m) = m * (2 : ℚ) ^ e := by
  obtain ⟨n, f, h, hvalue⟩ := exists_isDouble ((e + 1074).toNat * 2 ^ 52 + m)
  have hnumber := h.number
  have hleast := h.exponent
  have hlt := h.lt
  have hform := h.normal
  rw [hvalue]
  rcases lt_trichotomy e f with hef | rfl | hef
  · obtain rfl : f = e + 1 := by omega
    obtain rfl : m = 2 ^ 53 := by omega
    obtain rfl : n = 2 ^ 52 := by omega
    rw [zpow_add_one₀ two_ne_zero]
    push_cast
    ring
  · obtain rfl : n = m := by omega
    rfl
  · omega

/-- The spacing of the doubles around one of them. -/
lemma exists_magnitude_succ (b : ℕ) :
    ∃ m e, IsDouble b m e ∧ magnitude b = m * (2 : ℚ) ^ e ∧
      magnitude (b + 1) = (m + 1) * (2 : ℚ) ^ e := by
  obtain ⟨m, e, h, hvalue⟩ := exists_isDouble b
  refine ⟨m, e, h, hvalue, ?_⟩
  have hlt := h.lt
  have hnormal : 2 ^ 52 ≤ m + 1 ∨ e = -1074 := h.normal.imp_left Nat.le_succ_of_le
  have hnext := magnitude_number h.exponent (by omega : m + 1 ≤ 2 ^ 53) hnormal
  rw [← add_assoc, ← h.number] at hnext
  rw [hnext]
  push_cast
  rfl

/-- Doubles with larger numbers are larger. -/
theorem strictMono_magnitude : StrictMono magnitude := by
  refine strictMono_nat_of_lt_succ fun b => ?_
  obtain ⟨m, e, -, hvalue, hnext⟩ := exists_magnitude_succ b
  rw [hvalue, hnext]
  gcongr
  exact lt_add_one _

@[simp] lemma magnitude_zero : magnitude 0 = 0 := by simp [magnitude]

lemma magnitude_pos {b : ℕ} (hb : 0 < b) : 0 < magnitude b := by
  rw [← magnitude_zero]
  exact strictMono_magnitude hb

/-- A positive double is a positive multiple. -/
lemma IsDouble.one_le {b m : ℕ} {e : ℤ} (h : IsDouble b m e) (hb : 0 < b) : (1 : ℚ) ≤ m := by
  have hnumber := h.number
  have hnormal := h.normal
  have hm : 1 ≤ m := by omega
  exact_mod_cast hm

/-- No positive double is less than half of the next one. -/
lemma magnitude_succ_le {b : ℕ} (hb : 0 < b) : magnitude (b + 1) ≤ 2 * magnitude b := by
  obtain ⟨m, e, h, hvalue, hnext⟩ := exists_magnitude_succ b
  have hm := h.one_le hb
  rw [hvalue, hnext, ← mul_assoc]
  gcongr
  linarith

/-! ### Correct rounding -/

/-- The double with number `b` is the number `x` correctly rounded: no double is nearer, and if
another one is as near, `b` is even. -/
structure Rounds (x : ℚ) (b : ℕ) : Prop where
  le_infinity : b ≤ infinity
  nearest : ∀ c ≤ infinity, |magnitude b - x| ≤ |magnitude c - x|
  even : ∀ c ≤ infinity, |magnitude c - x| = |magnitude b - x| → c = b ∨ b % 2 = 0

variable {x y : ℚ} {b c : ℕ}

/-- Of two numbers the upper one is nearer from half-way on. -/
lemma abs_sub_le_abs_sub_iff {p q : ℚ} (h : p < q) : |q - x| ≤ |p - x| ↔ p + q ≤ 2 * x := by
  rw [← sq_le_sq]
  constructor
  · intro hle
    nlinarith
  · intro hle
    nlinarith

/-- Two different numbers are equally near exactly half-way between them. -/
lemma abs_sub_eq_abs_sub_iff {p q : ℚ} (h : p ≠ q) : |q - x| = |p - x| ↔ p + q = 2 * x := by
  rw [abs_eq_abs]
  constructor
  · rintro (heq | heq)
    · exact absurd (by linarith) h
    · linarith
  · intro heq
    right
    linarith

/-- Correct rounding is decided at the points half-way to the other doubles. -/
lemma rounds_iff :
    Rounds x b ↔ b ≤ infinity ∧ (∀ c < b, magnitude c + magnitude b ≤ 2 * x) ∧
      (∀ c ≤ infinity, b < c → 2 * x ≤ magnitude b + magnitude c) ∧
      ∀ c ≤ infinity, c ≠ b → magnitude c + magnitude b = 2 * x → b % 2 = 0 := by
  constructor
  · rintro ⟨hb, hnearest, heven⟩
    refine ⟨hb, ?_, ?_, ?_⟩
    · intro c hc
      exact (abs_sub_le_abs_sub_iff (strictMono_magnitude hc)).mp (hnearest c (by omega))
    · intro c hinf hc
      have hlt := strictMono_magnitude hc
      by_contra hfar
      have hle := (abs_sub_le_abs_sub_iff hlt).mpr (not_le.mp hfar).le
      have heq := le_antisymm hle (hnearest c hinf)
      have := (abs_sub_eq_abs_sub_iff hlt.ne).mp heq
      linarith
    · intro c hinf hne heq
      have hne' : magnitude b ≠ magnitude c := strictMono_magnitude.injective.ne hne.symm
      refine (heven c hinf ?_).resolve_left hne
      rw [abs_sub_eq_abs_sub_iff hne', add_comm, heq]
  · rintro ⟨hb, hlow, hhigh, heven⟩
    refine ⟨hb, ?_, ?_⟩
    · intro c hinf
      rcases lt_trichotomy c b with hc | rfl | hc
      · exact (abs_sub_le_abs_sub_iff (strictMono_magnitude hc)).mpr (hlow c hc)
      · exact le_rfl
      · have hlt := strictMono_magnitude hc
        by_contra hfar
        have := (abs_sub_le_abs_sub_iff hlt).mp (not_le.mp hfar).le
        have := (abs_sub_eq_abs_sub_iff (x := x) hlt.ne).mpr (by linarith [hhigh c hinf hc])
        linarith [not_le.mp hfar]
    · intro c hinf heq
      by_cases hne : c = b
      · exact Or.inl hne
      · have hne' : magnitude b ≠ magnitude c := strictMono_magnitude.injective.ne (Ne.symm hne)
        have hhalf := (abs_sub_eq_abs_sub_iff hne').mp heq
        exact Or.inr (heven c hinf hne (by linarith))

/-- A number rounds to one double only: between two doubles that are equally near and even there is
an odd one that is nearer. -/
lemma Rounds.unique (hb : Rounds x b) (hc : Rounds x c) : b = c := by
  wlog hlt : b < c generalizing b c
  · rcases (not_lt.mp hlt).eq_or_lt with heq | hlt'
    · exact heq.symm
    · exact (this hc hb hlt').symm
  exfalso
  have hne : c ≠ b := hlt.ne'
  have heq : |magnitude c - x| = |magnitude b - x| :=
    le_antisymm (hc.nearest b hb.le_infinity) (hb.nearest c hc.le_infinity)
  have hbeven := (hb.even c hc.le_infinity heq).resolve_left hne
  have hceven := (hc.even b hb.le_infinity heq.symm).resolve_left hne.symm
  have hbetween : b < b + 1 ∧ b + 1 < c := by omega
  have hhalf := (abs_sub_eq_abs_sub_iff (strictMono_magnitude hlt).ne).mp heq
  have hle := (rounds_iff.mp hb).2.2.1 (b + 1) (hbetween.2.le.trans hc.le_infinity) hbetween.1
  have := strictMono_magnitude hbetween.2
  linarith

/-! ### Rounding finds the correct double -/

/-- Rounding to a natural number, at the point half-way between two of them. -/
lemma roundHalfEven_eq (q : ℚ) :
    roundHalfEven q = if 2 * q < 2 * ⌊q⌋₊ + 1 then ⌊q⌋₊
      else if 2 * ⌊q⌋₊ + 1 < 2 * q then ⌊q⌋₊ + 1 else ⌊q⌋₊ + ⌊q⌋₊ % 2 := by
  have hfloor : q.floor.toNat = ⌊q⌋₊ := Int.floor_toNat q
  have hbelow : q - (⌊q⌋₊ : ℚ) < 1 / 2 ↔ 2 * q < 2 * ⌊q⌋₊ + 1 := by
    constructor <;> intro h <;> linarith
  have habove : 1 / 2 < q - (⌊q⌋₊ : ℚ) ↔ 2 * (⌊q⌋₊ : ℚ) + 1 < 2 * q := by
    constructor <;> intro h <;> linarith
  simp only [roundHalfEven, hfloor, hbelow, habove]

/-- The multiple at or below a number of the spacing with which it is rounded has at most 53 bits,
and it has as many unless the spacing is the least one. -/
lemma exists_multiple (hx : 0 < x) {e : ℤ} (he : max (Int.log 2 x - 52) (-1074) = e) :
    (⌊x / 2 ^ e⌋₊ * (2 : ℚ) ^ e ≤ x ∧ x < (⌊x / 2 ^ e⌋₊ + 1) * (2 : ℚ) ^ e) ∧
      ⌊x / 2 ^ e⌋₊ < 2 ^ 53 ∧ (2 ^ 52 ≤ ⌊x / 2 ^ e⌋₊ ∨ e = -1074) := by
  have hpower : (0 : ℚ) < 2 ^ e := by positivity
  have hle : ⌊x / 2 ^ e⌋₊ * (2 : ℚ) ^ e ≤ x :=
    (le_div_iff₀ hpower).mp (Nat.floor_le (by positivity))
  have hlt : x < (⌊x / 2 ^ e⌋₊ + 1) * (2 : ℚ) ^ e :=
    (div_lt_iff₀ hpower).mp (Nat.lt_floor_add_one _)
  refine ⟨⟨hle, hlt⟩, ?_, ?_⟩
  · have hlog : x < 2 ^ (Int.log 2 x + 1) := by
      exact_mod_cast Int.lt_zpow_succ_log_self one_lt_two x
    have hexp : Int.log 2 x + 1 ≤ 53 + e := by omega
    have hupper : x < 2 ^ 53 * 2 ^ e := by
      calc x < 2 ^ (Int.log 2 x + 1) := hlog
        _ ≤ 2 ^ (53 + e) := zpow_le_zpow_right₀ one_le_two hexp
        _ = 2 ^ 53 * 2 ^ e := by
          rw [zpow_add₀ two_ne_zero]
          norm_cast
    exact_mod_cast lt_of_mul_lt_mul_right (hle.trans_lt hupper) hpower.le
  · refine or_iff_not_imp_right.mpr fun hspacing => ?_
    have hlog : (2 : ℚ) ^ Int.log 2 x ≤ x := by
      exact_mod_cast Int.zpow_log_le_self one_lt_two hx
    have hexp : 52 + e = Int.log 2 x := by omega
    refine Nat.le_floor ((le_div_iff₀ hpower).mpr ?_)
    calc ((2 ^ 52 : ℕ) : ℚ) * 2 ^ e = 2 ^ (52 + e) := by
          rw [zpow_add₀ two_ne_zero]
          norm_cast
      _ ≤ x := hexp ▸ hlog

/-- Rounding takes the nearer one of two neighbours, or the even one. -/
lemma exists_nearest_eq (hx : 0 < x) :
    ∃ n, (magnitude n ≤ x ∧ x < magnitude (n + 1)) ∧
      nearest x = min (if 2 * x < magnitude n + magnitude (n + 1) then n
        else if magnitude n + magnitude (n + 1) < 2 * x then n + 1 else n + n % 2) infinity := by
  obtain ⟨e, he⟩ : ∃ e, max (Int.log 2 x - 52) (-1074) = e := ⟨_, rfl⟩
  have hleast : -1074 ≤ e := he ▸ le_max_right _ _
  have hpower : (0 : ℚ) < 2 ^ e := by positivity
  obtain ⟨⟨hle, hlt⟩, hbits, hnormal⟩ := exists_multiple hx he
  set m := ⌊x / 2 ^ e⌋₊ with hm
  set n := (e + 1074).toNat * 2 ^ 52 + m with hn
  have hlow : magnitude n = m * 2 ^ e := magnitude_number hleast hbits.le hnormal
  have hhigh : magnitude (n + 1) = (m + 1) * 2 ^ e := by
    rw [hn, add_assoc, magnitude_number hleast hbits (hnormal.imp_left Nat.le_succ_of_le)]
    push_cast
    rfl
  have hsum : magnitude n + magnitude (n + 1) = (2 * m + 1) * 2 ^ e := by
    rw [hlow, hhigh]
    ring
  have hbelow : 2 * (x / 2 ^ e) < 2 * m + 1 ↔ 2 * x < magnitude n + magnitude (n + 1) := by
    rw [hsum, ← mul_div_assoc, div_lt_iff₀ hpower]
  have habove : 2 * (m : ℚ) + 1 < 2 * (x / 2 ^ e) ↔ magnitude n + magnitude (n + 1) < 2 * x := by
    rw [hsum, ← mul_div_assoc, lt_div_iff₀ hpower]
  have hparity : n % 2 = m % 2 := by omega
  refine ⟨n, ⟨hlow ▸ hle, hhigh ▸ hlt⟩, ?_⟩
  rw [nearest_of_pos hx he, roundHalfEven_eq, ← hm, hparity]
  simp only [hbelow, habove]
  congr 1
  split
  · rfl
  · split <;> omega

/-- The correct one of two neighbours is found by comparing with the point half-way between them. -/
lemma rounds_of_between {n : ℕ} (hx : magnitude n ≤ x ∧ x < magnitude (n + 1)) (hn : n < infinity)
    (hb : b = n ∧ 2 * x ≤ magnitude n + magnitude (n + 1) ∨
      b = n + 1 ∧ magnitude n + magnitude (n + 1) ≤ 2 * x)
    (heven : magnitude n + magnitude (n + 1) = 2 * x → b % 2 = 0) : Rounds x b := by
  obtain ⟨hle, hlt⟩ := hx
  have hmono := strictMono_magnitude.monotone
  rw [rounds_iff]
  rcases hb with ⟨rfl, hhalf⟩ | ⟨rfl, hhalf⟩
  · have hbelow : ∀ c < b, magnitude c < magnitude b := fun c hc => strictMono_magnitude hc
    have habove : ∀ c, b < c → magnitude (b + 1) ≤ magnitude c := fun c hc => hmono hc
    refine ⟨hn.le, fun c hc => ?_, fun c _ hc => ?_, fun c _ hne heq => heven ?_⟩
    · linarith [hbelow c hc]
    · linarith [habove c hc]
    · rcases Nat.lt_or_gt_of_ne hne with hc | hc
      · linarith [hbelow c hc]
      · linarith [habove c hc]
  · have hbelow : ∀ c < n + 1, magnitude c ≤ magnitude n :=
      fun c hc => hmono (Nat.le_of_lt_succ hc)
    have habove : ∀ c, n + 1 < c → magnitude (n + 1) < magnitude c :=
      fun c hc => strictMono_magnitude hc
    refine ⟨hn, fun c hc => ?_, fun c _ hc => ?_, fun c _ hne heq => heven ?_⟩
    · linarith [hbelow c hc]
    · linarith [habove c hc]
    · rcases Nat.lt_or_gt_of_ne hne with hc | hc
      · linarith [hbelow c hc]
      · linarith [habove c hc]

/-- Infinity is the correct double from half-way between the largest double and the next one on. -/
lemma rounds_infinity_iff :
    Rounds x infinity ↔ magnitude (infinity - 1) + magnitude infinity ≤ 2 * x := by
  rw [rounds_iff]
  constructor
  · rintro ⟨-, hlow, -, -⟩
    exact hlow (infinity - 1) (by decide)
  · intro hhalf
    refine ⟨le_rfl, fun c hc => ?_, fun c hc hlt => absurd hlt (not_lt.mpr hc), fun _ _ _ _ => rfl⟩
    have hle : magnitude c ≤ magnitude (infinity - 1) :=
      strictMono_magnitude.monotone (Nat.le_sub_one_of_lt hc)
    linarith

/-- Past the largest double there is infinity. -/
lemma rounds_infinity (hx : magnitude infinity ≤ x) : Rounds x infinity := by
  have hlt : magnitude (infinity - 1) < magnitude infinity := strictMono_magnitude (by decide)
  exact rounds_infinity_iff.mpr (by linarith)

/-- The largest double has 53 bits set, and infinity takes the place of the next one. -/
lemma magnitude_infinity_sub_one : magnitude (infinity - 1) = (2 ^ 53 - 1) * 2 ^ 971 := by
  have h := magnitude_number (m := 2 ^ 53 - 1) (e := (971 : ℕ)) (by norm_num) (by norm_num)
    (Or.inl (by norm_num))
  rw [zpow_natCast, Nat.cast_pred (by norm_num), Nat.cast_pow, Nat.cast_ofNat] at h
  exact h

lemma magnitude_infinity : magnitude infinity = 2 ^ 53 * 2 ^ 971 := by
  have h := magnitude_number (m := 2 ^ 53) (e := (971 : ℕ)) (by norm_num) (by norm_num)
    (Or.inl (by norm_num))
  rw [zpow_natCast, Nat.cast_pow, Nat.cast_ofNat] at h
  exact h

/-- A number overflows from half-way between the largest double and two to the power 1024 on. -/
theorem rounds_infinity_iff_le : Rounds x infinity ↔ 2 ^ 1024 - 2 ^ 970 ≤ x := by
  have hlimit : (2 : ℚ) ^ 1024 = 2 ^ 54 * 2 ^ 970 := by rw [← pow_add]
  have hplace : (2 : ℚ) ^ 971 = 2 * 2 ^ 970 := by rw [← pow_succ']
  rw [rounds_infinity_iff, magnitude_infinity_sub_one, magnitude_infinity, hplace, hlimit]
  generalize (2 : ℚ) ^ 970 = half
  constructor <;> intro h <;> linarith

/-- Rounding is correct. -/
theorem rounds_nearest (hx : 0 ≤ x) : Rounds x (nearest x) := by
  rcases hx.eq_or_lt with rfl | hx
  · refine ⟨Nat.zero_le _, fun c _ => ?_, fun _ _ _ => Or.inr rfl⟩
    have hzero : nearest 0 = 0 := rfl
    simp [hzero]
  obtain ⟨n, hbetween, hnearest⟩ := exists_nearest_eq hx
  rw [hnearest]
  rcases le_or_gt infinity n with hn | hn
  · rw [min_eq_right]
    · exact rounds_infinity ((strictMono_magnitude.monotone hn).trans hbetween.1)
    · split
      · exact hn
      · split <;> omega
  · rw [min_eq_left]
    · refine rounds_of_between hbetween hn ?_ ?_
      · split
        · next h => exact Or.inl ⟨rfl, h.le⟩
        · next h =>
          split
          · next h' => exact Or.inr ⟨rfl, h'.le⟩
          · next h' =>
            rcases Nat.mod_two_eq_zero_or_one n with hn | hn
            · exact Or.inl ⟨by omega, not_lt.mp h'⟩
            · exact Or.inr ⟨by omega, not_lt.mp h⟩
      · intro heq
        rw [if_neg (by linarith), if_neg (by linarith)]
        omega
    · split
      · exact hn.le
      · split <;> omega

/-- Rounding gives the double that is correct, and there is no other. -/
theorem nearest_eq_iff (hx : 0 ≤ x) : nearest x = b ↔ Rounds x b := by
  constructor
  · rintro rfl
    exact rounds_nearest hx
  · exact (rounds_nearest hx).unique

/-! ### Rounding keeps the order -/

/-- A larger number never rounds to a smaller double. -/
theorem monotone_nearest : Monotone nearest := by
  intro x y hxy
  rcases le_or_gt x 0 with hx | hx
  · rw [nearest, if_pos hx]
    exact Nat.zero_le _
  by_contra hlt
  have hx' := rounds_iff.mp (rounds_nearest hx.le)
  have hy' := rounds_iff.mp (rounds_nearest (hx.le.trans hxy))
  have hlow := hx'.2.1 _ (not_le.mp hlt)
  have hhigh := hy'.2.2.1 _ hx'.1 (not_le.mp hlt)
  -- both numbers would be half-way between the two doubles
  obtain rfl : x = y := by linarith
  exact hlt le_rfl

/-- What lies between two numbers that round to a double rounds to it as well. -/
lemma nearest_of_between {z : ℚ} (hx : nearest x = b) (hz : nearest z = b) (hxy : x ≤ y)
    (hyz : y ≤ z) : nearest y = b :=
  le_antisymm (hz ▸ monotone_nearest hyz) (hx ▸ monotone_nearest hxy)

end Worksheet.Binary64
