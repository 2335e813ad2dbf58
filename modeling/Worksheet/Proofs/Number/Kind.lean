import Mathlib
import Worksheet.Number.Binary64

/-!
# Finite doubles and zeros

The checks of the evaluator on doubles, said about their bits: a double is finite if it is neither
infinite nor not a number (`isFinite_iff`), and it equals zero as a number if it is one of the two
zeros (`beq_zero_iff`).

A double is put together again from its sign and its number (`ofParts_number`), and the finite ones
are those with a number below that of infinity (`isFinite_iff_number_lt`).
-/

namespace Worksheet.Binary64

open Float.Model

/-- A double is finite exactly if it is neither not a number nor infinite. -/
theorem isFinite_iff {x : Float} : x.isFinite = true ↔ x.isNaN = false ∧ x.isInf = false := by
  unfold Float.isFinite Float.isNaN Float.isInf Float.Model.isFinite Float.Model.isNaN
    Float.Model.isInf
  cases x.toModel.unpack <;>
    simp [UnpackedFloat.isFinite, UnpackedFloat.isNaN, UnpackedFloat.isInf]

/-- Doubles with the same bits are the same. -/
lemma eq_of_toNat_bits_eq {x y : Float}
    (h : x.toModel.toBits.toNat = y.toModel.toBits.toNat) : x = y := by
  obtain ⟨⟨b, hb⟩⟩ := x
  obtain ⟨⟨c, hc⟩⟩ := y
  obtain rfl : b = c := UInt64.toNat_inj.mp h
  rfl

/-- The fraction of a double is in its lower 52 bits. -/
lemma toNat_unpackMantissa (b : BitVec 64) :
    (@UnpackedFloat.unpackMantissa Format.binary64 b).toNat = b.toNat % 2 ^ 52 := by
  simp [UnpackedFloat.unpackMantissa, BitVec.extractLsb, BitVec.extractLsb']

/-- The exponent of a double is in the eleven bits above the fraction. -/
lemma toNat_unpackExponent (b : BitVec 64) :
    (@UnpackedFloat.unpackExponent Format.binary64 b).toNat =
      b.toNat / 2 ^ 52 % 2 ^ 11 := by
  simp [UnpackedFloat.unpackExponent, BitVec.extractLsb, BitVec.extractLsb',
    Nat.shiftRight_eq_div_pow]

/-- A double that unpacks to a zero has no bit set below its sign. -/
lemma toNat_bits_of_unpack_eq_zero {x : Float} {s : UnpackedFloat.Sign}
    (h : x.toModel.unpack = .zero s) :
    x.toModel.toBits.toNat = 0 ∨ x.toModel.toBits.toNat = 2 ^ 63 := by
  unfold Float.Model.unpack UnpackedFloat.unpack at h
  simp only at h
  split at h
  · split at h <;> cases h
  · split at h
    · next hexponent =>
      split at h
      · next hmantissa =>
        have hexp := toNat_unpackExponent x.toModel.toBits.toBitVec
        have hman := toNat_unpackMantissa x.toModel.toBits.toBitVec
        have hlt := x.toModel.toBits.toBitVec.isLt
        rw [hexponent] at hexp
        rw [hmantissa] at hman
        change 0 = x.toModel.toBits.toNat / 2 ^ 52 % 2 ^ 11 at hexp
        change 0 = x.toModel.toBits.toNat % 2 ^ 52 at hman
        change x.toModel.toBits.toNat < 2 ^ 64 at hlt
        omega
      · cases h
    · cases h

/-- What equals zero as a number unpacks to a zero of either sign. -/
lemma exists_unpack_eq_zero {x : Float} (h : (x == 0) = true) :
    ∃ s, x.toModel.unpack = .zero s := by
  have hzero : (0 : Float).toModel.unpack = .zero .positive := rfl
  change (x.toModel.unpack.compare (0 : Float).toModel.unpack == some .eq) = true at h
  rw [hzero] at h
  cases hx : x.toModel.unpack with
  | zero s => exact ⟨s, rfl⟩
  | notANumber => rw [hx] at h; cases h
  | infinity s => rw [hx] at h; cases s <;> cases h
  | finite s m e hm => rw [hx] at h; cases s <;> cases h

/-- A double equals zero as a number exactly if it is one of the two zeros. -/
theorem beq_zero_iff {x : Float} : (x == 0) = true ↔ x = 0 ∨ x = -0 := by
  constructor
  · intro h
    obtain ⟨s, hs⟩ := exists_unpack_eq_zero h
    rcases toNat_bits_of_unpack_eq_zero hs with hbits | hbits
    · exact Or.inl (eq_of_toNat_bits_eq hbits)
    · exact Or.inr (eq_of_toNat_bits_eq hbits)
  · rintro (rfl | rfl) <;> decide

/-! ### Sign and number -/

/-- A double is its sign and its number. -/
lemma ofParts_number (x : Float) : ofParts (isNegative x) (number x) = x := by
  have hlt : x.toBits.toNat < 2 ^ 64 := x.toBits.toNat_lt
  have hbits : (if isNegative x then signBit + number x else number x) = x.toBits.toNat := by
    have hsign : signBit = 2 ^ 63 := rfl
    simp only [isNegative, number, hsign]
    by_cases h : 2 ^ 63 ≤ x.toBits.toNat
    · rw [decide_eq_true h, if_pos rfl]
      omega
    · rw [decide_eq_false h, if_neg Bool.false_ne_true]
      omega
  rw [ofParts, hbits, UInt64.ofNat_toNat, Float.ofBits_toBits]

/-- Bits that are not those of something that is not a number are kept. -/
lemma toBits_ofBits {u : UInt64} (h : u.toNat % signBit ≤ infinity) :
    (Float.ofBits u).toBits = u := by
  have hvalid : Format.binary64.Valid u.toBitVec := by
    refine ⟨fun hexponent hmantissa => absurd ?_ hmantissa⟩
    have hexp := toNat_unpackExponent u.toBitVec
    rw [hexponent] at hexp
    change 2047 = u.toNat / 2 ^ 52 % 2 ^ 11 at hexp
    change u.toNat % 2 ^ 63 ≤ 2047 * 2 ^ 52 at h
    apply BitVec.eq_of_toNat_eq
    rw [toNat_unpackMantissa]
    change u.toNat % 2 ^ 52 = 0
    omega
  have hbits : Float.ofBits u = ⟨⟨u, hvalid⟩⟩ := Float.ofBits_toBits ⟨⟨u, hvalid⟩⟩
  rw [hbits]
  rfl

/-- A double has the sign and the number of which it is made. -/
lemma parts_ofParts (negative : Bool) {b : ℕ} (hb : b ≤ infinity) :
    isNegative (ofParts negative b) = negative ∧ number (ofParts negative b) = b := by
  have hlt : b < 2 ^ 63 := hb.trans_lt (by decide)
  set n := if negative then signBit + b else b with hn
  have hcases : negative = true ∧ n = 2 ^ 63 + b ∨ negative = false ∧ n = b := by
    cases negative
    · exact Or.inr ⟨rfl, rfl⟩
    · exact Or.inl ⟨rfl, rfl⟩
  have hmod : n % signBit = b := by
    change n % 2 ^ 63 = b
    omega
  have hword : (UInt64.ofNat n).toNat = n :=
    UInt64.toNat_ofNat_of_lt' (by rw [UInt64.size]; omega)
  have hbits : (ofParts negative b).toBits.toNat = n := by
    rw [ofParts, ← hn, toBits_ofBits (by rw [hword, hmod]; exact hb), hword]
  rw [isNegative, number, hbits]
  refine ⟨?_, hmod⟩
  change decide (2 ^ 63 ≤ n) = negative
  rcases hcases with ⟨rfl, hvalue⟩ | ⟨rfl, hvalue⟩
  · exact decide_eq_true (by omega)
  · exact decide_eq_false (by omega)

/-- The two doubles with number zero are the zeros. -/
lemma eq_zero_of_number_eq_zero {x : Float} (h : number x = 0) : x = 0 ∨ x = -0 := by
  rw [← ofParts_number x, h]
  cases isNegative x
  · exact Or.inl rfl
  · exact Or.inr rfl

/-- The doubles that unpack to infinity or to no number are those with all exponent bits set. -/
lemma unpack_iff_exponent {x : Float} :
    (x.toModel.unpack = .notANumber ∨ ∃ s, x.toModel.unpack = .infinity s) ↔
      x.toModel.toBits.toNat / 2 ^ 52 % 2 ^ 11 = 2047 := by
  have hexponent := toNat_unpackExponent x.toModel.toBits.toBitVec
  change _ = x.toModel.toBits.toNat / 2 ^ 52 % 2 ^ 11 at hexponent
  rw [← hexponent]
  unfold Float.Model.unpack UnpackedFloat.unpack
  simp only
  constructor
  · intro hunpack
    split at hunpack
    · next hones => rw [hones]; rfl
    · split at hunpack
      · split at hunpack <;> rcases hunpack with hx | ⟨s, hx⟩ <;> cases hx
      · rcases hunpack with hx | ⟨s, hx⟩ <;> cases hx
  · intro hones
    rw [if_pos (BitVec.eq_of_toNat_eq hones)]
    split
    · exact Or.inr ⟨_, rfl⟩
    · exact Or.inl rfl

lemma isNaN_or_isInf_iff {x : Float} :
    x.isNaN = true ∨ x.isInf = true ↔ x.toModel.toBits.toNat / 2 ^ 52 % 2 ^ 11 = 2047 := by
  rw [← unpack_iff_exponent]
  unfold Float.isNaN Float.isInf Float.Model.isNaN Float.Model.isInf
  cases x.toModel.unpack <;> simp [UnpackedFloat.isNaN, UnpackedFloat.isInf]

/-- The finite doubles are those with a number below infinity. -/
theorem isFinite_iff_number_lt {x : Float} : x.isFinite = true ↔ number x < infinity := by
  have hkind : x.isFinite = true ↔ ¬ (x.isNaN = true ∨ x.isInf = true) := by
    rw [isFinite_iff, not_or, Bool.not_eq_true, Bool.not_eq_true]
  have hlt : x.toBits.toNat < 2 ^ 64 := x.toBits.toNat_lt
  rw [hkind, isNaN_or_isInf_iff]
  change ¬ x.toBits.toNat / 2 ^ 52 % 2 ^ 11 = 2047 ↔ x.toBits.toNat % 2 ^ 63 < 2047 * 2 ^ 52
  omega

lemma number_lt_infinity {x : Float} (hnan : x.isNaN = false) (hinf : x.isInf = false) :
    number x < infinity :=
  isFinite_iff_number_lt.mp (isFinite_iff.mpr ⟨hnan, hinf⟩)

end Worksheet.Binary64
