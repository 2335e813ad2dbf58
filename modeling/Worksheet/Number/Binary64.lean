/-!
# Doubles as rational numbers

A finite double is a rational number, and its 63 bits below the sign number the nonnegative doubles
in increasing order.  `magnitude` maps such a number to the rational that it stands for; `nearest`
goes back from any nonnegative rational to the nearest double, ties to the even neighbour, with
infinity past the largest double.

Working with exact rationals keeps one rounding in one place: reading a decimal is `nearest` of its
value, and a decimal "reads back" as a double when `nearest` of its value is that double.
-/

namespace Worksheet

/-- An integer power of a natural base, as a rational. -/
def power (base : Nat) : Int → Rat
  | .ofNat n => (base.pow n : Rat)
  | .negSucc n => 1 / (base.pow (n + 1) : Rat)

namespace Binary64

/-- The number of stored fraction bits. -/
def fractionBits : Nat := 52

/-- The number of doubles with one exponent, two to the power `fractionBits`. -/
def fractions : Nat := 0x10000000000000

/-- The exponent of the spacing of the smallest doubles. -/
def minExponent : Int := -1074

/-- The number that stands for infinity; the finite doubles are the numbers below it. -/
def infinity : Nat := 2047 * fractions

/-- The bit that marks a negative double. -/
def signBit : Nat := 0x8000000000000000

/-- The rational value of the nonnegative finite double with number `b`. -/
def magnitude (b : Nat) : Rat :=
  let biased := b / fractions
  let fraction := b % fractions
  if biased = 0 then fraction * power 2 minExponent
  else (fractions + fraction : Nat) * power 2 (minExponent + biased - 1)

/-- The exponent of the largest power of two that is not above a positive rational. -/
def floorLog2 (x : Rat) : Int :=
  let k : Int := (x.num.natAbs.log2 : Int) - (x.den.log2 : Int)
  if power 2 k ≤ x then k else k - 1

/-- The natural number nearest to a nonnegative rational; a half goes to the even neighbour. -/
def roundHalfEven (x : Rat) : Nat :=
  let n := x.floor.toNat
  let rest := x - (n : Rat)
  if rest < 1 / 2 then n else if 1 / 2 < rest then n + 1 else n + n % 2

/-- The number of the double nearest to a nonnegative rational.

The spacing around `x` is two to the power `e`; `m` counts the multiples of it.  For a normal
double the leading bit of `m` adds one to the exponent field, and so does a carry out of the
rounding, so the sum is right in every case. -/
def nearest (x : Rat) : Nat :=
  if x ≤ 0 then 0
  else
    let e := max (floorLog2 x - fractionBits) minExponent
    let m := roundHalfEven (x / power 2 e)
    min ((e - minExponent).toNat * fractions + m) infinity

/-- The double with a sign and a number. -/
def ofParts (negative : Bool) (b : Nat) : Float :=
  Float.ofBits (UInt64.ofNat (if negative then signBit + b else b))

/-- Whether the sign bit of a double is set. -/
def isNegative (x : Float) : Bool := decide (signBit ≤ x.toBits.toNat)

/-- The number of a double without its sign. -/
def number (x : Float) : Nat := x.toBits.toNat % signBit

end Binary64

end Worksheet
