import Worksheet.Number.Binary64
import Worksheet.Text.Digits

/-!
# Decimals

A decimal is a natural coefficient times a power of ten.  `nearest` reads a decimal as a double:
correctly rounded, since it rounds the exact value once.  `shortest` is the way back: of all
decimals that read back as a given double it takes the one on the coarsest decimal grid, hence the
one with the fewest digits, and of two such the nearer.  A tie goes up.
-/

namespace Worksheet

/-- A coefficient and a power of ten. -/
structure Decimal where
  /-- The digits, as a number. -/
  coefficient : Nat
  /-- The exponent of ten that scales the coefficient. -/
  exponent : Int
deriving DecidableEq, Repr

namespace Decimal

/-- The rational value of a decimal. -/
def value (d : Decimal) : Rat := d.coefficient * power 10 d.exponent

/-- The number of the double nearest to a decimal.

Every decimal from ten to the power 310 on is past the doubles, and every one below ten to the
power -330 rounds to zero; both are settled without computing the power. -/
def nearest (d : Decimal) : Nat :=
  if d.coefficient = 0 then 0
  else if 310 ≤ d.exponent then Binary64.infinity
  else if d.exponent + d.coefficient.log2 + 1 ≤ -330 then 0
  else Binary64.nearest d.value

/-- The point with spacing ten to the power `q` that reads back as the double `b`: one of the two
neighbours of its value, the nearer if both do, the upper one on a tie. -/
def onGrid? (b : Nat) (q : Int) : Option Decimal :=
  let x := Binary64.magnitude b
  let c := (x / power 10 q).floor.toNat
  let low : Decimal := ⟨c, q⟩
  let high : Decimal := ⟨c + 1, q⟩
  match low.nearest == b, high.nearest == b with
  | true, true => some (if x - low.value < high.value - x then low else high)
  | true, false => some low
  | false, true => some high
  | false, false => none

/-- Tries the grids from spacing ten to the power `q` down, `n` of them; the next one after these
is fine enough to hold the value itself. -/
def coarsest (b : Nat) : Nat → Int → Decimal
  | 0, q => ⟨(Binary64.magnitude b / power 10 q).floor.toNat, q⟩
  | n + 1, q =>
    match onGrid? b q with
    | some d => d
    | none => coarsest b n (q - 1)

/-- An exponent of ten whose power is above every number with binary logarithm `k` rounded down. -/
def gridAbove (k : Int) : Int := if 0 ≤ k then k / 3 + 1 else k / 4 + 1

/-- The shortest decimal that reads back as the double with number `b`.  Every double is a multiple
of ten to the power -1074, so the search ends there at the latest. -/
def shortest (b : Nat) : Decimal :=
  let top := gridAbove (Binary64.floorLog2 (Binary64.magnitude b))
  coarsest b (top - Binary64.minExponent).toNat top

end Decimal

end Worksheet
