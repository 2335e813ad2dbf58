import Worksheet.Number.Decimal

/-!
# The text of a number

A number is shown with its shortest digits: positionally from 10⁻⁶ up to, but not including, 10²¹,
and with an exponent outside that range.  Both zeros are shown as `0`.

The two notations place the decimal point relative to the digits: `point` is the number of digits
before it, which may be negative or exceed their count.
-/

namespace Worksheet.Number

/-- Plain notation: zeros fill the space between the digits and the point. -/
def positional (ds : List Char) (point : Int) : List Char :=
  if point ≤ 0 then '0' :: '.' :: (List.replicate (-point).toNat '0' ++ ds)
  else if ds.length ≤ point.toNat then ds ++ List.replicate (point.toNat - ds.length) '0'
  else ds.take point.toNat ++ '.' :: ds.drop point.toNat

/-- The digits with the point after the first of them, if others follow. -/
def leading : List Char → List Char
  | [] => []
  | [d] => [d]
  | d :: ds => d :: '.' :: ds

/-- Exponent notation: one digit before the point, and an exponent that always has a sign. -/
def scientific (ds : List Char) (point : Int) : List Char :=
  leading ds ++ 'e' :: (if point < 1 then '-' else '+') :: Text.digits (point - 1).natAbs

/-- The number of the smallest double in plain notation. -/
def plainFrom : Nat := Binary64.nearest (power 10 (-6))

/-- The number of the smallest double past plain notation. -/
def plainBelow : Nat := Binary64.nearest (power 10 21)

/-- The text of the positive finite double with number `b`. -/
def magnitudeChars (b : Nat) : List Char :=
  let d := Decimal.shortest b
  let ds := Text.digits d.coefficient
  let point := d.exponent + ds.length
  if plainFrom ≤ b ∧ b < plainBelow then positional ds point else scientific ds point

/-- The text of a double, as characters. -/
def displayChars (x : Float) : List Char :=
  let b := Binary64.number x
  if Binary64.infinity < b then ['N', 'a', 'N']
  else if b = 0 then ['0']
  else
    let size := if b = Binary64.infinity then "Infinity".toList else magnitudeChars b
    if Binary64.isNegative x then '-' :: size else size

/-- The text of a double. -/
def display (x : Float) : String := String.ofList (displayChars x)

end Worksheet.Number
