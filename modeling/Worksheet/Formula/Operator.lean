/-!
# Operators

The four operators of a formula and their arithmetic on doubles.
-/

namespace Worksheet

/-- A binary operator. -/
inductive Operator where
  | add
  | sub
  | mul
  | div
deriving DecidableEq, Repr

namespace Operator

/-- The operator that a character stands for. -/
def ofChar? : Char → Option Operator
  | '+' => some .add
  | '-' => some .sub
  | '*' => some .mul
  | '/' => some .div
  | _ => none

/-- The character of an operator. -/
def toChar : Operator → Char
  | .add => '+'
  | .sub => '-'
  | .mul => '*'
  | .div => '/'

/-- Reading the character of an operator gives the operator. -/
@[simp] theorem ofChar?_toChar (o : Operator) : ofChar? o.toChar = some o := by
  cases o <;> rfl

/-- Whether a character is one of the four operator characters. -/
def isOperator (c : Char) : Bool := (ofChar? c).isSome

/-- The arithmetic of an operator, rounded as binary64 prescribes.  A zero divisor is not special
here. -/
def apply (o : Operator) (a b : Float) : Float :=
  match o with
  | .add => a + b
  | .sub => a - b
  | .mul => a * b
  | .div => a / b

end Operator

end Worksheet
