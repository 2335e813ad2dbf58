import Worksheet.Number.Display
import Worksheet.Number.Numeral

/-!
# Cell values

A cell holds nothing, a text, a number or an error marker.  Formulas are never held: entering one
leaves its result.
-/

namespace Worksheet

/-- Why a formula has no value. -/
inductive Fault where
  /-- An operand is no number, the operator is missing, or the result is not finite. -/
  | invalid
  /-- The divisor is zero. -/
  | divisionByZero
deriving DecidableEq, Repr

/-- The marker that a cell shows for a fault. -/
def Fault.marker : Fault → String
  | .invalid => "Error"
  | .divisionByZero => "Error: Division by zero"

/-- What a cell holds. -/
inductive Value where
  | empty
  | text (s : String)
  | number (x : Float)
  | fault (f : Fault)
deriving DecidableEq

namespace Value

/-- The text that a cell shows. -/
def display : Value → String
  | empty => ""
  | text s => s
  | number x => Number.display x
  | fault f => f.marker

/-- The number that a formula reads from a cell. -/
def number? : Value → Option Float
  | empty => none
  | text s => Numeral.read? s.toList
  | number x => some x
  | fault _ => none

/-- Whether a value is an error marker. -/
def isFault : Value → Bool
  | fault _ => true
  | _ => false

/-- The value that a cell takes from a finished evaluation: its fault becomes the marker. -/
def ofResult : Except Fault Value → Value
  | .ok v => v
  | .error f => fault f

end Value

end Worksheet
