import Worksheet.Cell.Value
import Worksheet.Formula.Basic
import Worksheet.Formula.Reference

/-!
# Evaluating formulas

A formula sees the sheet only through look-up, at the moment it is evaluated; nothing is tracked
for later.  If its left side refers to a cell and its right side does not refer to one, the value
of that cell is copied as it is.  Otherwise both sides are read as finite numbers and the operator
is applied to them.
-/

namespace Worksheet

/-- One side of a formula. -/
inductive Operand where
  /-- A side that refers to a cell. -/
  | cell (r : Reference)
  /-- A side that does not. -/
  | literal (cs : List Char)
deriving DecidableEq, Repr

namespace Operand

/-- A side of a formula is a reference as soon as it holds one. -/
def ofChars (cs : List Char) : Operand :=
  match Reference.find? cs with
  | some r => cell r
  | none => literal cs

end Operand

/-- A look-up of stored cells. -/
abbrev Lookup := Position → Option Value

/-- The value that a reference reads: empty if it names no cell or nothing is stored there. -/
def Lookup.fetch (look : Lookup) (r : Reference) : Value :=
  (r.position?.bind look).getD .empty

/-- The number that one side of a formula stands for. -/
def Operand.number? (look : Lookup) : Operand → Option Float
  | cell r => (look.fetch r).number?
  | literal cs => Numeral.read? cs

/-- The result of an operator on two finite numbers. -/
def Operator.compute (o : Operator) (a b : Float) : Except Fault Value :=
  if !(a.isFinite && b.isFinite) then .error .invalid
  else if o == .div && b == 0 then .error .divisionByZero
  else
    let result := o.apply a b
    if result.isFinite then .ok (.number result) else .error .invalid

namespace Formula

/-- The result of a formula. -/
def result (look : Lookup) (f : Formula) : Except Fault Value :=
  match f.step with
  | none =>
    match Operand.ofChars f.left with
    | .cell r => .ok (look.fetch r)
    | .literal _ => .error .invalid
  | some (o, right) =>
    match Operand.ofChars f.left, Operand.ofChars right with
    | .cell r, .literal _ => .ok (look.fetch r)
    | left, right =>
      match left.number? look, right.number? look with
      | some a, some b => o.compute a b
      | _, _ => .error .invalid

/-- Evaluates an input: its first character is the formula mark and is dropped unchecked. -/
def evaluate (look : Lookup) (input : List Char) : Except Fault Value :=
  (ofBody input.tail).result look

end Formula

end Worksheet
