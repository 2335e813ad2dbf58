import Worksheet.Formula.Operator

/-!
# Formulas

The body of a formula holds at most one step: it is cut at its first operator character, and its
right side ends before the next one.  What follows is ignored, so `1+2+3` reads as `1+2` and
`A1*-5` has an empty right side.  Every text is a formula body.
-/

namespace Worksheet

/-- A formula body cut at its first operator. -/
structure Formula where
  /-- The text before the operator, or the whole body if it has none. -/
  left : List Char
  /-- The operator and the text after it, up to the next operator. -/
  step : Option (Operator × List Char)
deriving DecidableEq, Repr

namespace Formula

/-- The longest part of a text, from its start, without an operator character. -/
def operandOf (cs : List Char) : List Char := cs.takeWhile fun c => !Operator.isOperator c

/-- Cuts a formula body. -/
def ofBody (body : List Char) : Formula where
  left := operandOf body
  step :=
    match body.dropWhile fun c => !Operator.isOperator c with
    | [] => none
    | c :: rest => (Operator.ofChar? c).map fun o => (o, operandOf rest)

end Formula

end Worksheet
