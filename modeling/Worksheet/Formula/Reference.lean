import Worksheet.Cell.Position
import Worksheet.Text.Digits

/-!
# References inside formulas

An operand refers to a cell when it holds, anywhere, a letter directly followed by digits.  The
leftmost such place counts, and all the digits that follow the letter belong to it: `5A1x` refers
to `A1` and `AB12` to `B12`.

To match the pattern and to name a cell are two questions: `A0` is a reference without a cell.
-/

namespace Worksheet

/-- A letter and the digits that follow it in an operand. -/
structure Reference where
  /-- The column letter, a capital. -/
  column : Char
  /-- The digits of the one-based row, as written. -/
  rowDigits : List Char
deriving DecidableEq, Repr

namespace Reference

/-- The first reference in an operand. -/
def find? : List Char → Option Reference
  | c :: d :: rest =>
    if c.isAlpha && d.isDigit then some ⟨c.toUpper, d :: rest.takeWhile Char.isDigit⟩
    else find? (d :: rest)
  | _ => none

/-- The cell that a reference points at; none if its row is zero or does not fit in a word. -/
def position? (r : Reference) : Option Position :=
  match Text.word? r.rowDigits with
  | some (row + 1) => some ⟨row, r.column.toNat - 'A'.toNat⟩
  | _ => none

end Reference

end Worksheet
