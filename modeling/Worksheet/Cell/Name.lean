import Worksheet.Cell.Position
import Worksheet.Text.Digits

/-!
# Cell names

A cell is named by the letters of its column and the number of its row, as in `B3` or `AA10`.
Columns count in bijective base 26 (A to Z, then AA), rows from one.  Names are ASCII; case does
not matter when a name is read, and capitals are written.

`columnNumber` and `numberLetters` are the two directions of the column numbering.
-/

namespace Worksheet

/-- The value of a letter as a digit of a column: A is 1 and Z is 26, in either case. -/
def letterValue (c : Char) : Nat := c.toUpper.toNat - 'A'.toNat + 1

/-- The one-based number of the column that a run of letters names. -/
def columnNumber (letters : List Char) : Nat :=
  letters.foldl (fun n c => 26 * n + letterValue c) 0

/-- The capital letter with the zero-based index `i` in the alphabet. -/
def capital (i : Nat) : Char := Char.ofNat ('A'.toNat + i)

/-- The letters of the column with a one-based number; no letters for zero. -/
def numberLetters : Nat → List Char
  | 0 => []
  | n + 1 => numberLetters (n / 26) ++ [capital (n % 26)]
decreasing_by omega

/-- The letters of a zero-based column. -/
def columnLetters (col : Nat) : List Char := numberLetters (col + 1)

namespace Position

/-- The characters of a name: column letters, then the one-based row. -/
def nameChars (p : Position) : List Char := columnLetters p.col ++ Text.digits (p.row + 1)

/-- The name of a cell. -/
def name (p : Position) : String := String.ofList p.nameChars

/-- Reads a name: one or more letters, then one or more digits, and nothing else.  The column
number and the row number have to be machine words, and rows start at one. -/
def ofNameChars? (cs : List Char) : Option Position :=
  let letters := cs.takeWhile Char.isAlpha
  let column := columnNumber letters
  if letters.isEmpty || decide (Text.wordLimit ≤ column) then none
  else match Text.word? (cs.dropWhile Char.isAlpha) with
    | some (row + 1) => some ⟨row, column - 1⟩
    | _ => none

/-- Reads a name given as a string. -/
def ofName? (s : String) : Option Position := ofNameChars? s.toList

end Position

end Worksheet
