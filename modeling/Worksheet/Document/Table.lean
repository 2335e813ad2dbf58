import Worksheet.Document.Basic

/-!
# Markdown tables

The rows and columns offered for editing, as a markdown table: a line of column letters, a rule,
and a line for each row, which starts with its number.  A pipe inside a cell is escaped with a
backslash, a line feed becomes a space and a carriage return is dropped, so every row is one line
and every pipe without a backslash before it ends a field.
-/

namespace Worksheet.Table

/-- A character of a cell as a table field shows it. -/
def escapeChar : Char → List Char
  | '|' => ['\\', '|']
  | '\n' => [' ']
  | '\r' => []
  | c => [c]

/-- The text of a cell as a table field shows it. -/
def escape (cs : List Char) : List Char := cs.flatMap escapeChar

/-- A field with a space on either side, and the pipe that ends it. -/
def field (cs : List Char) : List Char := ' ' :: (cs ++ [' ', '|'])

/-- The line of column letters. -/
def header (cols : Nat) : List Char :=
  '|' :: (field [' '] ++ (List.range cols).flatMap fun col => field (columnLetters col))

/-- The line below the column letters. -/
def rule (cols : Nat) : List Char :=
  '|' :: (List.replicate (cols + 1) ['-', '-', '-', '|']).flatten

/-- The line of a row. -/
def row (d : Document) (r : Nat) : List Char :=
  '|' :: (field (Text.digits (r + 1)) ++
    (List.range d.cols).flatMap fun col => field (escape (d.display ⟨r, col⟩).toList))

/-- The lines of the table of a document. -/
def lines (d : Document) : List (List Char) :=
  header d.cols :: rule d.cols :: (List.range d.rows).map (row d)

/-- The table of a document, every line ended by a line feed. -/
def chars (d : Document) : List Char := (lines d).flatMap (· ++ ['\n'])

/-- The table of a document as a string. -/
def render (d : Document) : String := String.ofList (chars d)

end Worksheet.Table
