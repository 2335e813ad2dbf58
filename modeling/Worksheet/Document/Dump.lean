import Worksheet.Document.Listing

/-!
# Dumps

A dump lists every stored cell in row-major order, one on a line: its key, a tab and the text that
it shows.  Backslashes, line feeds and tabs in the text are escaped, so a line is one cell and its
first tab ends the key.

A dump, like a table, can be written to an output with little room; it is taken whole or not at all.
-/

namespace Worksheet.Dump

/-- A character of a text as a dump shows it. -/
def escapeChar : Char → List Char
  | '\\' => ['\\', '\\']
  | '\n' => ['\\', 'n']
  | '\t' => ['\\', 't']
  | c => [c]

/-- A text as a dump shows it. -/
def escape (cs : List Char) : List Char := cs.flatMap escapeChar

/-- The line of a stored cell. -/
def line (p : Position) (v : Value) : List Char :=
  p.keyChars ++ '\t' :: escape v.display.toList

/-- The dump of a document, every line ended by a line feed. -/
def chars (d : Document) : List Char := d.entries.flatMap fun e => line e.1 e.2 ++ ['\n']

/-- The dump of a document as a string. -/
def render (d : Document) : String := String.ofList (chars d)

end Worksheet.Dump

namespace Worksheet.Document

/-- Writes a document, as it is rendered, to an output with room for so many bytes of UTF-8. -/
def write (d : Document) (render : Document → String) (room : Nat) : Except Failure Unit :=
  if (render d).utf8ByteSize ≤ room then .ok () else .error .sinkFull

end Worksheet.Document
