import Worksheet.Settings.Toml

/-!
# Settings

The settings file gives the size of a new document and the width of a column on the screen.  It is
optional, and so is each of its keys.

Problems with the file never stop the program: `load` answers them with a warning and the default
settings.
-/

namespace Worksheet

/-- What a settings file decides. -/
structure Settings where
  /-- The number of rows of a new document. -/
  rows : Nat := 6
  /-- The number of columns of a new document. -/
  cols : Nat := 6
  /-- The number of screen columns that a cell takes. -/
  columnWidth : Nat := 10
deriving DecidableEq, Repr

/-- The state of a file, as far as reading it can tell. -/
inductive File where
  /-- There is nothing at the path. -/
  | missing
  /-- What is at the path cannot be read, such as a directory. -/
  | unreadable
  /-- A file with its bytes. -/
  | content (bytes : ByteArray)

namespace Settings

/-- The smallest column width. -/
def minColumnWidth : Nat := 3

/-- The largest column width. -/
def maxColumnWidth : Nat := 40

/-- A column width moved into the allowed range. -/
def clampWidth (n : Nat) : Nat := max minColumnWidth (min n maxColumnWidth)

/-- The keys of a settings file. -/
def keys : List (List Char) := ["rows".toList, "cols".toList, "column_width".toList]

/-- The settings that keys and values give: known keys, each at most once, and no value below zero.
Only the column width is checked further. -/
def ofPairs? (pairs : List (List Char × Int)) : Option Settings :=
  let value (key : String) (default : Nat) : Nat :=
    (pairs.lookup key.toList).elim default Int.toNat
  if (pairs.all fun p => keys.contains p.1 && decide (0 ≤ p.2)) ∧ (pairs.map Prod.fst).Nodup then
    some ⟨value "rows" 6, value "cols" 6, clampWidth (value "column_width" 10)⟩
  else none

/-- The settings in the text of a file. -/
def ofChars? (cs : List Char) : Option Settings := (Toml.pairs? cs).bind ofPairs?

/-- What can be wrong with a settings file. -/
inductive Warning where
  /-- The file that was asked for is not there. -/
  | notFound (path : String)
  /-- The file cannot be read, or is not UTF-8. -/
  | unreadable (path : String)
  /-- The file is no settings file. -/
  | malformed (path : String)
deriving DecidableEq, Repr

/-- The text of a warning. -/
def Warning.message : Warning → String
  | notFound path => "Config file not found: " ++ path
  | unreadable path => "Failed to read " ++ path
  | malformed path => "Failed to parse " ++ path

/-- Where settings come from. -/
structure Source where
  /-- The path of the file. -/
  path : String
  /-- Whether the path was asked for; the file of the user may be missing. -/
  required : Bool
deriving DecidableEq, Repr

/-- The settings from a source whose file is in a given state, with the warnings about it. -/
def load (s : Source) : File → Settings × List Warning
  | .missing => ({}, if s.required then [.notFound s.path] else [])
  | .unreadable => ({}, [.unreadable s.path])
  | .content bytes =>
    match String.fromUTF8? bytes with
    | none => ({}, [.unreadable s.path])
    | some text =>
      match ofChars? text.toList with
      | some settings => (settings, [])
      | none => ({}, [.malformed s.path])

end Settings

end Worksheet
