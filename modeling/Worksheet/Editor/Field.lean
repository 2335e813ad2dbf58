import Worksheet.Editor.Key
import Worksheet.Text.Bytes

/-!
# Text fields

A text field is one line of text with a cursor in it.  The cursor is a byte offset between two
characters.  Keys move it, delete the character before or after it, or insert one.
-/

namespace Worksheet

/-- A line of text that is being typed. -/
structure Field where
  /-- The text. -/
  text : String
  /-- The byte offset of the cursor. -/
  cursor : Nat
deriving DecidableEq, Repr

namespace Field

/-- The field without text. -/
def empty : Field := ⟨"", 0⟩

instance : Inhabited Field := ⟨empty⟩

/-- The field with a text and the cursor at its end. -/
def ofText (text : String) : Field := ⟨text, Text.byteLength text.toList⟩

/-- The characters before the cursor. -/
def before (f : Field) : List Char := (Text.splitBytes f.cursor f.text.toList).1

/-- The characters after the cursor. -/
def after (f : Field) : List Char := (Text.splitBytes f.cursor f.text.toList).2

/-- Puts the cursor before the character on its left. -/
def moveLeft (f : Field) : Field := { f with cursor := Text.byteLength f.before.dropLast }

/-- Puts the cursor after the character on its right. -/
def moveRight (f : Field) : Field :=
  { f with cursor := f.cursor + f.after.head?.elim 0 Char.utf8Size }

/-- Puts the cursor at the start. -/
def moveHome (f : Field) : Field := { f with cursor := 0 }

/-- Puts the cursor at the end. -/
def moveEnd (f : Field) : Field := ofText f.text

/-- Deletes the character before the cursor. -/
def deleteLeft (f : Field) : Field :=
  ⟨String.ofList (f.before.dropLast ++ f.after), Text.byteLength f.before.dropLast⟩

/-- Deletes the character after the cursor. -/
def deleteRight (f : Field) : Field :=
  { f with text := String.ofList (f.before ++ f.after.tail) }

/-- Inserts a character before the cursor. -/
def insert (f : Field) (c : Char) : Field :=
  ⟨String.ofList (f.before ++ c :: f.after), f.cursor + c.utf8Size⟩

/-- Applies a key.  Characters are inserted only without modifiers other than shift; keys that mean
nothing to a text field leave it alone. -/
def press (f : Field) (k : KeyPress) : Field :=
  match k.key with
  | .left => f.moveLeft
  | .right => f.moveRight
  | .home => f.moveHome
  | .endKey => f.moveEnd
  | .backspace => f.deleteLeft
  | .delete => f.deleteRight
  | .char c => if k.isPlain then f.insert c else f
  | _ => f

end Field

end Worksheet
