import Worksheet.Editor.Command

/-!
# Key bindings

What a key does in each mode.  In normal mode the bindings are a table from keys to actions; in the
other two modes a few keys leave the mode and all others go to the text field.
-/

namespace Worksheet

/-- What a key asks for in normal mode. -/
inductive Action where
  | quit
  | undo
  | redo
  | move (dx dy : Int)
  /-- To the first column. -/
  | firstCol
  /-- To the last column. -/
  | lastCol
  /-- To edit the current cell. -/
  | edit
  /-- To edit the current cell from a first character. -/
  | type (c : Char)
  | clear
  | addRow
  | removeRow
  | addCol
  | removeCol
  /-- To type a command. -/
  | command
deriving DecidableEq, Repr

/-- The action of a key in normal mode.  Of the modifiers only the control key counts, and only for
the letters `q`, `c` and `r`. -/
def KeyPress.action? (k : KeyPress) : Option Action :=
  match k.key with
  | .char 'q' => if k.ctrl then none else some .quit
  | .char 'c' => if k.ctrl then some .quit else some .addCol
  | .char 'r' => if k.ctrl then some .redo else some .addRow
  | .left | .char 'h' | .backTab => some (.move (-1) 0)
  | .right | .char 'l' | .tab => some (.move 1 0)
  | .up | .char 'k' => some (.move 0 (-1))
  | .down | .char 'j' => some (.move 0 1)
  | .home => some .firstCol
  | .endKey => some .lastCol
  | .enter | .function 2 | .char 'i' => some .edit
  | .char 'x' | .delete => some .clear
  | .char 'u' => some .undo
  | .char 'R' => some .removeRow
  | .char 'C' => some .removeCol
  | .char ':' => some .command
  | .char c => if c.isDigit || c == '.' || c == '-' || c == '=' then some (.type c) else none
  | _ => none

namespace Editor

/-- Does what a key asks for in normal mode. -/
def act (e : Editor) : Action → Editor
  | .quit => e
  | .undo => e.undo
  | .redo => e.redo
  | .move dx dy => e.moveBy dx dy
  | .firstCol => e.moveBy (-(e.cursor.col : Int)) 0
  | .lastCol => e.moveBy e.document.cols 0
  | .edit => e.startEdit
  | .type c => e.startWith (String.ofList [c])
  | .clear => e.clearCell
  | .addRow => e.setRows (e.document.rows + 1)
  | .removeRow => e.setRows (e.document.rows - 1)
  | .addCol => e.setCols (e.document.cols + 1)
  | .removeCol => e.setCols (e.document.cols - 1)
  | .command => e.startCommand

/-- A key in normal mode, and whether it ends the program. -/
def pressNormal (e : Editor) (k : KeyPress) : Editor × Bool :=
  match k.action? with
  | none => (e, false)
  | some a => (e.act a, a = .quit)

/-- A key while a cell is edited.  Leaving the cell commits the edit. -/
def pressEdit (e : Editor) (k : KeyPress) : Editor :=
  match k.key with
  | .esc => e.cancelEdit
  | .enter | .down => e.commitEdit.moveBy 0 1
  | .up => e.commitEdit.moveBy 0 (-1)
  | .tab => e.commitEdit.moveBy 1 0
  | .backTab => e.commitEdit.moveBy (-1) 0
  | _ => { e with entry := e.entry.press k }

/-- A key while a command is typed, and whether it ends the program. -/
def pressCommand (e : Editor) (k : KeyPress) : Editor × Bool :=
  match k.key with
  | .esc => (e.cancelCommand, false)
  | .enter => e.execute
  | _ => ({ e with command := e.command.press k }, false)

/-- A key, and whether it ends the program. -/
def press (e : Editor) (k : KeyPress) : Editor × Bool :=
  match e.mode with
  | .normal => e.pressNormal k
  | .edit => (e.pressEdit k, false)
  | .command => e.pressCommand k

end Editor

end Worksheet
