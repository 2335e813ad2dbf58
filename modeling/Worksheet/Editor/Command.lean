import Worksheet.Editor.Basic
import Worksheet.Text.Blank

/-!
# Commands

A command is a line of words: `q` or `quit`, `rows N`, `cols N` or `columns N`, `goto NAME`, or a
cell name alone.  Words after the argument are ignored, but `quit` and a cell name stand alone.

`Command.parse` says what a line means, and `Editor.perform` does it.
-/

namespace Worksheet

/-- What a command line means. -/
inductive Command where
  /-- A line without words. -/
  | nothing
  | quit
  | rows (n : Nat)
  | cols (n : Nat)
  /-- A count that is no number. -/
  | badCount (word : String)
  | goto (name : String)
  /-- A line with another meaning, without the blanks at its ends. -/
  | unknown (line : String)
deriving DecidableEq, Repr

namespace Command

/-- A command with a count. -/
def counted (command : Nat → Command) (word : List Char) : Command :=
  match Text.count? word with
  | some n => command n
  | none => badCount (String.ofList word)

/-- The meaning of a command line. -/
def parse (line : List Char) : Command :=
  let other := unknown (String.ofList (Text.trim line))
  match Text.words line with
  | [] => nothing
  | [word] =>
    if word = ['q'] ∨ word = "quit".toList then quit
    else if (Position.ofNameChars? word).isSome then goto (String.ofList word)
    else other
  | word :: argument :: _ =>
    if word = "rows".toList then counted rows argument
    else if word = "cols".toList ∨ word = "columns".toList then counted cols argument
    else if word = "goto".toList then goto (String.ofList argument)
    else other

end Command

namespace Editor

/-- Puts the cursor on the cell with a name, around which blanks may stand. -/
def goto (e : Editor) (name : String) : Editor :=
  let name := Text.trim name.toList
  match Position.ofNameChars? name with
  | none => { e with status := (Failure.badName (String.ofList name)).message }
  | some p =>
    if e.document.Contains p then { e.moveTo p with status := "" }
    else { e with
      status := (Failure.outOfBounds p e.document.rows e.document.cols).message }

/-- Starts to type a command. -/
def startCommand (e : Editor) : Editor := { e with command := .empty, mode := .command }

/-- Drops the command. -/
def cancelCommand (e : Editor) : Editor := { e with command := .empty, mode := .normal }

/-- Does what a command says. -/
def perform (e : Editor) : Command → Editor
  | .nothing | .quit => e
  | .rows n => e.setRows n
  | .cols n => e.setCols n
  | .badCount word => { e with status := "Not a number: " ++ word }
  | .goto name => e.goto name
  | .unknown line => { e with status := "Unknown command: " ++ line }

/-- Does what the typed command says, and tells whether it ends the program. -/
def execute (e : Editor) : Editor × Bool :=
  let command := Command.parse e.command.text.toList
  (e.cancelCommand.perform command, command = .quit)

end Editor

end Worksheet
