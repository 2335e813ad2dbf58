import Worksheet.Document.Dump
import Worksheet.Document.Table
import Worksheet.Text.Blank

/-!
# Batch requests

A batch request fills cells of a document, evaluates a formula against it and prints it, in that
order.  The assignments come first and nothing is written before all of them have succeeded, so a
request that fails has written nothing.
-/

namespace Worksheet

/-- A text for a cell. -/
structure Assignment where
  /-- The cell. -/
  cell : Position
  /-- The text to commit into it. -/
  input : String
deriving DecidableEq, Repr

namespace Assignment

/-- Why a text is no assignment. -/
inductive Mistake where
  /-- There is no equals sign. -/
  | noEquals (text : String)
  /-- What stands before the equals sign is no cell name. -/
  | badName (name : String)
deriving DecidableEq, Repr

/-- The message for a mistake. -/
def Mistake.message : Mistake → String
  | noEquals text => "expected CELL=TEXT, got '" ++ text ++ "'"
  | badName name => (Failure.badName name).message

/-- Reads an assignment: a cell name, around which blanks may stand, then the first equals sign,
then the text. -/
def parse (s : String) : Except Mistake Assignment :=
  match s.toList.dropWhile (· != '=') with
  | [] => .error (.noEquals s)
  | _ :: input =>
    let name := Text.trim (s.toList.takeWhile (· != '='))
    match Position.ofNameChars? name with
    | some cell => .ok ⟨cell, String.ofList input⟩
    | none => .error (.badName (String.ofList name))

end Assignment

namespace Batch

/-- What a batch request asks for. -/
structure Request where
  /-- The texts to commit, in order. -/
  assignments : List Assignment
  /-- A formula to evaluate, with or without its equals sign. -/
  command : Option String
  /-- Whether to print the table. -/
  print : Bool
  /-- Whether to print the dump. -/
  dump : Bool

/-- Why a batch request fails. -/
inductive Problem where
  /-- A text could not be committed. -/
  | assignment (cell : Position) (f : Failure)
  /-- Nothing was asked for. -/
  | nothingToDo
deriving DecidableEq, Repr

/-- The message for a problem. -/
def Problem.message : Problem → String
  | assignment cell f => "failed to set " ++ cell.name ++ ": " ++ f.message
  | nothingToDo => "nothing to do"

/-- What a batch request leaves. -/
structure Outcome where
  /-- The document in the end. -/
  document : Document
  /-- The text written. -/
  output : String
  /-- The exit code, or the problem that ended the request. -/
  result : Except Problem Nat

/-- Commits assignments in order, up to the first that fails. -/
def assign (d : Document) : List Assignment → Document × Option Problem
  | [] => (d, none)
  | a :: rest =>
    match d.commit a.cell a.input with
    | .ok (d, _) => assign d rest
    | .error f => (d, some (.assignment a.cell f))

/-- A command as a formula: the equals sign may be left out. -/
def formulaOf (command : String) : String :=
  if Document.isFormula command then command else "=" ++ command

/-- Whether a request asks for anything. -/
def Request.asks (r : Request) : Bool :=
  !r.assignments.isEmpty || r.command.isSome || r.print || r.dump

/-- The value of the command of a request, if it has one. -/
def Request.answer (r : Request) (d : Document) : Option Value :=
  r.command.map fun command => d.preview (formulaOf command)

/-- What a request prints of a document: the value of its command, the table, the dump. -/
def Request.output (r : Request) (d : Document) : String :=
  ((r.answer d).elim "" fun v => v.display ++ "\n") ++
    (if r.print then Table.render d else "") ++ (if r.dump then Dump.render d else "")

/-- Runs a request.  The exit code is one if the command has no value. -/
def run (d : Document) (r : Request) : Outcome :=
  match assign d r.assignments with
  | (d, some problem) => ⟨d, "", .error problem⟩
  | (d, none) =>
    if r.asks then
      ⟨d, r.output d, .ok (if (r.answer d).any Value.isFault then 1 else 0)⟩
    else ⟨d, "", .error .nothingToDo⟩

end Batch

end Worksheet
