import Worksheet.Document.Basic

/-!
# Operations on documents

The ways to change a document, as data, so that a session is a list of operations.  An operation
that fails leaves the document as it was.
-/

namespace Worksheet

/-- A way to change a document. -/
inductive Operation where
  /-- Commit an input into a cell. -/
  | commit (p : Position) (input : String)
  | undo
  | redo
  | setRows (n : Nat)
  | setCols (n : Nat)
  | resize (rows cols : Nat)
deriving DecidableEq, Repr

/-- What an operation that succeeds tells. -/
inductive Reply where
  /-- The value stored by a commit. -/
  | stored (v : Value)
  /-- The cell of the commit that was taken back or made again. -/
  | changed (p : Position)
  /-- Nothing, from a change of size. -/
  | resized
deriving DecidableEq

namespace Document

/-- Performs an operation. -/
def perform (d : Document) : Operation → Except Failure (Document × Reply)
  | .commit p input => (d.commit p input).map fun (d, v) => (d, .stored v)
  | .undo => d.undo.map fun (d, p) => (d, .changed p)
  | .redo => d.redo.map fun (d, p) => (d, .changed p)
  | .setRows n => (d.setRows n).map fun d => (d, .resized)
  | .setCols n => (d.setCols n).map fun d => (d, .resized)
  | .resize rows cols => (d.resize rows cols).map fun d => (d, .resized)

/-- The document after an operation, whether it succeeded or not. -/
def step (d : Document) (o : Operation) : Document :=
  match d.perform o with
  | .ok (d, _) => d
  | .error _ => d

/-- The document after a list of operations. -/
def steps (d : Document) (os : List Operation) : Document := os.foldl step d

end Document

end Worksheet
