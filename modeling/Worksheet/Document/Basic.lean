import Worksheet.Cell.Grid
import Worksheet.Document.Failure
import Worksheet.Formula.Evaluate

/-!
# Documents

A document is a grid with a number of rows and columns offered for editing and a history of
commits.  The size only decides which cells can be edited; it never removes an entry.

The history keeps, for every commit, the value of its cell before and after.  `past` holds the
commits that can be undone and `future` those that can be redone, the next one first; the newest
hundred commits can be undone, and a commit empties the future.  Every operation either succeeds
and gives the new document or fails and leaves nothing to keep.
-/

namespace Worksheet

/-- One commit: its cell and what is stored there before and after.  No commit removes an entry, but
a change that leaves none can be made again like any other. -/
structure Change where
  /-- The cell. -/
  position : Position
  /-- The stored value before the commit; none if nothing was stored. -/
  before : Option Value
  /-- The stored value after the commit; none if nothing is stored. -/
  after : Option Value
deriving DecidableEq

/-- The state of a sheet that is being edited. -/
structure Document where
  /-- The stored cells. -/
  grid : Grid
  /-- The number of rows offered for editing. -/
  rows : Nat
  /-- The number of columns offered for editing. -/
  cols : Nat
  /-- Whether anything has been committed, undone or redone. -/
  modified : Bool
  /-- The commits that can be undone, newest first. -/
  past : List Change
  /-- The commits that can be redone, next first. -/
  future : List Change

namespace Document

/-- The number of commits that can be undone. -/
def pastLimit : Nat := 100

/-- The empty document of the default size. -/
def blank : Document where
  grid := Grid.empty
  rows := 6
  cols := 6
  modified := false
  past := []
  future := []

instance : Inhabited Document := ⟨blank⟩

/-- Whether a cell is offered for editing. -/
def Contains (d : Document) (p : Position) : Prop := p.row < d.rows ∧ p.col < d.cols

instance (d : Document) (p : Position) : Decidable (d.Contains p) :=
  inferInstanceAs (Decidable (p.row < d.rows ∧ p.col < d.cols))

/-! ### Size -/

/-- The document with another number of rows. -/
def setRows (d : Document) (n : Nat) : Except Failure Document :=
  if Axis.row.Allows n then .ok { d with rows := n } else .error (.badCount .row n)

/-- The document with another number of columns. -/
def setCols (d : Document) (n : Nat) : Except Failure Document :=
  if Axis.column.Allows n then .ok { d with cols := n } else .error (.badCount .column n)

/-- The document with another size; a bad row count is reported before a bad column count. -/
def resize (d : Document) (rows cols : Nat) : Except Failure Document := do
  (← d.setRows rows).setCols cols

/-- The empty document of a given size. -/
def ofSize (rows cols : Nat) : Except Failure Document := blank.resize rows cols

/-! ### Reading -/

/-- The stored value of a cell, if there is one. -/
def get? (d : Document) (p : Position) : Option Value := d.grid.get? p

/-- The text that a cell shows; nothing for a cell without an entry. -/
def display (d : Document) (p : Position) : String := (d.get? p).elim "" Value.display

/-- The text that editing a cell starts from: what the cell shows, since formulas are not kept. -/
def input (d : Document) (p : Position) : String := d.display p

/-- The value of an input evaluated as a formula, without storing it. -/
def preview (d : Document) (formula : String) : Value :=
  .ofResult (Formula.evaluate d.grid.get? formula.toList)

/-! ### Commits -/

/-- The commits that can be undone after one more.  Past the limit the oldest is dropped. -/
def remember (past : List Change) (c : Change) : List Change :=
  if pastLimit < (c :: past).length then (c :: past).dropLast else c :: past

/-- Whether an input is a formula. -/
def isFormula (input : String) : Bool := input.toList.head? == some '='

/-- The document after an input has been entered into a cell, and the value stored.  The raw text
lands in the cell first, as it does while typing, so a formula that refers to its own cell reads
its own text. -/
def enter (d : Document) (p : Position) (input : String) : Document × Value :=
  let staged := d.grid.insert p (.text input)
  let value :=
    if isFormula input then .ofResult (Formula.evaluate staged.get? input.toList)
    else .text input
  ({ d with
      grid := staged.insert p value
      modified := true
      past := remember d.past ⟨p, d.get? p, some value⟩
      future := [] }, value)

/-- Commits an input into a cell that is offered for editing. -/
def commit (d : Document) (p : Position) (input : String) : Except Failure (Document × Value) :=
  if d.Contains p then .ok (d.enter p input) else .error (.outOfBounds p d.rows d.cols)

/-- Takes back the newest commit and names its cell.  The earlier value is restored as it was
stored; nothing is evaluated again. -/
def undo (d : Document) : Except Failure (Document × Position) :=
  match d.past with
  | [] => .error .nothingToUndo
  | c :: past =>
    .ok ({ d with
      grid := d.grid.restore c.position c.before
      modified := true
      past := past
      future := c :: d.future }, c.position)

/-- Makes the last undone commit again and names its cell.  The later value is restored in the same
way. -/
def redo (d : Document) : Except Failure (Document × Position) :=
  match d.future with
  | [] => .error .nothingToRedo
  | c :: future =>
    .ok ({ d with
      grid := d.grid.restore c.position c.after
      modified := true
      past := c :: d.past
      future := future }, c.position)

end Document

end Worksheet
