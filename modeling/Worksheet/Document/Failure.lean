import Worksheet.Cell.Name

/-!
# Failures of document operations

Every way in which an operation on a document can be refused, with the message for it.
-/

namespace Worksheet

/-- The two directions in which a document has a size. -/
inductive Axis where
  | row
  | column
deriving DecidableEq, Repr

namespace Axis

/-- The word for a direction in messages. -/
def noun : Axis → String
  | row => "row"
  | column => "column"

/-- The largest count in a direction.  References name columns with one letter, hence 26. -/
def limit : Axis → Nat
  | row => 10000
  | column => 26

/-- Whether a count is allowed in a direction. -/
def Allows (a : Axis) (n : Nat) : Prop := 1 ≤ n ∧ n ≤ a.limit

instance (a : Axis) (n : Nat) : Decidable (a.Allows n) :=
  inferInstanceAs (Decidable (1 ≤ n ∧ n ≤ a.limit))

end Axis

/-- Why an operation is refused. -/
inductive Failure where
  /-- A text that is no cell name. -/
  | badName (text : String)
  /-- A cell outside the rows and columns that are offered for editing. -/
  | outOfBounds (p : Position) (rows cols : Nat)
  /-- A row or column count that is not allowed. -/
  | badCount (axis : Axis) (n : Nat)
  | nothingToUndo
  | nothingToRedo
  /-- An output that has no room for all that is written to it. -/
  | sinkFull
deriving DecidableEq, Repr

namespace Failure

/-- The message for a failure. -/
def message : Failure → String
  | badName text => "Invalid cell reference: " ++ text
  | outOfBounds p rows cols =>
    "Cell " ++ p.name ++ " is outside the " ++ toString rows ++ "x" ++ toString cols ++ " grid"
  | badCount axis n =>
    "Invalid " ++ axis.noun ++ " count " ++ toString n ++ ": must be between 1 and " ++
      toString axis.limit
  | nothingToUndo => "Nothing to undo"
  | nothingToRedo => "Nothing to redo"
  | sinkFull => "IO error: failed to write whole buffer"

end Failure

end Worksheet
