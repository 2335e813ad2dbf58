import Worksheet.Document.Basic
import Worksheet.Editor.Field

/-!
# The editor

The editor shows a part of a document, the viewport, with a cursor on one of its cells.  It is in
one of three modes: it moves the cursor, edits the cell under it, or reads a command.  An edit or a
command is typed into a text field of its own; the document changes only when an edit is committed.

Every action moves the viewport no further than needed to keep the cursor in it (`scrollTo`).
-/

namespace Worksheet

/-- What keys mean at the moment. -/
inductive Mode where
  /-- Keys move the cursor or are commands of their own. -/
  | normal
  /-- Keys edit the text of the current cell. -/
  | edit
  /-- Keys edit a command. -/
  | command
deriving DecidableEq, Repr

/-- The state of the editor. -/
structure Editor where
  /-- The document being edited. -/
  document : Document
  /-- The current cell. -/
  cursor : Position
  /-- The first cell shown. -/
  viewport : Position
  /-- The number of rows shown. -/
  visibleRows : Nat
  /-- The number of columns shown. -/
  visibleCols : Nat
  /-- What keys mean at the moment. -/
  mode : Mode
  /-- The text being edited for the current cell. -/
  entry : Field
  /-- The command being typed. -/
  command : Field
  /-- The message in the status line. -/
  status : String
  /-- The number of screen columns that a cell takes. -/
  columnWidth : Nat

/-- The least change of a viewport offset that shows a cursor, for a number of visible places. -/
def scrollTo (cursor offset visible : Nat) : Nat :=
  if cursor < offset then cursor
  else if offset + visible ≤ cursor then cursor + 1 - max visible 1
  else offset

namespace Editor

/-- The editor for a document, before anything has been drawn. -/
def ofDocument (d : Document) (columnWidth : Nat) : Editor where
  document := d
  cursor := ⟨0, 0⟩
  viewport := ⟨0, 0⟩
  visibleRows := 6
  visibleCols := 6
  mode := .normal
  entry := .empty
  command := .empty
  status := ""
  columnWidth := columnWidth

/-- The stored value of the current cell, if there is one. -/
def current? (e : Editor) : Option Value := e.document.get? e.cursor

/-! ### Moving -/

/-- Scrolls so that the cursor is in the viewport. -/
def follow (e : Editor) : Editor :=
  { e with viewport :=
      ⟨scrollTo e.cursor.row e.viewport.row e.visibleRows,
        scrollTo e.cursor.col e.viewport.col e.visibleCols⟩ }

/-- Puts the cursor on a cell. -/
def moveTo (e : Editor) (p : Position) : Editor := { e with cursor := p }.follow

/-- Moves the cursor by columns and rows, but not out of the document. -/
def moveBy (e : Editor) (dx dy : Int) : Editor :=
  e.moveTo ⟨min (e.cursor.row + dy).toNat (e.document.rows - 1),
    min (e.cursor.col + dx).toNat (e.document.cols - 1)⟩

/-! ### Editing cells -/

/-- Starts to edit the current cell with a text. -/
def startWith (e : Editor) (text : String) : Editor :=
  { e with entry := .ofText text, mode := .edit }

/-- Starts to edit the current cell with what it shows. -/
def startEdit (e : Editor) : Editor := e.startWith (e.document.input e.cursor)

/-- Drops the edit. -/
def cancelEdit (e : Editor) : Editor := { e with entry := .empty, mode := .normal }

/-- Commits a text into the current cell; an error marker or a failure shows in the status line. -/
def commitText (e : Editor) (text : String) : Editor :=
  match e.document.commit e.cursor text with
  | .ok (d, v) =>
    { e with
      document := d
      status := if v.isFault then e.cursor.name ++ ": " ++ v.display else "" }
  | .error f => { e with status := f.message }

/-- Commits the edit into the current cell. -/
def commitEdit (e : Editor) : Editor := e.cancelEdit.commitText e.entry.text

/-- Commits the empty text into the current cell. -/
def clearCell (e : Editor) : Editor := e.commitText ""

/-! ### Whole documents -/

/-- Takes back the newest commit. -/
def undo (e : Editor) : Editor :=
  match e.document.undo with
  | .ok (d, p) => { e with document := d, status := "Undid change to " ++ p.name }
  | .error f => { e with status := f.message }

/-- Makes the last undone commit again. -/
def redo (e : Editor) : Editor :=
  match e.document.redo with
  | .ok (d, p) => { e with document := d, status := "Redid change to " ++ p.name }
  | .error f => { e with status := f.message }

/-- Sets the number of rows; the cursor stays inside. -/
def setRows (e : Editor) (n : Nat) : Editor :=
  match e.document.setRows n with
  | .ok d => { { e with document := d }.moveBy 0 0 with status := "Rows: " ++ toString n }
  | .error f => { e with status := f.message }

/-- Sets the number of columns; the cursor stays inside. -/
def setCols (e : Editor) (n : Nat) : Editor :=
  match e.document.setCols n with
  | .ok d => { { e with document := d }.moveBy 0 0 with status := "Columns: " ++ toString n }
  | .error f => { e with status := f.message }

end Editor

end Worksheet
