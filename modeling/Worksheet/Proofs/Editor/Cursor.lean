import Mathlib
import Worksheet.Proofs.Document.Transition
import Worksheet.Proofs.Editor.Transition

/-!
# The cursor stays in the sheet

The cursor moves by arrows, jumps and presses of the pointer, and the sheet may become smaller under
it.  Every action leaves it on a cell that is offered for editing (`Acts.contains`), and so a commit
into the current cell is never refused: no text that is typed into a cell gets lost.
-/

namespace Worksheet.Editor

variable {e e' : Editor}

lemma contains_moveBy (hrows : 1 ≤ e.document.rows) (hcols : 1 ≤ e.document.cols) (dx dy : ℤ) :
    (e.moveBy dx dy).document.Contains (e.moveBy dx dy).cursor := by
  constructor
  · change min (e.cursor.row + dy).toNat (e.document.rows - 1) < e.document.rows
    omega
  · change min (e.cursor.col + dx).toNat (e.document.cols - 1) < e.document.cols
    omega

lemma contains_setRows (h : e.document.Contains e.cursor) (n : ℕ) :
    (e.setRows n).document.Contains (e.setRows n).cursor := by
  unfold setRows
  split
  · next d hd =>
    cases Document.accepts_of_setRows hd with
    | setRows hn =>
      exact contains_moveBy (e := { e with document := { e.document with rows := n } }) hn.1
        (Nat.one_le_of_lt h.2) 0 0
  · exact h

lemma contains_setCols (h : e.document.Contains e.cursor) (n : ℕ) :
    (e.setCols n).document.Contains (e.setCols n).cursor := by
  unfold setCols
  split
  · next d hd =>
    cases Document.accepts_of_setCols hd with
    | setCols hn =>
      exact contains_moveBy (e := { e with document := { e.document with cols := n } })
        (Nat.one_le_of_lt h.1) hn.1 0 0
  · exact h

lemma contains_commitText (h : e.document.Contains e.cursor) (text : String) :
    (e.commitText text).document.Contains (e.commitText text).cursor := by
  unfold commitText
  split
  · next d v hd =>
    cases Document.accepts_of_commit hd with
    | commit => exact h
  · exact h

lemma contains_undo (h : e.document.Contains e.cursor) :
    e.undo.document.Contains e.undo.cursor := by
  unfold undo
  split
  · next d p hd =>
    cases Document.accepts_of_undo hd with
    | undo => exact h
  · exact h

lemma contains_redo (h : e.document.Contains e.cursor) :
    e.redo.document.Contains e.redo.cursor := by
  unfold redo
  split
  · next d p hd =>
    cases Document.accepts_of_redo hd with
    | redo => exact h
  · exact h

/-- No action leads the cursor out of the document. -/
lemma Acts.contains (hacts : e.Acts e') (h : e.document.Contains e.cursor) :
    e'.document.Contains e'.cursor := by
  cases hacts with
  | startWith => exact h
  | pressEntry => exact h
  | cancelEdit => exact h
  | startCommand => exact h
  | pressCommand => exact h
  | cancelCommand => exact h
  | say => exact h
  | commitText => exact contains_commitText h _
  | undo => exact contains_undo h
  | redo => exact contains_redo h
  | setRows => exact contains_setRows h _
  | setCols => exact contains_setCols h _
  | moveBy => exact contains_moveBy (Nat.one_le_of_lt h.1) (Nat.one_le_of_lt h.2) _ _
  | moveTo _ hp => exact hp
  | resized => exact h

/-- An action leaves the document as it is, or performs an operation that succeeds. -/
lemma Acts.document (hacts : e.Acts e') :
    e'.document = e.document ∨ ∃ o r, e.document.Accepts o e'.document r := by
  cases hacts with
  | commitText =>
    unfold Editor.commitText
    split
    · next d v hd => exact Or.inr ⟨_, _, Document.accepts_of_commit hd⟩
    · exact Or.inl rfl
  | undo =>
    unfold Editor.undo
    split
    · next d p hd => exact Or.inr ⟨_, _, Document.accepts_of_undo hd⟩
    · exact Or.inl rfl
  | redo =>
    unfold Editor.redo
    split
    · next d p hd => exact Or.inr ⟨_, _, Document.accepts_of_redo hd⟩
    · exact Or.inl rfl
  | setRows =>
    unfold Editor.setRows
    split
    · next d hd => exact Or.inr ⟨_, _, Document.accepts_of_setRows hd⟩
    · exact Or.inl rfl
  | setCols =>
    unfold Editor.setCols
    split
    · next d hd => exact Or.inr ⟨_, _, Document.accepts_of_setCols hd⟩
    · exact Or.inl rfl
  | _ => exact Or.inl rfl

/-! ### Sessions -/

/-- The cursor of a session on a fresh document is always in the document. -/
lemma contains_steps {rows cols : ℕ} {d : Document} (h : Document.ofSize rows cols = .ok d)
    (columnWidth : ℕ) (events : List Event) :
    ((ofDocument d columnWidth).steps events).document.Contains
      ((ofDocument d columnWidth).steps events).cursor := by
  obtain ⟨hrows, hcols, rfl⟩ := Document.ofSize_eq_ok_iff.mp h
  have hstart : (ofDocument { Document.blank with rows := rows, cols := cols }
      columnWidth).document.Contains ⟨0, 0⟩ := ⟨hrows.1, hcols.1⟩
  exact steps_induction (fun h hacts => hacts.contains h) hstart events

/-- With the cursor in the document a text always reaches the current cell. -/
lemma document_commitText (h : e.document.Contains e.cursor) (text : String) :
    (e.commitText text).document = (e.document.enter e.cursor text).1 := by
  have hcommit : e.document.commit e.cursor text = .ok (e.document.enter e.cursor text) := if_pos h
  rw [commitText, hcommit]

lemma exists_commit (h : e.document.Contains e.cursor) (text : String) :
    ∃ d v, e.document.commit e.cursor text = .ok (d, v) ∧ (e.commitText text).document = d :=
  ⟨_, _, if_pos h, document_commitText h text⟩

/-- After every event of a session the cursor is in the document.  Hence an edit that is committed,
and the clearing of a cell, always reach the document. -/
theorem cursor_steps_inside {rows cols : ℕ} {d : Document} (h : Document.ofSize rows cols = .ok d)
    (columnWidth : ℕ) (events : List Event) :
    let e := (ofDocument d columnWidth).steps events
    (e.cursor.row < e.document.rows ∧ e.cursor.col < e.document.cols) ∧
      (∃ d' v, e.document.commit e.cursor e.entry.text = .ok (d', v) ∧
        e.commitEdit.document = d') ∧
      ∃ d' v, e.document.commit e.cursor "" = .ok (d', v) ∧ e.clearCell.document = d' := by
  intro e
  have hin : e.document.Contains e.cursor := contains_steps h columnWidth events
  exact ⟨hin, exists_commit (e := e.cancelEdit) hin e.entry.text, exists_commit hin ""⟩

/-- A sheet loses its last column while the cursor is in it, and a text that is typed there
afterwards lands in the new last column. -/
theorem cursor_steps_inside_after_shrinking :
    Document.ofSize 3 3 = .ok { Document.blank with rows := 3, cols := 3 } ∧
      let e := (ofDocument { Document.blank with rows := 3, cols := 3 } 10).steps
        [.key { key := .endKey }, .key (.ofChar 'C'), .draw 40 12, .key (.ofChar '7')]
      (e.cursor.row < e.document.rows ∧ e.cursor.col < e.document.cols) ∧
        ∃ d' v, e.document.commit e.cursor e.entry.text = .ok (d', v) ∧
          e.commitEdit.document = d' := by
  have h : Document.ofSize 3 3 = .ok { Document.blank with rows := 3, cols := 3 } :=
    Document.ofSize_eq_ok_iff.mpr ⟨by decide, by decide, rfl⟩
  obtain ⟨hcursor, hedit, -⟩ := cursor_steps_inside h 10
    [.key { key := .endKey }, .key (.ofChar 'C'), .draw 40 12, .key (.ofChar '7')]
  exact ⟨h, hcursor, hedit⟩

end Worksheet.Editor
