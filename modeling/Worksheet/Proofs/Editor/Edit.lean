import Mathlib
import Worksheet.Proofs.Editor.Cursor

/-!
# An edit is a transaction

While a cell is edited nothing happens to the document, the cursor or the status line, whatever is
pressed, pointed at or drawn (`continues_steps`).  An edit ends in one of two ways.  It is dropped by
the escape key, and then nothing has ever happened; or the cell is left, and then the text as it
stands is committed into the cell first, and the cursor moves afterwards (`step_of_leaves`).  The
cell is not remembered anywhere: it is the current one throughout.
-/

namespace Worksheet

namespace Event

/-- An event that drops an edit. -/
def Drops : Event → Prop
  | .key k => k.key = .esc
  | _ => False

/-- An event by which an edited cell is left. -/
def Leaves : Event → Prop
  | .key k => k.key ∈ [.enter, .tab, .backTab, .up, .down]
  | .pointer _ _ event => event.action = .press .left
  | .draw _ _ => False

instance : DecidablePred Drops
  | .key k => inferInstanceAs (Decidable (k.key = .esc))
  | .pointer _ _ _ | .draw _ _ => inferInstanceAs (Decidable False)

instance : DecidablePred Leaves
  | .key k => inferInstanceAs (Decidable (k.key ∈ [.enter, .tab, .backTab, .up, .down]))
  | .pointer _ _ event => inferInstanceAs (Decidable (event.action = .press .left))
  | .draw _ _ => inferInstanceAs (Decidable False)

end Event

namespace Editor

variable {e e' : Editor} {event : Event}

/-- An edit goes on, and nothing but its text and the part of the document shown may differ. -/
structure Continues (e e' : Editor) : Prop where
  mode : e'.mode = .edit
  document : e'.document = e.document
  cursor : e'.cursor = e.cursor
  status : e'.status = e.status

/-- Any other key goes to the text field. -/
lemma pressEdit_of_not_leaves {k : KeyPress} (hdrops : ¬ (Event.key k).Drops)
    (hleaves : ¬ (Event.key k).Leaves) : e.pressEdit k = { e with entry := e.entry.press k } := by
  simp only [Event.Drops] at hdrops
  simp only [Event.Leaves, List.mem_cons, List.not_mem_nil, or_false, not_or] at hleaves
  obtain ⟨henter, htab, hbackTab, hup, hdown⟩ := hleaves
  unfold pressEdit
  split <;> first | contradiction | rfl

/-- An event that does not end an edit leaves it running. -/
lemma continues_step (h : e.mode = .edit) (hdrops : ¬ event.Drops) (hleaves : ¬ event.Leaves) :
    e.Continues (e.step event) := by
  cases event with
  | key k =>
    have hstep : e.step (.key k) = { e with entry := e.entry.press k } := by
      rw [← pressEdit_of_not_leaves hdrops hleaves]
      exact congrArg Prod.fst (press_of_edit h k)
    rw [hstep]
    exact ⟨h, rfl, rfl, rfl⟩
  | pointer width height event =>
    have hstep : e.step (.pointer width height event) = e :=
      point_of_ne hleaves
    rw [hstep]
    exact ⟨h, rfl, rfl, rfl⟩
  | draw width height => exact ⟨h, rfl, rfl, rfl⟩

/-- An edit runs on through any number of events that do not end it. -/
lemma continues_steps (h : e.mode = .edit) {events : List Event}
    (hevents : ∀ event ∈ events, ¬ event.Drops ∧ ¬ event.Leaves) :
    e.Continues (e.steps events) := by
  induction events generalizing e with
  | nil => exact ⟨h, rfl, rfl, rfl⟩
  | cons event events ih =>
    obtain ⟨⟨hdrops, hleaves⟩, hrest⟩ := List.forall_mem_cons.mp hevents
    have hfirst : e.Continues (e.step event) := continues_step h hdrops hleaves
    have hall : (e.step event).Continues ((e.step event).steps events) := ih hfirst.mode hrest
    exact ⟨hall.mode, hall.document.trans hfirst.document, hall.cursor.trans hfirst.cursor,
      hall.status.trans hfirst.status⟩

/-- The escape key drops an edit. -/
lemma step_of_drops (h : e.mode = .edit) (hdrops : event.Drops) : e.step event = e.cancelEdit := by
  cases event with
  | key k =>
    have hk : k.key = .esc := hdrops
    change (e.press k).1 = e.cancelEdit
    rw [press_of_edit h, pressEdit, hk]
  | pointer => cases hdrops
  | draw => cases hdrops

/-- To leave a cell is to commit the edit, and then to move or to stay. -/
lemma step_of_leaves (h : e.mode = .edit) (hleaves : event.Leaves) :
    e.step event = e.commitEdit ∨ ∃ p, e.step event = e.commitEdit.moveTo p := by
  cases event with
  | key k =>
    right
    change ∃ p, (e.press k).1 = e.commitEdit.moveTo p
    rw [press_of_edit h, pressEdit]
    simp only [Event.Leaves, List.mem_cons, List.not_mem_nil, or_false] at hleaves
    rcases hleaves with hk | hk | hk | hk | hk <;> rw [hk] <;> exact ⟨_, rfl⟩
  | pointer width height event =>
    have hpress : event.action = .press .left := hleaves
    change e.point width height event = _ ∨ ∃ p, e.point width height event = _
    rw [point_of_edit hpress h, point_of_normal hpress e.mode_commitEdit]
    cases e.commitEdit.cellAt? (Layout.grid width height) event.x event.y with
    | none => exact Or.inl rfl
    | some p => exact Or.inr ⟨p, rfl⟩
  | draw => cases hleaves

lemma cursor_commitEdit (e : Editor) : e.commitEdit.cursor = e.cursor := by
  rw [commitEdit, commitText]
  split <;> rfl

/-- An edit of a session is a transaction on its cell.  Events that do not end it change neither the
mode, the document, the cursor nor the message.  The escape key then goes back to normal mode with
the document and the cursor of the start and with no text left.  Leaving the cell makes exactly one
commit, of the text as it stands and into the cell in which the edit began; only after that may the
cursor move. -/
theorem edit_steps_transaction {rows cols : ℕ} {d : Document}
    (h : Document.ofSize rows cols = .ok d) (columnWidth : ℕ) (before : List Event)
    (hedit : ((ofDocument d columnWidth).steps before).mode = .edit) {during : List Event}
    (hduring : ∀ event ∈ during, ¬ event.Drops ∧ ¬ event.Leaves) :
    let start := (ofDocument d columnWidth).steps before
    let e := start.steps during
    (e.mode = .edit ∧ e.document = start.document ∧ e.cursor = start.cursor ∧
        e.status = start.status) ∧
      (∀ event, event.Drops →
        (e.step event).mode = .normal ∧ (e.step event).document = start.document ∧
          (e.step event).cursor = start.cursor ∧ (e.step event).entry = .empty) ∧
      ∀ event, event.Leaves → ∃ (committed : Editor) (v : Value),
        start.document.commit start.cursor e.entry.text = .ok (committed.document, v) ∧
          committed.cursor = start.cursor ∧
          (e.step event = committed ∨ ∃ p, e.step event = committed.moveTo p) ∧
          (e.step event).document = committed.document ∧ (e.step event).mode = .normal := by
  intro start e
  have hin : start.document.Contains start.cursor := contains_steps h columnWidth before
  have hcontinues : start.Continues e := continues_steps hedit hduring
  refine ⟨⟨hcontinues.mode, hcontinues.document, hcontinues.cursor, hcontinues.status⟩, ?_, ?_⟩
  · intro event hdrops
    rw [step_of_drops hcontinues.mode hdrops]
    exact ⟨rfl, hcontinues.document, hcontinues.cursor, rfl⟩
  · intro event hleaves
    obtain ⟨d', v, hcommit, hdocument⟩ : ∃ d' v,
        start.document.commit start.cursor e.entry.text = .ok (d', v) ∧
          e.commitEdit.document = d' := by
      rw [← hcontinues.document, ← hcontinues.cursor] at hin ⊢
      exact exists_commit (e := e.cancelEdit) hin e.entry.text
    have hstep := step_of_leaves hcontinues.mode hleaves
    refine ⟨e.commitEdit, v, hdocument ▸ hcommit, ?_, hstep, ?_⟩
    · rw [cursor_commitEdit, hcontinues.cursor]
    · rcases hstep with hstep | ⟨p, hstep⟩
      · rw [hstep]
        exact ⟨rfl, e.mode_commitEdit⟩
      · rw [hstep]
        exact ⟨rfl, e.mode_commitEdit⟩

/-- A key that clears cells in normal mode is typed into an edit, a press of the right button and a
draw do not end it, and the tab key commits what has been typed into the first cell. -/
theorem edit_steps_transaction_of_typing :
    Document.ofSize 2 2 = .ok { Document.blank with rows := 2, cols := 2 } ∧
      ((ofDocument { Document.blank with rows := 2, cols := 2 } 10).steps
        [.key (.ofChar '=')]).mode = .edit ∧
      ∃ (d' : Document) (v : Value),
        Document.commit { Document.blank with rows := 2, cols := 2 } ⟨0, 0⟩ "=x" = .ok (d', v) ∧
        ((ofDocument { Document.blank with rows := 2, cols := 2 } 10).steps
          [.key (.ofChar '='), .key (.ofChar 'x'), .pointer 40 12 ⟨.press .right, 9, 6⟩, .draw 40 12,
            .key { key := .tab }]).document = d' := by
  have h : Document.ofSize 2 2 = .ok { Document.blank with rows := 2, cols := 2 } :=
    Document.ofSize_eq_ok_iff.mpr ⟨by decide, by decide, rfl⟩
  have hedit : ((ofDocument { Document.blank with rows := 2, cols := 2 } 10).steps
      [.key (.ofChar '=')]).mode = .edit := rfl
  have hduring : ∀ event ∈ [.key (.ofChar 'x'), .pointer 40 12 ⟨.press .right, 9, 6⟩, .draw 40 12],
      ¬ Event.Drops event ∧ ¬ Event.Leaves event := by decide
  obtain ⟨-, -, hleaves⟩ := edit_steps_transaction h 10 [.key (.ofChar '=')] hedit hduring
  obtain ⟨committed, v, hcommit, -, -, hdocument, -⟩ := hleaves (.key { key := .tab }) (by decide)
  exact ⟨h, hedit, committed.document, v, hcommit, hdocument⟩

end Editor

end Worksheet
