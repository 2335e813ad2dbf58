import Mathlib
import Worksheet.Editor.Event

/-!
# What an event can do to an editor

An event comes down to a few actions in a row: the down key in an edit, say, is to drop the edit, to
commit its text and to move.  `Editor.Acts` lists the actions, each with the mode in which it
happens, and `actsAll_step` shows that nothing else ever happens.  What is said about sessions is
then a case analysis over the actions (`steps_induction`).
-/

namespace Worksheet.Editor

/-- One action on an editor. -/
inductive Acts (e : Editor) : Editor → Prop
  | startWith (h : e.mode = .normal) (text : String) : Acts e (e.startWith text)
  | pressEntry (h : e.mode = .edit) (k : KeyPress) : Acts e { e with entry := e.entry.press k }
  | cancelEdit (h : e.mode = .edit) : Acts e e.cancelEdit
  | startCommand (h : e.mode = .normal) : Acts e e.startCommand
  | pressCommand (h : e.mode = .command) (k : KeyPress) :
      Acts e { e with command := e.command.press k }
  | cancelCommand (h : e.mode = .command) : Acts e e.cancelCommand
  /-- A message appears in the status line. -/
  | say (h : e.mode = .normal) (message : String) : Acts e { e with status := message }
  | commitText (h : e.mode = .normal) (text : String) : Acts e (e.commitText text)
  | undo (h : e.mode = .normal) : Acts e e.undo
  | redo (h : e.mode = .normal) : Acts e e.redo
  | setRows (h : e.mode = .normal) (n : ℕ) : Acts e (e.setRows n)
  | setCols (h : e.mode = .normal) (n : ℕ) : Acts e (e.setCols n)
  | moveBy (h : e.mode = .normal) (dx dy : ℤ) : Acts e (e.moveBy dx dy)
  /-- Jumps lead to cells that are offered for editing. -/
  | moveTo (h : e.mode = .normal) {p : Position} (hp : e.document.Contains p) : Acts e (e.moveTo p)
  /-- The sizes of a screen are 16-bit words. -/
  | resized (width height : UInt16) : Acts e (e.resized width.toNat height.toNat)

/-- Actions in a row. -/
abbrev ActsAll : Editor → Editor → Prop := Relation.ReflTransGen Acts

variable {e : Editor}

/-! ### Keys -/

lemma mode_commitText (e : Editor) (text : String) : (e.commitText text).mode = e.mode := by
  unfold commitText
  split <;> rfl

/-- To commit an edit is to drop it and to commit its text. -/
lemma actsAll_commitEdit (h : e.mode = .edit) : e.ActsAll e.commitEdit :=
  .tail (.single (.cancelEdit h)) (.commitText rfl _)

lemma mode_commitEdit (e : Editor) : e.commitEdit.mode = .normal := mode_commitText _ _

lemma actsAll_commitEdit_moveBy (h : e.mode = .edit) (dx dy : ℤ) :
    e.ActsAll (e.commitEdit.moveBy dx dy) :=
  .tail (actsAll_commitEdit h) (.moveBy e.mode_commitEdit dx dy)

lemma actsAll_pressEdit (h : e.mode = .edit) (k : KeyPress) : e.ActsAll (e.pressEdit k) := by
  unfold pressEdit
  split
  · exact .single (.cancelEdit h)
  · exact actsAll_commitEdit_moveBy h 0 1
  · exact actsAll_commitEdit_moveBy h 0 1
  · exact actsAll_commitEdit_moveBy h 0 (-1)
  · exact actsAll_commitEdit_moveBy h 1 0
  · exact actsAll_commitEdit_moveBy h (-1) 0
  · exact .single (.pressEntry h k)

lemma actsAll_goto (h : e.mode = .normal) (name : String) : e.ActsAll (e.goto name) := by
  dsimp only [goto]
  split
  · exact .single (.say h _)
  · next p _ =>
    split
    · next hp =>
      have hmoved : (e.moveTo p).mode = .normal := h
      exact .tail (.single (.moveTo h hp)) (.say hmoved "")
    · exact .single (.say h _)

lemma actsAll_perform (h : e.mode = .normal) (c : Command) : e.ActsAll (e.perform c) := by
  cases c with
  | nothing => exact .refl
  | quit => exact .refl
  | rows n => exact .single (.setRows h n)
  | cols n => exact .single (.setCols h n)
  | badCount word => exact .single (.say h _)
  | goto name => exact actsAll_goto h name
  | unknown line => exact .single (.say h _)

lemma actsAll_pressCommand (h : e.mode = .command) (k : KeyPress) :
    e.ActsAll (e.pressCommand k).1 := by
  unfold pressCommand
  split
  · exact .single (.cancelCommand h)
  · exact .head (.cancelCommand h) (actsAll_perform rfl _)
  · exact .single (.pressCommand h k)

lemma actsAll_act (h : e.mode = .normal) (a : Action) : e.ActsAll (e.act a) := by
  cases a with
  | quit => exact .refl
  | undo => exact .single (.undo h)
  | redo => exact .single (.redo h)
  | move dx dy => exact .single (.moveBy h dx dy)
  | firstCol => exact .single (.moveBy h _ 0)
  | lastCol => exact .single (.moveBy h _ 0)
  | edit => exact .single (.startWith h _)
  | type c => exact .single (.startWith h _)
  | clear => exact .single (.commitText h "")
  | addRow => exact .single (.setRows h _)
  | removeRow => exact .single (.setRows h _)
  | addCol => exact .single (.setCols h _)
  | removeCol => exact .single (.setCols h _)
  | command => exact .single (.startCommand h)

lemma press_of_normal (h : e.mode = .normal) (k : KeyPress) : e.press k = e.pressNormal k := by
  rw [press, h]

lemma press_of_edit (h : e.mode = .edit) (k : KeyPress) : e.press k = (e.pressEdit k, false) := by
  rw [press, h]

lemma press_of_command (h : e.mode = .command) (k : KeyPress) : e.press k = e.pressCommand k := by
  rw [press, h]

lemma actsAll_press (e : Editor) (k : KeyPress) : e.ActsAll (e.press k).1 := by
  cases h : e.mode with
  | normal =>
    rw [press_of_normal h, pressNormal]
    split
    · exact .refl
    · exact actsAll_act h _
  | edit =>
    rw [press_of_edit h]
    exact actsAll_pressEdit h k
  | command =>
    rw [press_of_command h]
    exact actsAll_pressCommand h k

/-! ### The pointer -/

/-- There are no cells on the screen but those that are offered for editing. -/
lemma contains_of_cellAt? {grid : Rect} {x y : UInt16} {p : Position}
    (h : e.cellAt? grid x y = some p) : e.document.Contains p := by
  simp only [cellAt?, Option.ite_none_left_eq_some, Option.some.injEq, not_or, Nat.not_le] at h
  obtain ⟨-, ⟨hrow, -⟩, -, hcol, rfl⟩ := h
  exact ⟨hrow, hcol⟩

section Pointer

variable {width height : UInt16} {event : PointerEvent}

/-- Only a press of the left button does anything. -/
lemma point_of_ne (h : event.action ≠ .press .left) : e.point width height event = e := if_pos h

/-- A press in normal mode goes to the cell under the pointer, if there is one. -/
lemma point_of_normal (hpress : event.action = .press .left) (h : e.mode = .normal) :
    e.point width height event =
      (e.cellAt? (Layout.grid width height) event.x event.y).elim e e.moveTo := by
  have hmode : e.mode ≠ .edit := by rw [h]; decide
  rw [point, if_neg (not_not.mpr hpress)]
  dsimp only
  rw [if_neg hmode, if_neg (not_not.mpr h)]
  cases e.cellAt? (Layout.grid width height) event.x event.y <;> rfl

/-- A press in an edit commits it first. -/
lemma point_of_edit (hpress : event.action = .press .left) (h : e.mode = .edit) :
    e.point width height event = e.commitEdit.point width height event := by
  have hmode : e.commitEdit.mode ≠ .edit := by rw [mode_commitEdit]; decide
  rw [point, point, if_neg (not_not.mpr hpress), if_neg (not_not.mpr hpress)]
  dsimp only
  rw [if_pos h, if_neg hmode]

/-- A press while a command is typed does nothing. -/
lemma point_of_command (h : e.mode = .command) : e.point width height event = e := by
  have hedit : e.mode ≠ .edit := by rw [h]; decide
  have hnormal : e.mode ≠ .normal := by rw [h]; decide
  rw [point]
  dsimp only
  rw [if_neg hedit, if_pos hnormal, ite_self]

lemma actsAll_point_of_normal (h : e.mode = .normal) : e.ActsAll (e.point width height event) := by
  by_cases hpress : event.action = .press .left
  · rw [point_of_normal hpress h]
    cases hp : e.cellAt? (Layout.grid width height) event.x event.y with
    | none => exact .refl
    | some p => exact .single (.moveTo h (contains_of_cellAt? hp))
  · rw [point_of_ne hpress]

lemma actsAll_point (e : Editor) (width height : UInt16) (event : PointerEvent) :
    e.ActsAll (e.point width height event) := by
  by_cases hpress : event.action = .press .left
  · cases h : e.mode with
    | normal => exact actsAll_point_of_normal h
    | edit =>
      rw [point_of_edit hpress h]
      exact (actsAll_commitEdit h).trans (actsAll_point_of_normal e.mode_commitEdit)
    | command => rw [point_of_command h]
  · rw [point_of_ne hpress]

end Pointer

/-! ### Sessions -/

theorem actsAll_step (e : Editor) (event : Event) : e.ActsAll (e.step event) := by
  cases event with
  | key k => exact actsAll_press e k
  | pointer width height event => exact actsAll_point e width height event
  | draw width height => exact .single (.resized _ _)

@[simp] lemma steps_cons (e : Editor) (event : Event) (events : List Event) :
    e.steps (event :: events) = (e.step event).steps events := rfl

@[simp] lemma steps_append (e : Editor) (events events' : List Event) :
    e.steps (events ++ events') = (e.steps events).steps events' := List.foldl_append

/-- A property that survives every action survives a session. -/
theorem steps_induction {P : Editor → Prop} (hacts : ∀ {e e'}, P e → Acts e e' → P e')
    (h : P e) (events : List Event) : P (e.steps events) := by
  have hall : ∀ {e e' : Editor}, e.ActsAll e' → P e → P e' := by
    intro e e' hall h
    induction hall with
    | refl => exact h
    | tail _ hlast ih => exact hacts ih hlast
  induction events generalizing e with
  | nil => exact h
  | cons event events ih =>
    rw [steps_cons]
    refine ih ?_
    exact hall (actsAll_step e event) h

end Worksheet.Editor
