import Mathlib
import Worksheet.Proofs.Editor.Transition

/-!
# What actions leave alone

Actions on the document or on the cursor have nothing to do with the mode, the text fields and the
layout of the screen.  `Keeps` lists what they leave alone.  Commands are of this kind, and all keys
of normal mode but those that start an edit or a command (`keeps_act_or`).
-/

namespace Worksheet.Editor

variable {e e' e'' : Editor}

/-- The mode, the text fields and the layout are the same in two editors. -/
structure Keeps (e e' : Editor) : Prop where
  mode : e'.mode = e.mode
  entry : e'.entry = e.entry
  command : e'.command = e.command
  visibleRows : e'.visibleRows = e.visibleRows
  visibleCols : e'.visibleCols = e.visibleCols
  columnWidth : e'.columnWidth = e.columnWidth

lemma Keeps.refl (e : Editor) : e.Keeps e := ⟨rfl, rfl, rfl, rfl, rfl, rfl⟩

lemma Keeps.trans (h : e.Keeps e') (h' : e'.Keeps e'') : e.Keeps e'' where
  mode := h'.mode.trans h.mode
  entry := h'.entry.trans h.entry
  command := h'.command.trans h.command
  visibleRows := h'.visibleRows.trans h.visibleRows
  visibleCols := h'.visibleCols.trans h.visibleCols
  columnWidth := h'.columnWidth.trans h.columnWidth

lemma keeps_say (e : Editor) (message : String) : e.Keeps { e with status := message } :=
  ⟨rfl, rfl, rfl, rfl, rfl, rfl⟩

lemma keeps_moveTo (e : Editor) (p : Position) : e.Keeps (e.moveTo p) :=
  ⟨rfl, rfl, rfl, rfl, rfl, rfl⟩

lemma keeps_moveBy (e : Editor) (dx dy : ℤ) : e.Keeps (e.moveBy dx dy) := keeps_moveTo e _

lemma keeps_commitText (e : Editor) (text : String) : e.Keeps (e.commitText text) := by
  unfold commitText
  split <;> exact ⟨rfl, rfl, rfl, rfl, rfl, rfl⟩

lemma keeps_undo (e : Editor) : e.Keeps e.undo := by
  unfold undo
  split <;> exact ⟨rfl, rfl, rfl, rfl, rfl, rfl⟩

lemma keeps_redo (e : Editor) : e.Keeps e.redo := by
  unfold redo
  split <;> exact ⟨rfl, rfl, rfl, rfl, rfl, rfl⟩

lemma keeps_setRows (e : Editor) (n : ℕ) : e.Keeps (e.setRows n) := by
  unfold setRows
  split <;> exact ⟨rfl, rfl, rfl, rfl, rfl, rfl⟩

lemma keeps_setCols (e : Editor) (n : ℕ) : e.Keeps (e.setCols n) := by
  unfold setCols
  split <;> exact ⟨rfl, rfl, rfl, rfl, rfl, rfl⟩

lemma keeps_goto (e : Editor) (name : String) : e.Keeps (e.goto name) := by
  dsimp only [goto]
  split
  · exact keeps_say e _
  · split
    · exact (keeps_moveTo e _).trans (keeps_say _ _)
    · exact keeps_say e _

/-- A command is done outside the text field in which it has been typed. -/
lemma keeps_perform (e : Editor) (c : Command) : e.Keeps (e.perform c) := by
  cases c with
  | nothing => exact Keeps.refl e
  | quit => exact Keeps.refl e
  | rows n => exact keeps_setRows e n
  | cols n => exact keeps_setCols e n
  | badCount word => exact keeps_say e _
  | goto name => exact keeps_goto e name
  | unknown line => exact keeps_say e _

/-- In normal mode only the start of an edit or of a command is of another kind. -/
lemma keeps_act_or (e : Editor) (a : Action) :
    e.Keeps (e.act a) ∨ a = .edit ∨ (∃ c, a = .type c) ∨ a = .command := by
  cases a with
  | quit => exact Or.inl (Keeps.refl e)
  | undo => exact Or.inl (keeps_undo e)
  | redo => exact Or.inl (keeps_redo e)
  | move dx dy => exact Or.inl (keeps_moveBy e dx dy)
  | firstCol => exact Or.inl (keeps_moveBy e _ 0)
  | lastCol => exact Or.inl (keeps_moveBy e _ 0)
  | edit => exact Or.inr (Or.inl rfl)
  | type c => exact Or.inr (Or.inr (Or.inl ⟨c, rfl⟩))
  | clear => exact Or.inl (keeps_commitText e "")
  | addRow => exact Or.inl (keeps_setRows e _)
  | removeRow => exact Or.inl (keeps_setRows e _)
  | addCol => exact Or.inl (keeps_setCols e _)
  | removeCol => exact Or.inl (keeps_setCols e _)
  | command => exact Or.inr (Or.inr (Or.inr rfl))

/-- Only a draw changes the layout of the screen. -/
lemma Acts.layout (hacts : e.Acts e') :
    (e'.visibleRows = e.visibleRows ∧ e'.visibleCols = e.visibleCols ∧
        e'.columnWidth = e.columnWidth) ∨
      ∃ width height : UInt16, e' = e.resized width.toNat height.toNat := by
  have hkept (h : e.Keeps e') :
      e'.visibleRows = e.visibleRows ∧ e'.visibleCols = e.visibleCols ∧
        e'.columnWidth = e.columnWidth :=
    ⟨h.visibleRows, h.visibleCols, h.columnWidth⟩
  cases hacts with
  | resized width height => exact Or.inr ⟨width, height, rfl⟩
  | commitText _ text => exact Or.inl (hkept (keeps_commitText e text))
  | undo => exact Or.inl (hkept (keeps_undo e))
  | redo => exact Or.inl (hkept (keeps_redo e))
  | setRows _ n => exact Or.inl (hkept (keeps_setRows e n))
  | setCols _ n => exact Or.inl (hkept (keeps_setCols e n))
  | _ => exact Or.inl ⟨rfl, rfl, rfl⟩

/-- The pointer moves the cursor, unless it ends an edit. -/
lemma keeps_point (h : e.mode ≠ .edit) (width height : UInt16) (event : PointerEvent) :
    e.Keeps (e.point width height event) := by
  by_cases hpress : event.action = .press .left
  · cases hmode : e.mode with
    | normal =>
      rw [point_of_normal hpress hmode]
      cases e.cellAt? (Layout.grid width height) event.x event.y with
      | none => exact Keeps.refl e
      | some p => exact keeps_moveTo e p
    | edit => exact absurd hmode h
    | command =>
      rw [point_of_command hmode]
      exact Keeps.refl e
  · rw [point_of_ne hpress]
    exact Keeps.refl e

end Worksheet.Editor
