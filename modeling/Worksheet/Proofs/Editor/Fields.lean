import Mathlib
import Worksheet.Proofs.Editor.Frame
import Worksheet.Proofs.Editor.Gap

/-!
# The text fields of a session

An editor has two text fields, one for the cell being edited and one for the command being typed.
Each is in use in a mode of its own, and seven transitions start to use a field or give it up.
`Tidy` is what all of them keep up: the cursor of either field stands between two characters, and a
field that is not in use is empty.

So neither a key nor the drawing of the formula bar ever takes a text apart inside a character or
behind its end (`barText?_eq`), and nothing of a text that has been given up turns up again: an edit
starts with what the cell shows or with the character typed (`step_of_starts_edit`), and a command
with nothing (`step_of_starts_command`).
-/

namespace Worksheet.Editor

variable {e e' : Editor} {event : Event}

/-! ### The invariant -/

/-- The cursors of the text fields stand between two characters, and a text field that is not in use
is empty. -/
structure Tidy (e : Editor) : Prop where
  entry_onBoundary : e.entry.OnBoundary
  command_onBoundary : e.command.OnBoundary
  entry_eq : e.mode ≠ .edit → e.entry = .empty
  command_eq : e.mode ≠ .command → e.command = .empty

lemma onBoundary_ofText (text : String) : (Field.ofText text).OnBoundary :=
  ⟨text.toList, [], (List.append_nil _).symm, rfl⟩

lemma onBoundary_empty : Field.empty.OnBoundary := ⟨[], [], rfl, rfl⟩

lemma tidy_ofDocument (d : Document) (columnWidth : ℕ) : (ofDocument d columnWidth).Tidy :=
  ⟨onBoundary_empty, onBoundary_empty, fun _ => rfl, fun _ => rfl⟩

namespace Tidy

/-- Whatever keeps the mode and the two fields keeps them tidy. -/
lemma of_keeps (h : e.Tidy) (hkeeps : e.Keeps e') : e'.Tidy where
  entry_onBoundary := hkeeps.entry ▸ h.entry_onBoundary
  command_onBoundary := hkeeps.command ▸ h.command_onBoundary
  entry_eq hedit := hkeeps.entry.trans (h.entry_eq (hkeeps.mode ▸ hedit))
  command_eq htyped := hkeeps.command.trans (h.command_eq (hkeeps.mode ▸ htyped))

lemma startWith (h : e.Tidy) (hmode : e.mode = .normal) (text : String) :
    (e.startWith text).Tidy where
  entry_onBoundary := onBoundary_ofText text
  command_onBoundary := h.command_onBoundary
  entry_eq hedit := absurd rfl hedit
  command_eq _ := h.command_eq (by rw [hmode]; decide)

lemma startCommand (h : e.Tidy) (hmode : e.mode = .normal) : e.startCommand.Tidy where
  entry_onBoundary := h.entry_onBoundary
  command_onBoundary := onBoundary_empty
  entry_eq _ := h.entry_eq (by rw [hmode]; decide)
  command_eq htyped := absurd rfl htyped

lemma pressEntry (h : e.Tidy) (hmode : e.mode = .edit) (k : KeyPress) :
    Tidy { e with entry := e.entry.press k } where
  entry_onBoundary := h.entry_onBoundary.press k
  command_onBoundary := h.command_onBoundary
  entry_eq hedit := absurd hmode hedit
  command_eq := h.command_eq

lemma pressCommand (h : e.Tidy) (hmode : e.mode = .command) (k : KeyPress) :
    Tidy { e with command := e.command.press k } where
  entry_onBoundary := h.entry_onBoundary
  command_onBoundary := h.command_onBoundary.press k
  entry_eq := h.entry_eq
  command_eq htyped := absurd hmode htyped

lemma cancelEdit (h : e.Tidy) (hmode : e.mode = .edit) : e.cancelEdit.Tidy where
  entry_onBoundary := onBoundary_empty
  command_onBoundary := h.command_onBoundary
  entry_eq _ := rfl
  command_eq _ := h.command_eq (by rw [hmode]; decide)

lemma cancelCommand (h : e.Tidy) (hmode : e.mode = .command) : e.cancelCommand.Tidy where
  entry_onBoundary := h.entry_onBoundary
  command_onBoundary := onBoundary_empty
  entry_eq _ := h.entry_eq (by rw [hmode]; decide)
  command_eq _ := rfl

end Tidy

/-- Every action leaves the text fields tidy. -/
lemma Acts.tidy (hacts : e.Acts e') (h : e.Tidy) : e'.Tidy := by
  cases hacts with
  | startWith hmode text => exact h.startWith hmode text
  | pressEntry hmode k => exact h.pressEntry hmode k
  | cancelEdit hmode => exact h.cancelEdit hmode
  | startCommand hmode => exact h.startCommand hmode
  | pressCommand hmode k => exact h.pressCommand hmode k
  | cancelCommand hmode => exact h.cancelCommand hmode
  | say _ message => exact h.of_keeps (keeps_say e message)
  | commitText _ text => exact h.of_keeps (keeps_commitText e text)
  | undo => exact h.of_keeps (keeps_undo e)
  | redo => exact h.of_keeps (keeps_redo e)
  | setRows _ n => exact h.of_keeps (keeps_setRows e n)
  | setCols _ n => exact h.of_keeps (keeps_setCols e n)
  | moveBy _ dx dy => exact h.of_keeps (keeps_moveBy e dx dy)
  | moveTo => exact h.of_keeps (keeps_moveTo e _)
  | resized => exact ⟨h.entry_onBoundary, h.command_onBoundary, h.entry_eq, h.command_eq⟩

lemma tidy_steps (d : Document) (columnWidth : ℕ) (events : List Event) :
    ((ofDocument d columnWidth).steps events).Tidy :=
  steps_induction (fun h hacts => hacts.tidy h) (tidy_ofDocument d columnWidth) events

/-! ### The formula bar -/

/-- A text field with a bar at its cursor, unless it is taken apart at a wrong offset. -/
def withCursor? (f : Field) : Option (List Char) :=
  (Text.splitBytes? f.cursor f.text.toList).map fun (before, after) => before ++ '│' :: after

/-- The text in the formula bar, unless a text field is taken apart at a wrong offset. -/
def barText? (e : Editor) : Option (List Char) :=
  let name := e.cursor.nameChars ++ [':', ' ']
  match e.mode with
  | .edit => (withCursor? e.entry).map (name ++ ·)
  | .command => (withCursor? e.command).map (':' :: ·)
  | .normal => some (name ++ (e.current?.elim "(empty)" Value.display).toList)

lemma withCursor?_eq {f : Field} (h : f.OnBoundary) : withCursor? f = some (withCursor f) := by
  have hsplit : Text.splitBytes? f.cursor f.text.toList = some (f.before, f.after) := by
    conv_lhs => rw [← h.field_eq, Gap.toList_text_field, Gap.cursor_field]
    exact Text.splitBytes?_byteLength f.before f.after
  rw [withCursor?, hsplit, Option.map_some, withCursor]

/-- The formula bar can always be drawn. -/
lemma Tidy.barText?_eq (h : e.Tidy) : e.barText? = some e.barText := by
  rw [barText?, barText]
  cases e.mode with
  | normal => rfl
  | edit =>
    dsimp only
    rw [withCursor?_eq h.entry_onBoundary, Option.map_some]
  | command =>
    dsimp only
    rw [withCursor?_eq h.command_onBoundary, Option.map_some]

/-! ### Starting to type -/

lemma mode_pressEdit (h : e.mode = .edit) (k : KeyPress) :
    (e.pressEdit k).mode = .edit ∨ (e.pressEdit k).mode = .normal := by
  have hcommit : e.commitEdit.mode = .normal := mode_commitEdit e
  unfold pressEdit
  split
  · exact Or.inr rfl
  · exact Or.inr hcommit
  · exact Or.inr hcommit
  · exact Or.inr hcommit
  · exact Or.inr hcommit
  · exact Or.inr hcommit
  · exact Or.inl h

lemma mode_pressCommand (h : e.mode = .command) (k : KeyPress) :
    (e.pressCommand k).1.mode = .command ∨ (e.pressCommand k).1.mode = .normal := by
  unfold pressCommand
  split
  · exact Or.inr rfl
  · exact Or.inr (keeps_perform e.cancelCommand _).mode
  · exact Or.inl h

lemma key_of_action?_type {k : KeyPress} {c : Char} (h : k.action? = some (.type c)) :
    k.key = .char c := by
  unfold KeyPress.action? at h
  split at h <;> (try split at h) <;> cases h
  assumption

/-- A key in normal mode starts an edit or a command, or has nothing to do with text fields. -/
lemma step_key_of_normal (h : e.mode = .normal) (k : KeyPress) :
    e.Keeps (e.step (.key k)) ∨
      (e.step (.key k) = e.startEdit ∨
        ∃ c, k.key = .char c ∧ e.step (.key k) = e.startWith (String.ofList [c])) ∨
      e.step (.key k) = e.startCommand := by
  have hstep : e.step (.key k) = (e.pressNormal k).1 := congrArg Prod.fst (press_of_normal h k)
  rw [hstep, pressNormal]
  cases haction : k.action? with
  | none => exact Or.inl (Keeps.refl e)
  | some a =>
    obtain hkeeps | rfl | ⟨c, rfl⟩ | rfl := keeps_act_or e a
    · exact Or.inl hkeeps
    · exact Or.inr (Or.inl (Or.inl rfl))
    · exact Or.inr (Or.inl (Or.inr ⟨c, key_of_action?_type haction, rfl⟩))
    · exact Or.inr (Or.inr rfl)

/-- An edit starts with what the cell shows, or with the character of the key pressed. -/
theorem step_of_starts_edit (h : e.mode ≠ .edit) (hstarts : (e.step event).mode = .edit) :
    e.step event = e.startEdit ∨
      ∃ k c, event = .key k ∧ k.key = .char c ∧ e.step event = e.startWith (String.ofList [c]) := by
  cases event with
  | draw width height => exact absurd hstarts h
  | pointer width height event =>
    exact absurd ((keeps_point h width height event).mode.symm.trans hstarts) h
  | key k =>
    cases hmode : e.mode with
    | edit => exact absurd hmode h
    | command =>
      have hstep : e.step (.key k) = (e.pressCommand k).1 :=
        congrArg Prod.fst (press_of_command hmode k)
      rw [hstep] at hstarts
      rcases mode_pressCommand hmode k with hend | hend <;> rw [hend] at hstarts <;> cases hstarts
    | normal =>
      obtain hkeeps | (hedit | ⟨c, hc, hedit⟩) | hcommand := step_key_of_normal hmode k
      · exact absurd (hkeeps.mode.symm.trans hstarts) h
      · exact Or.inl hedit
      · exact Or.inr ⟨k, c, rfl, hc, hedit⟩
      · rw [hcommand] at hstarts
        cases hstarts

/-- A command starts without text. -/
theorem step_of_starts_command (h : e.mode ≠ .command) (hstarts : (e.step event).mode = .command) :
    e.step event = e.startCommand := by
  cases event with
  | draw width height => exact absurd hstarts h
  | pointer width height event =>
    change (e.point width height event).mode = .command at hstarts
    by_cases hedit : e.mode = .edit
    · by_cases hpress : event.action = .press .left
      · have hcommit : e.commitEdit.mode ≠ .edit := by rw [mode_commitEdit]; decide
        rw [point_of_edit hpress hedit, (keeps_point hcommit width height event).mode,
          mode_commitEdit] at hstarts
        cases hstarts
      · rw [point_of_ne hpress] at hstarts
        exact absurd hstarts h
    · rw [(keeps_point hedit width height event).mode] at hstarts
      exact absurd hstarts h
  | key k =>
    cases hmode : e.mode with
    | command => exact absurd hmode h
    | edit =>
      have hstep : e.step (.key k) = e.pressEdit k := congrArg Prod.fst (press_of_edit hmode k)
      rw [hstep] at hstarts
      rcases mode_pressEdit hmode k with hend | hend <;> rw [hend] at hstarts <;> cases hstarts
    | normal =>
      obtain hkeeps | (hedit | ⟨c, -, hedit⟩) | hcommand := step_key_of_normal hmode k
      · exact absurd (hkeeps.mode.symm.trans hstarts) h
      · rw [hedit] at hstarts
        cases hstarts
      · rw [hedit] at hstarts
        cases hstarts
      · exact hcommand

/-! ### Sessions -/

/-- In every state of a session the cursors of both text fields stand between two characters, and a
field is empty outside its mode.  The formula bar can be drawn, and every key can be handled,
without taking a text apart at a wrong offset.  And nothing is left of a text that has been given
up: an edit that starts holds what the cell shows or the character typed, and a command nothing. -/
theorem fields_steps_tidy (d : Document) (columnWidth : ℕ) (events : List Event) :
    let e := (ofDocument d columnWidth).steps events
    (e.entry.OnBoundary ∧ e.command.OnBoundary) ∧
      ((e.mode ≠ .edit → e.entry = .empty) ∧ (e.mode ≠ .command → e.command = .empty)) ∧
      (e.barText? = some e.barText ∧
        ∀ k, e.entry.press? k = some (e.entry.press k) ∧
          e.command.press? k = some (e.command.press k)) ∧
      ∀ event,
        (e.mode ≠ .edit → (e.step event).mode = .edit →
          (e.step event).entry = .ofText (e.document.input e.cursor) ∨
            ∃ k c, event = .key k ∧ k.key = .char c ∧
              (e.step event).entry = .ofText (String.ofList [c])) ∧
        (e.mode ≠ .command → (e.step event).mode = .command → (e.step event).command = .empty) := by
  intro e
  have h : e.Tidy := tidy_steps d columnWidth events
  refine ⟨⟨h.entry_onBoundary, h.command_onBoundary⟩, ⟨h.entry_eq, h.command_eq⟩,
    ⟨h.barText?_eq, fun k => ⟨h.entry_onBoundary.press?_eq k, h.command_onBoundary.press?_eq k⟩⟩,
    fun event => ⟨fun hmode hstarts => ?_, fun hmode hstarts => ?_⟩⟩
  · obtain hstep | ⟨k, c, hkey, hc, hstep⟩ := step_of_starts_edit hmode hstarts
    · exact Or.inl (congrArg Editor.entry hstep)
    · exact Or.inr ⟨k, c, hkey, hc, congrArg Editor.entry hstep⟩
  · exact congrArg Editor.command (step_of_starts_command hmode hstarts)

/-- A text is typed, with the cursor between two wide characters, and dropped by the escape key.
Its field is empty then, also with the cursor, and the next edit starts with the character typed. -/
theorem fields_steps_tidy_of_dropped_edit :
    let events : List Event := [.key (.ofChar '='), .key (.ofChar '漢'), .key (.ofChar '字'),
      .key { key := .left }, .draw 40 12, .key { key := .esc }]
    let e := (ofDocument .blank 10).steps events
    e.mode ≠ .edit ∧ e.entry = .empty ∧ (e.step (.key (.ofChar '7'))).mode = .edit ∧
      ((e.step (.key (.ofChar '7'))).entry = .ofText (e.document.input e.cursor) ∨
        ∃ k c, Event.key (.ofChar '7') = .key k ∧ k.key = .char c ∧
          (e.step (.key (.ofChar '7'))).entry = .ofText (String.ofList [c])) := by
  intro events e
  have hmode : e.mode ≠ .edit := by decide
  have hstarts : (e.step (.key (.ofChar '7'))).mode = .edit := by decide
  obtain ⟨-, ⟨hentry, -⟩, -, hfresh⟩ := fields_steps_tidy .blank 10 events
  exact ⟨hmode, hentry hmode, hstarts, (hfresh (.key (.ofChar '7'))).1 hmode hstarts⟩

end Worksheet.Editor
