import Mathlib
import Worksheet.Batch
import Worksheet.Proofs.Cell.Name
import Worksheet.Proofs.Document.Soundness
import Worksheet.Proofs.Editor.Commands
import Worksheet.Proofs.Editor.Cursor
import Worksheet.Proofs.Text.Runs
import Worksheet.Proofs.Text.Words

/-!
# Typing assignments

An assignment can be typed: a command that goes to its cell, and then its text as an edit
(`Assignment.events`).  `steps_events_agree` shows that a list of assignments that is typed leaves
the document that a batch request with the same assignments leaves.  Each of the two ways reads the
name of the cell back in its own manner, from the words of a command or from what stands before the
first equals sign.
-/

namespace Worksheet

/-! ### Text fields -/

namespace Field

/-- With the cursor at the end a character key appends its character. -/
lemma press_ofText (cs : List Char) (c : Char) :
    (ofText (String.ofList cs)).press (.ofChar c) = ofText (String.ofList (cs ++ [c])) := by
  have hsplit := Text.splitBytes_byteLength cs []
  rw [List.append_nil] at hsplit
  change insert (ofText (String.ofList cs)) c = _
  simp only [insert, before, after, ofText, String.toList_ofList, hsplit, Text.byteLength_append,
    Text.byteLength_cons, Text.byteLength_nil, Nat.add_zero]

end Field

/-! ### Sequences of keys -/

namespace Event

/-- The keys of a text, without modifiers. -/
def type (cs : List Char) : List Event := cs.map fun c => .key (.ofChar c)

/-- The enter key. -/
def enter : Event := .key { key := .enter }

end Event

namespace Editor

variable {e : Editor}

/-- As long as characters go to a text field, what is typed is appended to its text. -/
lemma steps_type (put : Field → Editor)
    (hput : ∀ f c, (put f).step (.key (.ofChar c)) = put (f.press (.ofChar c)))
    (before cs : List Char) :
    (put (.ofText (String.ofList before))).steps (Event.type cs) =
      put (.ofText (String.ofList (before ++ cs))) := by
  induction cs generalizing before with
  | nil =>
    rw [List.append_nil]
    rfl
  | cons c cs ih =>
    change ((put _).step (.key (.ofChar c))).steps (Event.type cs) = _
    rw [hput, Field.press_ofText, ih, List.append_assoc, List.singleton_append]

lemma steps_type_of_command (h : e.mode = .command) (before cs : List Char) :
    Editor.steps { e with command := .ofText (String.ofList before) } (Event.type cs) =
      { e with command := .ofText (String.ofList (before ++ cs)) } :=
  steps_type (fun f => { e with command := f })
    (fun f c => congrArg Prod.fst (press_of_command (e := { e with command := f }) h (.ofChar c)))
    before cs

lemma steps_type_of_edit (h : e.mode = .edit) (before cs : List Char) :
    Editor.steps { e with entry := .ofText (String.ofList before) } (Event.type cs) =
      { e with entry := .ofText (String.ofList (before ++ cs)) } :=
  steps_type (fun f => { e with entry := f })
    (fun f c => congrArg Prod.fst (press_of_edit (e := { e with entry := f }) h (.ofChar c)))
    before cs

end Editor

/-! ### Names in commands and in assignments -/

section Name

variable {p : Position}

/-- The name of a cell in the largest sheet is read as that cell. -/
lemma Position.InRange.ofNameChars? (hp : p.InRange) :
    Position.ofNameChars? p.nameChars = some p := by
  obtain ⟨hrow, hcol⟩ := hp
  refine Position.ofNameChars?_nameChars ?_ ?_
  · change p.row + 1 < 2 ^ 64
    omega
  · change p.col + 1 < 2 ^ 64
    omega

lemma isBlank_of_mem_nameChars : ∀ c ∈ p.nameChars, Text.isBlank c = false :=
  fun _ hc => isBlank_of_isAlphanum (Position.isAlphanum_of_mem_nameChars hc)

/-- The command `goto` with a name is a jump to that name. -/
lemma Command.parse_goto_name (p : Position) :
    Command.parse ("goto ".toList ++ p.nameChars) = .goto p.name :=
  Command.parse_goto (Command.words_goto p.nameChars_ne_nil isBlank_of_mem_nameChars)

/-- A jump to a cell that is offered for editing puts the cursor there. -/
lemma Editor.goto_name {e : Editor} (hp : p.InRange) (hin : e.document.Contains p) :
    e.goto p.name = { e.moveTo p with status := "" } := by
  have hname : Text.trim p.name.toList = p.nameChars := by
    rw [p.toList_name, Text.trim_of_not_blank isBlank_of_mem_nameChars]
  simp only [Editor.goto, hname, hp.ofNameChars?, if_pos hin]

/-- A name with an equals sign and a text behind it is read as that assignment. -/
lemma Assignment.parse_name (hp : p.InRange) (input : String) :
    Assignment.parse (p.name ++ "=" ++ input) = .ok ⟨p, input⟩ := by
  have hchars : (p.name ++ "=" ++ input).toList = p.nameChars ++ '=' :: input.toList := by
    rw [String.toList_append, String.toList_append, p.toList_name, List.append_assoc]
    rfl
  have hplain : '=' ∉ p.nameChars := by
    intro h
    exact absurd (Position.isAlphanum_of_mem_nameChars h) (by decide)
  simp only [Assignment.parse, hchars, Text.takeWhile_separator hplain,
    Text.dropWhile_separator hplain, hp.ofNameChars?,
    Text.trim_of_not_blank isBlank_of_mem_nameChars, String.ofList_toList]

end Name

/-! ### One assignment -/

/-- An assignment as it is typed: a command that goes to its cell, and its text. -/
def Assignment.events (a : Assignment) : List Event :=
  Event.type (':' :: ("goto ".toList ++ a.cell.name.toList)) ++ [Event.enter] ++
    Event.type a.input.toList ++ [Event.enter]

/-- A text with which an edit can be started by typing it. -/
def StartsEdit (input : String) : Prop :=
  ∃ c ∈ input.toList.head?, c = '=' ∨ c = '.' ∨ c = '-' ∨ c.isDigit = true

/-- Digits and the three signs start an edit in normal mode. -/
lemma action?_ofChar {c : Char} (h : c = '=' ∨ c = '.' ∨ c = '-' ∨ c.isDigit = true) :
    (KeyPress.ofChar c).action? = some (.type c) := by
  rcases h with rfl | rfl | rfl | h
  · rfl
  · rfl
  · rfl
  · unfold KeyPress.action? KeyPress.ofChar
    split <;> simp_all

namespace Editor

variable {e : Editor}

/-- A command that is typed in normal mode does what it says. -/
lemma steps_command (h : e.mode = .normal) (cs : List Char) :
    e.steps (Event.type (':' :: cs) ++ [Event.enter]) =
      Editor.perform { e with command := .empty } (Command.parse cs) := by
  have hcolon : e.step (.key (.ofChar ':')) = e.startCommand :=
    congrArg Prod.fst (press_of_normal h (.ofChar ':'))
  have htyped : e.startCommand.steps (Event.type cs) =
      { e.startCommand with command := .ofText (String.ofList cs) } :=
    steps_type_of_command (e := e.startCommand) rfl [] cs
  have henter : Editor.step { e.startCommand with command := .ofText (String.ofList cs) }
      Event.enter = Editor.perform { e with command := .empty, mode := .normal }
        (Command.parse (String.ofList cs).toList) := rfl
  rw [steps_append]
  change ((e.step (.key (.ofChar ':'))).steps (Event.type cs)).step Event.enter = _
  rw [hcolon, htyped, henter, String.toList_ofList, ← h]

/-- The command that goes to a cell puts the cursor there. -/
lemma steps_goto (h : e.mode = .normal) {p : Position} (hp : p.InRange)
    (hin : e.document.Contains p) :
    e.steps (Event.type (':' :: ("goto ".toList ++ p.nameChars)) ++ [Event.enter]) =
      { e.moveTo p with command := .empty, status := "" } := by
  rw [steps_command h, Command.parse_goto_name]
  exact goto_name (e := { e with command := .empty }) hp hin

/-- A text that can start an edit is committed into the current cell. -/
lemma steps_text (h : e.mode = .normal) {input : String} (hinput : StartsEdit input) :
    e.steps (Event.type input.toList ++ [Event.enter]) =
      (Editor.commitText { e with entry := .empty } input).moveBy 0 1 := by
  obtain ⟨c, hc, hstarts⟩ := hinput
  obtain ⟨cs, hcs⟩ := List.head?_eq_some_iff.mp hc
  have hfirst : e.step (.key (.ofChar c)) = e.startWith (String.ofList [c]) := by
    change (e.press (.ofChar c)).1 = _
    rw [press_of_normal h, pressNormal, action?_ofChar hstarts]
    rfl
  have htyped : (e.startWith (String.ofList [c])).steps (Event.type cs) =
      { e.startWith (String.ofList [c]) with entry := .ofText (String.ofList (c :: cs)) } :=
    steps_type_of_edit (e := e.startWith (String.ofList [c])) rfl [c] cs
  have henter : Editor.step
      { e.startWith (String.ofList [c]) with entry := .ofText (String.ofList (c :: cs)) }
      Event.enter = (Editor.commitText { e with entry := .empty, mode := .normal }
        (String.ofList (c :: cs))).moveBy 0 1 := rfl
  rw [hcs, steps_append]
  change ((e.step (.key (.ofChar c))).steps (Event.type cs)).step Event.enter = _
  rw [hfirst, htyped, henter, ← hcs, String.ofList_toList, ← h]

/-- An assignment that is typed in normal mode is committed into its cell. -/
lemma steps_events (h : e.mode = .normal) {a : Assignment} (hrange : a.cell.InRange)
    (hin : e.document.Contains a.cell) (hinput : StartsEdit a.input) :
    (e.steps a.events).mode = .normal ∧
      (e.steps a.events).document = (e.document.enter a.cell a.input).1 := by
  have hgoto := steps_goto h hrange hin
  have htext := steps_text (e := { e.moveTo a.cell with command := .empty, status := "" }) h hinput
  rw [Assignment.events, a.cell.toList_name, List.append_assoc _ (Event.type a.input.toList),
    steps_append, hgoto, htext]
  constructor
  · exact (mode_commitText _ _).trans h
  · exact document_commitText
      (e := { e.moveTo a.cell with command := .empty, status := "", entry := .empty }) hin a.input

/-! ### Lists of assignments -/

/-- Assignments that are typed one after the other leave what a batch request makes of them. -/
lemma steps_flatMap_events (h : e.mode = .normal) {as : List Assignment}
    (hrange : ∀ a ∈ as, a.cell.InRange) (hin : ∀ a ∈ as, e.document.Contains a.cell)
    (hinput : ∀ a ∈ as, StartsEdit a.input) :
    (e.steps (as.flatMap Assignment.events)).mode = .normal ∧
      Batch.assign e.document as =
        ((e.steps (as.flatMap Assignment.events)).document, none) := by
  induction as generalizing e with
  | nil => exact ⟨h, rfl⟩
  | cons a as ih =>
    rw [List.forall_mem_cons] at hrange hin hinput
    obtain ⟨hmode, hdocument⟩ := steps_events h hrange.1 hin.1 hinput.1
    -- A commit changes no dimension, so the cells that are left are still in the document.
    have hrest : ∀ b ∈ as, (e.steps a.events).document.Contains b.cell := by
      rw [hdocument]
      exact hin.2
    have hcommit : e.document.commit a.cell a.input =
        .ok (e.document.enter a.cell a.input) := if_pos hin.1
    rw [List.flatMap_cons, steps_append, Batch.assign, hcommit]
    change _ ∧ Batch.assign (e.document.enter a.cell a.input).1 as = _
    rw [← hdocument]
    exact ih hmode hrange.2 hrest hinput.2

end Editor

lemma Batch.document_run {d d' : Document} {r : Request} (h : assign d r.assignments = (d', none)) :
    (run d r).document = d' := by
  rw [run, h]
  dsimp only
  split <;> rfl

/-- Assignments are read back from their texts. -/
lemma Assignment.mapM_parse {as : List Assignment} (h : ∀ a ∈ as, a.cell.InRange) :
    (as.map fun a => a.cell.name ++ "=" ++ a.input).mapM parse = .ok as := by
  induction as with
  | nil => rfl
  | cons a as ih =>
    rw [List.forall_mem_cons] at h
    rw [List.map_cons, List.mapM_cons, parse_name h.1, ih h.2]
    rfl

/-- Typing assignments and running them as a batch request leave the same document, with its
history: each text is read back as its assignment, and a session that types all of them on a fresh
document ends in normal mode with the document that the request leaves. -/
theorem Editor.steps_events_agree {rows cols : ℕ} {d : Document}
    (h : Document.ofSize rows cols = .ok d) (columnWidth : ℕ) {as : List Assignment}
    (hin : ∀ a ∈ as, d.Contains a.cell) (hinput : ∀ a ∈ as, StartsEdit a.input) :
    let e := (ofDocument d columnWidth).steps (as.flatMap Assignment.events)
    (as.map fun a => a.cell.name ++ "=" ++ a.input).mapM Assignment.parse = .ok as ∧
      e.mode = .normal ∧
      ∀ r : Batch.Request, r.assignments = as → e.document = (Batch.run d r).document := by
  intro e
  have hrange : ∀ a ∈ as, a.cell.InRange := fun a ha =>
    (Document.sound_of_ofSize h).inRange (hin a ha)
  obtain ⟨hmode, hassign⟩ :=
    steps_flatMap_events (e := ofDocument d columnWidth) rfl hrange hin hinput
  refine ⟨Assignment.mapM_parse hrange, hmode, ?_⟩
  rintro r rfl
  exact (Batch.document_run hassign).symm

/-- A number and a formula that reads it, typed and as a batch request. -/
theorem Editor.steps_events_agree_of_two :
    Document.ofSize 2 2 = .ok { Document.blank with rows := 2, cols := 2 } ∧
      ["A1=7", "B2==a1*2"].mapM Assignment.parse = .ok [⟨⟨0, 0⟩, "7"⟩, ⟨⟨1, 1⟩, "=a1*2"⟩] ∧
      ((ofDocument { Document.blank with rows := 2, cols := 2 } 10).steps
          ([⟨⟨0, 0⟩, "7"⟩, ⟨⟨1, 1⟩, "=a1*2"⟩].flatMap Assignment.events)).document =
        (Batch.run { Document.blank with rows := 2, cols := 2 }
          ⟨[⟨⟨0, 0⟩, "7"⟩, ⟨⟨1, 1⟩, "=a1*2"⟩], none, true, false⟩).document := by
  have h : Document.ofSize 2 2 = .ok { Document.blank with rows := 2, cols := 2 } :=
    Document.ofSize_eq_ok_iff.mpr ⟨by decide, by decide, rfl⟩
  have hin : ∀ a ∈ ([⟨⟨0, 0⟩, "7"⟩, ⟨⟨1, 1⟩, "=a1*2"⟩] : List Assignment),
      Document.Contains { Document.blank with rows := 2, cols := 2 } a.cell := by
    simp [Document.Contains]
  have hinput : ∀ a ∈ ([⟨⟨0, 0⟩, "7"⟩, ⟨⟨1, 1⟩, "=a1*2"⟩] : List Assignment),
      StartsEdit a.input := by
    simp [StartsEdit]
  have htexts : [(⟨⟨0, 0⟩, "7"⟩ : Assignment), ⟨⟨1, 1⟩, "=a1*2"⟩].map
      (fun a => a.cell.name ++ "=" ++ a.input) = ["A1=7", "B2==a1*2"] := by decide +kernel
  obtain ⟨hparse, -, hdocument⟩ := steps_events_agree h 10 hin hinput
  exact ⟨h, htexts ▸ hparse, hdocument _ rfl⟩

end Worksheet
