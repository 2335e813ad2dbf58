import Mathlib
import Worksheet.Proofs.Cell.Address
import Worksheet.Proofs.Document.Transition
import Worksheet.Proofs.Editor.Frame
import Worksheet.Proofs.Text.Words

/-!
# What commands leave alone

A command moves the cursor or changes the size of the document; it never touches a cell or the
history.  `Command.Fails` lists the ways in which a command line can fail, by the words in it: the
line is none of the commands, its count is no number or out of range, or its name is no cell or a
cell that is not offered for editing.  A line that fails does nothing but to put a message into the
status line (`exists_perform_of_fails`).

`execute_keeps_cells` is the main statement.  It also says which lines end the program, and that a
cell name goes to its cell with or without the word `goto` before it.
-/

namespace Worksheet

/-! ### Command lines -/

/-- The words for a change of size. -/
def Axis.commandWords : Axis → List (List Char)
  | .row => ["rows".toList]
  | .column => ["cols".toList, "columns".toList]

/-- The command for a change of size. -/
def Axis.sizeCommand : Axis → ℕ → Command
  | .row => .rows
  | .column => .cols

namespace Command

/-- The lines of words that are commands, whether they succeed or not. -/
inductive IsCommand : List (List Char) → Prop
  | quit {word : List Char} (h : word = "q".toList ∨ word = "quit".toList) : IsCommand [word]
  | size {a : Axis} {word : List Char} (h : word ∈ a.commandWords) (argument : List Char)
      (more : List (List Char)) : IsCommand (word :: argument :: more)
  | goto (argument : List Char) (more : List (List Char)) :
      IsCommand ("goto".toList :: argument :: more)
  | cell {name : List Char} {p : Position} (h : Position.ofNameChars? name = some p) :
      IsCommand [name]

/-- The ways in which a line of words fails on a document. -/
inductive Fails (d : Document) : List (List Char) → Prop
  | unknown {words : List (List Char)} (h : ¬ IsCommand words) : Fails d words
  | noNumber {a : Axis} {word argument : List Char} {more : List (List Char)}
      (hword : word ∈ a.commandWords) (h : Text.count? argument = none) :
      Fails d (word :: argument :: more)
  | badCount {a : Axis} {word argument : List Char} {more : List (List Char)} {n : ℕ}
      (hword : word ∈ a.commandWords) (h : Text.count? argument = some n) (hn : ¬ a.Allows n) :
      Fails d (word :: argument :: more)
  | noCell {argument : List Char} {more : List (List Char)}
      (h : Position.ofNameChars? argument = none) : Fails d ("goto".toList :: argument :: more)
  | gotoOutside {argument : List Char} {more : List (List Char)} {p : Position}
      (h : Position.ofNameChars? argument = some p) (hp : ¬ d.Contains p) :
      Fails d ("goto".toList :: argument :: more)
  | cellOutside {name : List Char} {p : Position} (h : Position.ofNameChars? name = some p)
      (hp : ¬ d.Contains p) : Fails d [name]

variable {line word argument : List Char} {more : List (List Char)} {p : Position} {a : Axis}

/-- A cell name is not empty and has no blanks. -/
lemma not_blank_of_ofNameChars? (h : Position.ofNameChars? word = some p) :
    word ≠ [] ∧ ∀ c ∈ word, Text.isBlank c = false := by
  obtain ⟨hletters, -, hdigits, -⟩ := Position.ofNameChars?_eq_some_iff.mp h
  refine ⟨?_, fun c hc => isBlank_of_isAlphanum ?_⟩
  · rintro rfl
    exact hletters rfl
  · rw [← List.takeWhile_append_dropWhile (p := Char.isAlpha) (l := word), List.mem_append] at hc
    rw [Char.isAlphanum, Bool.or_eq_true]
    refine hc.imp (fun hc => List.mem_takeWhile_imp hc) fun hc => ?_
    exact (Text.isNumber_iff.mp (Text.word?_eq_some_iff.mp hdigits).1).2 c hc

/-- A word with a count behind it changes a size. -/
lemma parse_size (h : Text.words line = word :: argument :: more) (hword : word ∈ a.commandWords) :
    parse line = counted a.sizeCommand argument := by
  simp only [parse, h]
  cases a with
  | row =>
    simp only [Axis.commandWords, List.mem_singleton] at hword
    rw [if_pos hword]
    rfl
  | column =>
    simp only [Axis.commandWords, List.mem_cons, List.not_mem_nil, or_false] at hword
    rcases hword with rfl | rfl
    · rfl
    · rfl

lemma parse_goto (h : Text.words line = "goto".toList :: argument :: more) :
    parse line = .goto (String.ofList argument) := by
  simp only [parse, h]
  rfl

/-- A cell name alone is a jump to that cell. -/
lemma parse_cell (h : Text.words line = [word]) (hp : Position.ofNameChars? word = some p) :
    parse line = .goto (String.ofList word) := by
  have hquit : ¬ (word = ['q'] ∨ word = "quit".toList) := by
    rintro (rfl | rfl) <;> cases hp
  simp only [parse, h]
  rw [if_neg hquit, hp]
  rfl

lemma parse_of_not_isCommand (h : ¬ IsCommand (Text.words line)) :
    parse line = .nothing ∨ ∃ message, parse line = .unknown message := by
  rcases hwords : Text.words line with _ | ⟨word, _ | ⟨argument, more⟩⟩
  · left
    simp only [parse, hwords]
  · right
    rw [hwords] at h
    have hcell : ¬ (Position.ofNameChars? word).isSome = true := by
      intro hsome
      obtain ⟨p, hp⟩ := Option.isSome_iff_exists.mp hsome
      exact h (.cell hp)
    have hquit : ¬ (word = ['q'] ∨ word = "quit".toList) := fun hword => h (.quit hword)
    refine ⟨String.ofList (Text.trim line), ?_⟩
    simp only [parse, hwords]
    rw [if_neg hquit, if_neg hcell]
  · right
    rw [hwords] at h
    have hrow : word ≠ "rows".toList := by
      rintro rfl
      exact h (.size (a := .row) (List.mem_singleton.mpr rfl) argument more)
    have hcolumn : ¬ (word = "cols".toList ∨ word = "columns".toList) := by
      intro hword
      exact h (.size (a := .column) (by simpa [Axis.commandWords] using hword) argument more)
    have hgoto : word ≠ "goto".toList := by
      rintro rfl
      exact h (.goto argument more)
    refine ⟨String.ofList (Text.trim line), ?_⟩
    simp only [parse, hwords]
    rw [if_neg hrow, if_neg hcolumn, if_neg hgoto]

lemma counted_ne_quit : counted a.sizeCommand argument ≠ .quit := by
  unfold counted
  cases Text.count? argument <;> cases a <;> exact Command.noConfusion

/-- Only the two words for it end the program, and only when they stand alone. -/
lemma parse_eq_quit_iff :
    parse line = .quit ↔ Text.words line = ["q".toList] ∨ Text.words line = ["quit".toList] := by
  constructor
  · intro h
    by_cases hcommand : IsCommand (Text.words line)
    · generalize hwords : Text.words line = words at hcommand
      cases hcommand with
      | quit hword => exact hword.imp (congrArg fun word => [word]) (congrArg fun word => [word])
      | size hword argument more =>
        rw [parse_size hwords hword] at h
        exact absurd h counted_ne_quit
      | goto argument more =>
        rw [parse_goto hwords] at h
        cases h
      | cell hp =>
        rw [parse_cell hwords hp] at h
        cases h
    · rcases parse_of_not_isCommand hcommand with hline | ⟨message, hline⟩
      · rw [hline] at h
        cases h
      · rw [hline] at h
        cases h
  · rintro (h | h)
    · simp only [parse, h]
      rfl
    · simp only [parse, h]
      rfl

/-- The word `goto` with one other word behind it. -/
lemma words_goto (hne : word ≠ []) (hword : ∀ c ∈ word, Text.isBlank c = false) :
    Text.words ("goto ".toList ++ word) = ["goto".toList, word] := by
  change Text.words (['g', 'o', 't', 'o'] ++ ' ' :: word) = _
  rw [Text.words_append (by simp) (by simp [Text.isBlank]) (by simp [Text.isBlank]),
    Text.words_cons_blank (by decide), Text.words_of_not_blank hne hword]
  rfl

/-- A cell name means the same with `goto` before it and without. -/
lemma parse_goto_append (hp : Position.ofNameChars? word = some p) :
    parse ("goto ".toList ++ word) = parse word := by
  obtain ⟨hne, hword⟩ := not_blank_of_ofNameChars? hp
  rw [parse_goto (words_goto hne hword), parse_cell (Text.words_of_not_blank hne hword) hp]

end Command

/-! ### What a command does -/

namespace Editor

variable {e : Editor} {line word : List Char}

lemma document_setRows (e : Editor) (n : ℕ) :
    (e.setRows n).document =
      { e.document with rows := if Axis.row.Allows n then n else e.document.rows } := by
  by_cases h : Axis.row.Allows n
  · rw [setRows, Document.setRows_of_allowed h, if_pos h]
    rfl
  · rw [setRows, Document.setRows_of_not_allowed h, if_neg h]

lemma document_setCols (e : Editor) (n : ℕ) :
    (e.setCols n).document =
      { e.document with cols := if Axis.column.Allows n then n else e.document.cols } := by
  by_cases h : Axis.column.Allows n
  · rw [setCols, Document.setCols_of_allowed h, if_pos h]
    rfl
  · rw [setCols, Document.setCols_of_not_allowed h, if_neg h]

lemma document_goto (e : Editor) (name : String) : (e.goto name).document = e.document := by
  dsimp only [goto]
  split
  · rfl
  · split <;> rfl

/-- A command leaves the cells and the history alone. -/
lemma exists_document_perform (e : Editor) (c : Command) :
    ∃ rows cols, (e.perform c).document = { e.document with rows := rows, cols := cols } := by
  cases c with
  | nothing => exact ⟨_, _, rfl⟩
  | quit => exact ⟨_, _, rfl⟩
  | rows n => exact ⟨_, e.document.cols, document_setRows e n⟩
  | cols n => exact ⟨e.document.rows, _, document_setCols e n⟩
  | badCount word => exact ⟨_, _, rfl⟩
  | goto name => exact ⟨e.document.rows, e.document.cols, document_goto e name⟩
  | unknown line => exact ⟨_, _, rfl⟩

/-- A bad count is only reported. -/
lemma exists_perform_sizeCommand {a : Axis} {n : ℕ} (h : ¬ a.Allows n) :
    ∃ message, e.perform (a.sizeCommand n) = { e with status := message } := by
  cases a with
  | row =>
    refine ⟨(Failure.badCount .row n).message, ?_⟩
    rw [Axis.sizeCommand, perform, setRows, Document.setRows_of_not_allowed h]
  | column =>
    refine ⟨(Failure.badCount .column n).message, ?_⟩
    rw [Axis.sizeCommand, perform, setCols, Document.setCols_of_not_allowed h]

/-- A jump to a word that is no cell offered for editing is only reported. -/
lemma exists_perform_goto (hword : ∀ c ∈ word, Text.isBlank c = false)
    (h : ∀ p, Position.ofNameChars? word = some p → ¬ e.document.Contains p) :
    ∃ message, e.perform (.goto (String.ofList word)) = { e with status := message } := by
  have hname : Text.trim (String.ofList word).toList = word := by
    rw [String.toList_ofList, Text.trim_of_not_blank hword]
  simp only [perform, goto, hname]
  cases hp : Position.ofNameChars? word with
  | none => exact ⟨_, rfl⟩
  | some p => exact ⟨_, if_neg (h p hp)⟩

/-- A line that fails does nothing but to change the message in the status line. -/
lemma exists_perform_of_fails (h : Command.Fails e.document (Text.words line)) :
    ∃ message, e.perform (Command.parse line) = { e with status := message } := by
  have hblank : ∀ word ∈ Text.words line, ∀ c ∈ word, Text.isBlank c = false :=
    fun _ hword => Text.isBlank_of_mem_words hword
  generalize hwords : Text.words line = words at h hblank
  cases h with
  | unknown hcommand =>
    rw [← hwords] at hcommand
    rcases Command.parse_of_not_isCommand hcommand with hline | ⟨message, hline⟩
    · exact ⟨e.status, by rw [hline]; rfl⟩
    · exact ⟨"Unknown command: " ++ message, by rw [hline]; rfl⟩
  | noNumber hword hcount =>
    rw [Command.parse_size hwords hword, Command.counted, hcount]
    exact ⟨_, rfl⟩
  | badCount hword hcount hn =>
    rw [Command.parse_size hwords hword, Command.counted, hcount]
    exact exists_perform_sizeCommand hn
  | noCell hcell =>
    rw [Command.parse_goto hwords]
    exact exists_perform_goto (hblank _ (by simp)) (by simp [hcell])
  | gotoOutside hcell hout =>
    rw [Command.parse_goto hwords]
    exact exists_perform_goto (hblank _ (by simp)) (by simpa [hcell] using hout)
  | cellOutside hcell hout =>
    rw [Command.parse_cell hwords hcell]
    exact exists_perform_goto (hblank _ (by simp)) (by simpa [hcell] using hout)

/-- A command that is executed leaves the cells, the history and the text of an edit alone, whatever
the line says, and it ends in normal mode with no command text.  It ends the program exactly if `q`
or `quit` is the only word of the line.  A line that fails changes nothing else but the message in
the status line.  A cell name leads to the same editor with `goto` before it and without. -/
theorem execute_keeps_cells (e : Editor) :
    let d := e.execute.1.document
    let words := Text.words e.command.text.toList
    (d.grid = e.document.grid ∧ d.past = e.document.past ∧ d.future = e.document.future ∧
        d.modified = e.document.modified ∧ e.execute.1.entry = e.entry) ∧
      (e.execute.1.mode = .normal ∧ e.execute.1.command = .empty) ∧
      (e.execute.2 = true ↔ words = ["q".toList] ∨ words = ["quit".toList]) ∧
      (Command.Fails e.document words → ∃ message,
        e.execute.1 = { e with mode := .normal, command := .empty, status := message }) ∧
      ∀ (name : String) (p : Position) (cursor cursor' : ℕ), Position.ofName? name = some p →
        execute { e with command := ⟨name, cursor⟩ } =
          execute { e with command := ⟨"goto " ++ name, cursor'⟩ } := by
  intro d words
  have hkeeps := keeps_perform e.cancelCommand (Command.parse e.command.text.toList)
  obtain ⟨rows, cols, hdocument⟩ :=
    exists_document_perform e.cancelCommand (Command.parse e.command.text.toList)
  have hd : d = { e.document with rows := rows, cols := cols } := hdocument
  refine ⟨⟨by rw [hd], by rw [hd], by rw [hd], by rw [hd], hkeeps.entry⟩,
    ⟨hkeeps.mode, hkeeps.command⟩, ?_, ?_, ?_⟩
  · rw [← Command.parse_eq_quit_iff]
    exact decide_eq_true_iff
  · intro hfails
    exact exists_perform_of_fails (e := e.cancelCommand) hfails
  · intro name p cursor cursor' hname
    have hparse : Command.parse ("goto " ++ name).toList = Command.parse name.toList := by
      rw [String.toList_append]
      exact Command.parse_goto_append hname
    change (e.cancelCommand.perform (Command.parse name.toList), _) =
      (e.cancelCommand.perform (Command.parse ("goto " ++ name).toList), _)
    rw [hparse]

/-- A column too many with a word behind it, and a cell name, over a document with a number in
it. -/
theorem execute_keeps_cells_of_badCount :
    let e := { ofDocument (Document.blank.enter ⟨0, 0⟩ "7").1 10 with
      mode := .command, command := .ofText "cols 27 more" }
    e.execute.2 = false ∧
      (∃ message, e.execute.1 =
        { e with mode := .normal, command := .empty, status := message }) ∧
      execute { e with command := .ofText "b2" } =
        execute { e with command := .ofText "goto b2" } := by
  intro e
  obtain ⟨-, -, hquit, hfails, hname⟩ := execute_keeps_cells e
  have hwords : Text.words e.command.text.toList =
      ["cols".toList, "27".toList, "more".toList] := by decide +kernel
  have hcols : "cols".toList ∈ Axis.column.commandWords := by decide
  have hcount : Text.count? "27".toList = some 27 := rfl
  have htooMany : ¬ Axis.column.Allows 27 := by decide
  rw [hwords] at hquit hfails
  exact ⟨Bool.eq_false_iff.mpr (mt hquit.mp (by decide)), hfails (.badCount hcols hcount htooMany),
    hname "b2" ⟨1, 1⟩ _ _ rfl⟩

end Editor

end Worksheet
