import Mathlib
import Worksheet.Proofs.Batch.Assign
import Worksheet.Proofs.Document.InPlace

/-!
# A batch request is carried out or writes nothing

`carryOut` is a batch request write by write: it commits each assignment in place, and then writes
out the value of the command, the table and the dump one after the other.  Whether anything was
asked for is looked at last of all.  `outcome_carryOut` says that `run` gives what is left at the
end of this.

`carryOut_silent_or_complete` is the main statement.  A request fails only at an assignment, or if
it asks for nothing, and in neither case has anything been written by then.
-/

namespace Worksheet

/-- An assignment as an operation on a document. -/
def Assignment.operation (a : Assignment) : Operation := .commit a.cell a.input

namespace Batch

open InPlace

/-! ### A request in place -/

/-- A document and the text that has been written. -/
structure Progress where
  document : Document
  written : String

/-- Commits an assignment; a failure is told with its cell. -/
def enter (a : Assignment) : InPlace Progress Problem Unit := do
  let (reply, d) := (Document.InPlace.perform a.operation).outcome (← get).document
  modify fun s => { s with document := d }
  match reply with
  | .ok _ => return ()
  | .error f => throw (.assignment a.cell f)

/-- Writes a text. -/
def write (text : String) : InPlace Progress Problem Unit :=
  modify fun s => { s with written := s.written ++ text }

/-- Writes the value of a command on a line of its own, and tells the exit code. -/
def answer : Option String → InPlace Progress Problem ℕ
  | none => return 0
  | some command => do
    let value := (← get).document.preview (formulaOf command)
    write (value.display ++ "\n")
    return if value.isFault then 1 else 0

/-- Writes what is to be shown of the document, if it is asked for. -/
def present (wanted : Bool) (render : Document → String) : InPlace Progress Problem Unit := do
  if wanted then write (render (← get).document)

/-- Carries out a request and tells the exit code. -/
def carryOut (r : Request) : InPlace Progress Problem ℕ := do
  forM r.assignments enter
  let code ← answer r.command
  present r.print Table.render
  present r.dump Dump.render
  unless r.asks do throw .nothingToDo
  return code

/-! ### What its parts do -/

section Outcome

variable {d : Document} {r : Request} {out : String}

lemma outcome_enter_of_contains {a : Assignment} (h : d.Contains a.cell) :
    (enter a).outcome ⟨d, out⟩ = (.ok (), ⟨(d.enter a.cell a.input).1, out⟩) := by
  have hperform : (Document.InPlace.perform a.operation).outcome d =
      (.ok (.stored (d.enter a.cell a.input).2), (d.enter a.cell a.input).1) :=
    Document.InPlace.outcome_of_accepts (.commit h)
  simp only [enter, outcome_bind, outcome_get, hperform, outcome_modify, outcome_pure]

lemma outcome_enter_of_not_contains {a : Assignment} (h : ¬ d.Contains a.cell) :
    (enter a).outcome ⟨d, out⟩ =
      (.error (.assignment a.cell (.outOfBounds a.cell d.rows d.cols)), ⟨d, out⟩) := by
  have hperform : (Document.InPlace.perform a.operation).outcome d =
      (.error (.outOfBounds a.cell d.rows d.cols), d) :=
    Document.InPlace.outcome_of_refuses (.commit h)
  simp only [enter, outcome_bind, outcome_get, hperform, outcome_modify, outcome_throw]

/-- Assignments write nothing. -/
lemma outcome_forM_enter (as : List Assignment) :
    (forM as enter).outcome ⟨d, out⟩ =
      match assign d as with
      | (d', none) => (.ok (), ⟨d', out⟩)
      | (d', some problem) => (.error problem, ⟨d', out⟩) := by
  induction as generalizing d with
  | nil => rfl
  | cons a as ih =>
    rw [List.forM_cons, outcome_bind]
    by_cases h : d.Contains a.cell
    · rw [outcome_enter_of_contains h, assign_cons_of_contains h]
      exact ih
    · rw [outcome_enter_of_not_contains h, assign_cons_of_not_contains h]

lemma outcome_answer (r : Request) :
    (answer r.command).outcome ⟨d, out⟩ =
      (.ok (if (r.answer d).any Value.isFault then 1 else 0),
        ⟨d, out ++ (r.answer d).elim "" fun v => v.display ++ "\n"⟩) := by
  rw [Request.answer]
  cases r.command with
  | none => simp [answer, outcome_pure]
  | some command => rfl

lemma outcome_present (wanted : Bool) (render : Document → String) :
    (present wanted render).outcome ⟨d, out⟩ =
      (.ok (), ⟨d, out ++ if wanted then render d else ""⟩) := by
  cases wanted with
  | false => simp [present, outcome_pure]
  | true => rfl

/-- A command that starts with an equals sign is taken as it is, any other gets one in front. -/
lemma formulaOf_eq (command : String) :
    formulaOf command = if command.toList.head? = some '=' then command else "=" ++ command := by
  simp only [formulaOf, Document.isFormula, beq_iff_eq]

lemma asks_eq_false_iff :
    r.asks = false ↔
      r.assignments = [] ∧ r.command = none ∧ r.print = false ∧ r.dump = false := by
  simp [Request.asks, and_assoc]

/-- A request that asks for nothing prints nothing. -/
lemma output_of_not_asks (h : r.asks = false) : r.output d = "" := by
  obtain ⟨-, hcommand, hprint, hdump⟩ := asks_eq_false_iff.mp h
  simp [Request.output, Request.answer, hcommand, hprint, hdump]

/-- What is left at the end of a request that is carried out write by write. -/
theorem outcome_carryOut (d : Document) (r : Request) (out : String) :
    (carryOut r).outcome ⟨d, out⟩ =
      ((run d r).result, ⟨(run d r).document, out ++ (run d r).output⟩) := by
  rw [carryOut, outcome_bind, outcome_forM_enter, run]
  rcases assign d r.assignments with ⟨d', problem | problem⟩
  · have hwritten : out ++ ((r.answer d').elim "" fun v => v.display ++ "\n") ++
          (if r.print then Table.render d' else "") ++ (if r.dump then Dump.render d' else "") =
        out ++ r.output d' := by
      rw [Request.output, String.append_assoc, String.append_assoc, String.append_assoc]
    simp only [outcome_bind, outcome_answer, outcome_present, hwritten]
    cases hasks : r.asks with
    | true => rfl
    | false =>
      rw [output_of_not_asks hasks]
      rfl
  · simp only [String.append_empty]

end Outcome

/-! ### Assignments as commits -/

section Assign

variable {d : Document}

lemma step_operation {a : Assignment} (h : d.Contains a.cell) :
    d.step a.operation = (d.enter a.cell a.input).1 :=
  Document.Accepts.step_eq (.commit h)

/-- If all cells are offered, all assignments are committed. -/
lemma assign_of_forall {as : List Assignment} (h : ∀ a ∈ as, d.Contains a.cell) :
    assign d as = (d.steps (as.map Assignment.operation), none) := by
  induction as generalizing d with
  | nil => rfl
  | cons a as ih =>
    obtain ⟨ha, has⟩ := List.forall_mem_cons.mp h
    rw [assign_cons_of_contains ha, List.map_cons, Document.steps_cons, step_operation ha]
    exact ih has

/-- The first cell that is not offered ends a list; the assignments before it are committed. -/
lemma assign_of_first {before : List Assignment} {a : Assignment}
    (h : ∀ b ∈ before, d.Contains b.cell) (ha : ¬ d.Contains a.cell) (after : List Assignment) :
    assign d (before ++ a :: after) =
      (d.steps (before.map Assignment.operation),
        some (.assignment a.cell (.outOfBounds a.cell d.rows d.cols))) := by
  induction before generalizing d with
  | nil => exact assign_cons_of_not_contains ha after
  | cons b before ih =>
    obtain ⟨hb, hbefore⟩ := List.forall_mem_cons.mp h
    rw [List.cons_append, assign_cons_of_contains hb, List.map_cons, Document.steps_cons,
      step_operation hb]
    -- a commit changes no dimension, so the same cells are offered to the rest of the list
    exact ih (d := (d.enter b.cell b.input).1) hbefore ha

/-- All cells of a list are offered, or there is a first one that is not. -/
lemma forall_or_exists_first (d : Document) (as : List Assignment) :
    (∀ a ∈ as, d.Contains a.cell) ∨
      ∃ before a after, as = before ++ a :: after ∧ (∀ b ∈ before, d.Contains b.cell) ∧
        ¬ d.Contains a.cell := by
  cases hfind : as.find? fun a => !decide (d.Contains a.cell) with
  | none =>
    refine Or.inl fun a ha => ?_
    simpa using List.find?_eq_none.mp hfind a ha
  | some a =>
    obtain ⟨ha, before, after, has, hbefore⟩ := List.find?_eq_some_iff_append.mp hfind
    refine Or.inr ⟨before, a, after, has, fun b hb => ?_, by simpa using ha⟩
    simpa using hbefore b hb

end Assign

/-! ### How a request ends -/

/-- The ways in which a request can end. -/
inductive Ends (d : Document) (r : Request) : Outcome → Prop
  /-- At the first cell that is not offered; the assignments before it are committed. -/
  | refused {before after : List Assignment} {a : Assignment}
      (hr : r.assignments = before ++ a :: after) (h : ∀ b ∈ before, d.Contains b.cell)
      (ha : ¬ d.Contains a.cell) :
      Ends d r ⟨d.steps (before.map Assignment.operation), "",
        .error (.assignment a.cell (.outOfBounds a.cell d.rows d.cols))⟩
  /-- With nothing to do. -/
  | idle (hasks : r.asks = false) : Ends d r ⟨d, "", .error .nothingToDo⟩
  /-- With all assignments committed and all that was asked for printed. -/
  | finished {d' : Document} (h : ∀ a ∈ r.assignments, d.Contains a.cell) (hasks : r.asks = true)
      (hd' : d' = d.steps (r.assignments.map Assignment.operation)) :
      Ends d r ⟨d', r.output d', .ok (if (r.answer d').any Value.isFault then 1 else 0)⟩

section Ends

variable {d : Document} {r : Request} {o : Outcome}

/-- There are no other ways. -/
theorem ends_run (d : Document) (r : Request) : Ends d r (run d r) := by
  rcases forall_or_exists_first d r.assignments with h | ⟨before, a, after, hr, h, ha⟩
  · cases hasks : r.asks with
    | true =>
      rw [run, assign_of_forall h]
      dsimp only
      rw [if_pos hasks]
      exact .finished h hasks rfl
    | false =>
      rw [run, (asks_eq_false_iff.mp hasks).1, assign]
      dsimp only
      rw [if_neg (by rw [hasks]; decide)]
      exact .idle hasks
  · rw [run, hr, assign_of_first h ha]
    exact .refused hr h ha

/-- A request that fails has a cell that is not offered, or asks for nothing. -/
lemma Ends.exists_error_iff (h : Ends d r o) :
    (∃ p, o.result = .error p) ↔
      (∃ a ∈ r.assignments, ¬ d.Contains a.cell) ∨ r.asks = false := by
  cases h with
  | @refused before after a hr h ha =>
    have hmem : a ∈ r.assignments := by rw [hr]; exact List.mem_append_cons_self
    exact ⟨fun _ => Or.inl ⟨a, hmem, ha⟩, fun _ => ⟨_, rfl⟩⟩
  | idle hasks => exact ⟨fun _ => Or.inr hasks, fun _ => ⟨_, rfl⟩⟩
  | finished h hasks =>
    constructor
    · rintro ⟨p, hp⟩
      cases hp
    · rintro (⟨a, hmem, ha⟩ | hnot)
      · exact absurd (h a hmem) ha
      · rw [hasks] at hnot
        cases hnot

/-- A request that fails prints nothing. -/
lemma Ends.output_eq (h : Ends d r o) {p : Problem} (hp : o.result = .error p) :
    o.output = "" := by
  cases h with
  | refused => rfl
  | idle => rfl
  | finished => cases hp

/-- The exit code is one if the command has no value. -/
lemma exitCode_iff (r : Request) (d' : Document) :
    (if (r.answer d').any Value.isFault then 1 else 0) = 1 ↔
      ∃ command, r.command = some command ∧
        (d'.preview (formulaOf command)).isFault = true := by
  rw [Request.answer]
  cases r.command with
  | none => simp
  | some command => simp

end Ends

/-- A request that is carried out write by write ends as `run` says.  It fails exactly if one of its
cells is not offered for editing or if it asks for nothing, and then nothing has been written.  In
the first case the problem names the first such cell, and the assignments before it have been
committed.  A request that succeeds has committed all of its assignments; then it has written the
value of the command, the table and the dump, as far as they are asked for, of the document that
this has led to.  A command is a formula whose equals sign may be left out.  The exit code is one if
its value is an error, and otherwise zero. -/
theorem carryOut_silent_or_complete (d : Document) (r : Request) (out : String) :
    let done := (carryOut r).outcome ⟨d, out⟩
    done = ((run d r).result, ⟨(run d r).document, out ++ (run d r).output⟩) ∧
      ((∃ p, done.1 = .error p) ↔
        (∃ a ∈ r.assignments, ¬ d.Contains a.cell) ∨
          r.assignments = [] ∧ r.command = none ∧ r.print = false ∧ r.dump = false) ∧
      (∀ p, done.1 = .error p → done.2.written = out) ∧
      (∀ before a after, r.assignments = before ++ a :: after →
        (∀ b ∈ before, d.Contains b.cell) → ¬ d.Contains a.cell →
          done.1 = .error (.assignment a.cell (.outOfBounds a.cell d.rows d.cols)) ∧
            done.2.document = d.steps (before.map Assignment.operation)) ∧
      ∀ code, done.1 = .ok code →
        let d' := d.steps (r.assignments.map Assignment.operation)
        let value (command : String) := d'.preview <|
          if command.toList.head? = some '=' then command else "=" ++ command
        done.2.document = d' ∧
          done.2.written =
            out ++ ((r.command.elim "" fun command => (value command).display ++ "\n") ++
              (if r.print then Table.render d' else "") ++
              (if r.dump then Dump.render d' else "")) ∧
          (code = 0 ∨ code = 1) ∧
          (code = 1 ↔ ∃ command, r.command = some command ∧ (value command).isFault = true) := by
  intro done
  have hdone : done = _ := outcome_carryOut d r out
  have hends := ends_run d r
  refine ⟨hdone, ?_, ?_, ?_, ?_⟩
  · rw [hdone, hends.exists_error_iff, asks_eq_false_iff]
  · intro p hp
    rw [hdone] at hp ⊢
    rw [hends.output_eq hp, String.append_empty]
  · intro before a after hr h ha
    rw [hdone, run, hr, assign_of_first h ha]
    exact ⟨rfl, rfl⟩
  · intro code hcode d' value
    have hvalue (command : String) : value command = d'.preview (formulaOf command) := by
      rw [formulaOf_eq]
    simp only [hvalue]
    rw [hdone] at hcode ⊢
    generalize run d r = o at hends hcode ⊢
    cases hends with
    | refused => cases hcode
    | idle => cases hcode
    | finished h hasks hd' =>
      subst hd'
      obtain rfl := Except.ok.inj hcode
      refine ⟨rfl, ?_, ?_, exitCode_iff r d'⟩
      · rw [Request.output, Request.answer]
        cases r.command <;> rfl
      · split
        · exact Or.inr rfl
        · exact Or.inl rfl

/-- The third of four cells is not offered.  The two before it are filled, the one after it is not,
and neither the command nor what was to be printed is looked at. -/
theorem carryOut_silent_or_complete_of_third_cell :
    let r : Request := ⟨[⟨⟨0, 0⟩, "2"⟩, ⟨⟨0, 1⟩, "=A1*A1"⟩, ⟨⟨0, 25⟩, "1"⟩, ⟨⟨0, 0⟩, "9"⟩],
      some "1/0", true, true⟩
    let done := (carryOut r).outcome ⟨.blank, ""⟩
    ¬ Document.blank.Contains ⟨0, 25⟩ ∧
      done.1 = .error (.assignment ⟨0, 25⟩ (.outOfBounds ⟨0, 25⟩ 6 6)) ∧
      done.2.document = Document.blank.steps [.commit ⟨0, 0⟩ "2", .commit ⟨0, 1⟩ "=A1*A1"] ∧
      done.2.written = "" := by
  intro r done
  have hout : ¬ Document.blank.Contains ⟨0, 25⟩ := by decide
  obtain ⟨-, -, hwritten, hfirst, -⟩ := carryOut_silent_or_complete .blank r ""
  obtain ⟨herror, hdocument⟩ := hfirst [⟨⟨0, 0⟩, "2"⟩, ⟨⟨0, 1⟩, "=A1*A1"⟩] ⟨⟨0, 25⟩, "1"⟩
    [⟨⟨0, 0⟩, "9"⟩] rfl (by simp [Document.Contains, Document.blank]) hout
  exact ⟨hout, herror, hdocument, hwritten _ herror⟩

end Batch

end Worksheet
