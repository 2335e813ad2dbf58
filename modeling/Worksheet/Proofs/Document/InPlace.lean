import Mathlib
import Worksheet.Proofs.Document.Transcript
import Worksheet.Proofs.InPlace

/-!
# Operations in place

An operation can be carried out on a document that is there only once: each of its parts is looked
at and overwritten in turn, and what has been written when the operation fails stays written.  This
is what `Document.InPlace` describes, for every operation its checks and its writes in order.

`outcome_perform` shows that nothing depends on it.  Each operation looks at all that it can fail
for before it writes, so it leaves the document of `step` and tells what `told` says, also when it
fails.  `perform_atomic` is the main statement: an operation fails exactly for the reasons listed in
`Rejects`, a failure leaves every part of the document as it was, and a success changes no dimension
but those that the operation names.
-/

namespace Worksheet

namespace Document

namespace InPlace

open Worksheet.InPlace

/-! ### Checks and writes -/

/-- Fails if a count is not allowed. -/
def check (a : Axis) (n : ℕ) : InPlace Document Failure Unit :=
  unless a.Allows n do throw (.badCount a n)

/-- Fails if a cell is not offered for editing. -/
def checkInside (p : Position) : InPlace Document Failure Unit := do
  let d ← get
  unless d.Contains p do throw (.outOfBounds p d.rows d.cols)

/-- Writes an entry, or removes it. -/
def store (p : Position) (v : Option Value) : InPlace Document Failure Unit :=
  modify fun d => { d with grid := d.grid.restore p v }

/-- Writes an input.  A formula overwrites its own text, after it has been evaluated over it. -/
def fill (p : Position) (input : String) : InPlace Document Failure Value := do
  store p (some (.text input))
  if isFormula input then
    let value := (← get).preview input
    store p (some value)
    return value
  else
    return .text input

/-- Adds a change to those that can be undone, and drops all that can be redone.  If there are too
many changes then, the oldest one is dropped too. -/
def record (c : Change) : InPlace Document Failure Unit := do
  modify fun d => { d with past := c :: d.past }
  modify fun d => { d with future := [] }
  if pastLimit < (← get).past.length then
    modify fun d => { d with past := d.past.dropLast }

/-- Marks the document as modified. -/
def touch : InPlace Document Failure Unit := modify fun d => { d with modified := true }

/-! ### Operations -/

/-- Commits an input. -/
def commit (p : Position) (input : String) : InPlace Document Failure Value := do
  checkInside p
  let before := (← get).get? p
  let value ← fill p input
  record ⟨p, before, some value⟩
  touch
  return value

/-- Takes the newest change off the past and brings its earlier value back. -/
def undo : InPlace Document Failure Position := do
  match (← get).past with
  | [] => throw .nothingToUndo
  | c :: past =>
    modify fun d => { d with past := past }
    store c.position c.before
    modify fun d => { d with future := c :: d.future }
    touch
    return c.position

/-- Takes the next change off the future and brings its later value back. -/
def redo : InPlace Document Failure Position := do
  match (← get).future with
  | [] => throw .nothingToRedo
  | c :: future =>
    modify fun d => { d with future := future }
    store c.position c.after
    modify fun d => { d with past := c :: d.past }
    touch
    return c.position

/-- Sets the number of rows. -/
def setRows (n : ℕ) : InPlace Document Failure Unit := do
  check .row n
  modify fun d => { d with rows := n }

/-- Sets the number of columns. -/
def setCols (n : ℕ) : InPlace Document Failure Unit := do
  check .column n
  modify fun d => { d with cols := n }

/-- Sets both dimensions. -/
def resize (rows cols : ℕ) : InPlace Document Failure Unit := do
  check .row rows
  check .column cols
  modify fun d => { d with rows := rows }
  modify fun d => { d with cols := cols }

/-- Performs an operation. -/
def perform : Operation → InPlace Document Failure Reply
  | .commit p input => return .stored (← commit p input)
  | .undo => return .changed (← undo)
  | .redo => return .changed (← redo)
  | .setRows n => do setRows n; return .resized
  | .setCols n => do setCols n; return .resized
  | .resize rows cols => do resize rows cols; return .resized

/-! ### What checks and writes do -/

section Outcome

variable {d : Document} {p : Position} {input : String}

lemma outcome_check (a : Axis) (n : ℕ) :
    (check a n).outcome d = (if a.Allows n then .ok () else .error (.badCount a n), d) := by
  unfold check
  split <;> rfl

lemma outcome_checkInside :
    (checkInside p).outcome d =
      (if d.Contains p then .ok () else .error (.outOfBounds p d.rows d.cols), d) := by
  simp only [checkInside, outcome_bind, outcome_get]
  split <;> rfl

lemma outcome_store (v : Option Value) :
    (store p v).outcome d = (.ok (), { d with grid := d.grid.restore p v }) := rfl

lemma outcome_touch : touch.outcome d = (.ok (), { d with modified := true }) := rfl

lemma outcome_record (c : Change) :
    (record c).outcome d =
      (.ok (), { d with past := Document.remember d.past c, future := [] }) := by
  simp only [record, outcome_bind, outcome_get, outcome_modify]
  unfold Document.remember
  split <;> rfl

/-- A text that is no formula is written once, and the entry writes it twice. -/
lemma outcome_fill :
    (fill p input).outcome d =
      (.ok (d.enter p input).2, { d with grid := (d.enter p input).1.grid }) := by
  rw [fill, outcome_bind, outcome_store, enter]
  dsimp only
  by_cases h : isFormula input = true
  · rw [if_pos h, if_pos h]
    rfl
  · rw [if_neg h, if_neg h, Grid.insert_insert]
    rfl

end Outcome

/-! ### What operations do -/

variable {d d' : Document} {o : Operation} {r : Reply} {f : Failure}

/-- What succeeds leaves the same document in place, with the same reply. -/
lemma outcome_of_accepts (h : d.Accepts o d' r) : (perform o).outcome d = (.ok r, d') := by
  cases h with
  | commit h =>
    simp only [perform, commit, outcome_bind, outcome_checkInside, if_pos h, outcome_get,
      outcome_fill, outcome_record, outcome_touch]
    rfl
  | undo h =>
    simp only [perform, undo, outcome_bind, outcome_get, h]
    rfl
  | redo h =>
    simp only [perform, redo, outcome_bind, outcome_get, h]
    rfl
  | @setRows n h =>
    have hrow : Axis.row.Allows n := h
    simp only [perform, setRows, outcome_bind, outcome_check, if_pos hrow]
    rfl
  | @setCols n h =>
    have hcol : Axis.column.Allows n := h
    simp only [perform, setCols, outcome_bind, outcome_check, if_pos hcol]
    rfl
  | @resize rows cols hrows hcols =>
    have hrow : Axis.row.Allows rows := hrows
    have hcol : Axis.column.Allows cols := hcols
    simp only [perform, resize, outcome_bind, outcome_check, if_pos hrow, if_pos hcol]
    rfl

/-- What fails does so before its first write. -/
lemma outcome_of_refuses (h : d.Refuses o f) : (perform o).outcome d = (.error f, d) := by
  cases h with
  | commit h => simp only [perform, commit, outcome_bind, outcome_checkInside, if_neg h]
  | undo h => simp only [perform, undo, outcome_bind, outcome_get, h, outcome_throw]
  | redo h => simp only [perform, redo, outcome_bind, outcome_get, h, outcome_throw]
  | @setRows n h =>
    have hrow : ¬ Axis.row.Allows n := h
    simp only [perform, setRows, outcome_bind, outcome_check, if_neg hrow]
  | @setCols n h =>
    have hcol : ¬ Axis.column.Allows n := h
    simp only [perform, setCols, outcome_bind, outcome_check, if_neg hcol]
  | @resizeRows rows cols h =>
    have hrow : ¬ Axis.row.Allows rows := h
    simp only [perform, resize, outcome_bind, outcome_check, if_neg hrow]
  | @resizeCols rows cols hrows h =>
    have hrow : Axis.row.Allows rows := hrows
    have hcol : ¬ Axis.column.Allows cols := h
    simp only [perform, resize, outcome_bind, outcome_check, if_pos hrow, if_neg hcol]

/-- An operation in place leaves the document after the operation and tells the same. -/
theorem outcome_perform (d : Document) (o : Operation) :
    (perform o).outcome d = (d.told o, d.step o) := by
  rcases accepts_or_refuses d o with ⟨d', r, hacc⟩ | ⟨f, href⟩
  · rw [outcome_of_accepts hacc, hacc.told_eq, hacc.step_eq]
  · rw [outcome_of_refuses href, href.told_eq, href.step_eq]

end InPlace

/-- The operations that a document rejects. -/
def Rejects (d : Document) : Operation → Prop
  | .commit p _ => d.rows ≤ p.row ∨ d.cols ≤ p.col
  | .undo => d.past = []
  | .redo => d.future = []
  | .setRows n => ¬ (1 ≤ n ∧ n ≤ 10000)
  | .setCols n => ¬ (1 ≤ n ∧ n ≤ 26)
  | .resize rows cols => ¬ (1 ≤ rows ∧ rows ≤ 10000) ∨ ¬ (1 ≤ cols ∧ cols ≤ 26)

lemma exists_refuses_iff {d : Document} {o : Operation} :
    (∃ f, d.Refuses o f) ↔ d.Rejects o := by
  constructor
  · rintro ⟨f, href⟩
    cases href with
    | commit h =>
      rw [Contains, not_and_or, Nat.not_lt, Nat.not_lt] at h
      exact h
    | undo h => exact h
    | redo h => exact h
    | setRows h => exact h
    | setCols h => exact h
    | resizeRows h => exact Or.inl h
    | resizeCols _ h => exact Or.inr h
  · intro h
    cases o with
    | commit p input =>
      refine ⟨_, .commit ?_⟩
      rw [Contains, not_and_or, Nat.not_lt, Nat.not_lt]
      exact h
    | undo => exact ⟨_, .undo h⟩
    | redo => exact ⟨_, .redo h⟩
    | setRows n => exact ⟨_, .setRows h⟩
    | setCols n => exact ⟨_, .setCols h⟩
    | resize rows cols =>
      by_cases hrows : 1 ≤ rows ∧ rows ≤ 10000
      · exact ⟨_, .resizeCols hrows (h.resolve_left (not_not.mpr hrows))⟩
      · exact ⟨_, .resizeRows hrows⟩

end Document

/-- A document differs from another one by no more than an operation may change.  A change of size
may change the dimensions that it names and nothing else, any other operation no dimension. -/
def Operation.Spares (d d' : Document) : Operation → Prop
  | .setRows n => d' = { d with rows := n }
  | .setCols n => d' = { d with cols := n }
  | .resize rows cols => d' = { d with rows := rows, cols := cols }
  | .commit _ _ | .undo | .redo => d'.rows = d.rows ∧ d'.cols = d.cols

namespace Document

variable {d d' : Document} {o : Operation} {r : Reply}

lemma Accepts.spares (h : d.Accepts o d' r) : o.Spares d d' := by
  cases h with
  | commit => exact ⟨rfl, rfl⟩
  | undo => exact ⟨rfl, rfl⟩
  | redo => exact ⟨rfl, rfl⟩
  | setRows => rfl
  | setCols => rfl
  | resize => rfl

lemma Accepts.not_refuses (h : d.Accepts o d' r) (f : Failure) : ¬ d.Refuses o f := by
  intro href
  cases h.perform_eq.symm.trans href.perform_eq

/-- An operation that is carried out write by write fails on a document exactly if the document
rejects it.  After a failure the document is as it was, in every part.  After a success its
dimensions are the same, unless the operation is a change of size; then the dimensions that it names
have changed and nothing else has. -/
theorem perform_atomic (d : Document) (o : Operation) :
    let done := (InPlace.perform o).outcome d
    done = (d.told o, d.step o) ∧ ((∃ f, done.1 = .error f) ↔ d.Rejects o) ∧
      (∀ f, done.1 = .error f → done.2 = d) ∧ ∀ r, done.1 = .ok r → o.Spares d done.2 := by
  intro done
  have hdone : done = (d.told o, d.step o) := InPlace.outcome_perform d o
  refine ⟨hdone, ?_⟩
  rw [hdone, ← exists_refuses_iff]
  rcases accepts_or_refuses d o with ⟨d', r, hacc⟩ | ⟨f, href⟩
  · rw [hacc.told_eq, hacc.step_eq]
    refine ⟨⟨nofun, ?_⟩, nofun, fun _ _ => hacc.spares⟩
    rintro ⟨f, href⟩
    exact absurd href (hacc.not_refuses f)
  · rw [href.told_eq, href.step_eq]
    exact ⟨⟨fun _ => ⟨f, href⟩, fun _ => ⟨f, rfl⟩⟩, fun _ _ => rfl, nofun⟩

/-- A size with good rows and bad columns is refused before the rows are written. -/
theorem perform_atomic_of_bad_cols :
    let d := blank.step (.commit ⟨0, 0⟩ "7")
    let done := (InPlace.perform (.resize 5 27)).outcome d
    d.Rejects (.resize 5 27) ∧ done.1 = .error (.badCount .column 27) ∧ done.2 = d := by
  intro d done
  have hrejects : d.Rejects (.resize 5 27) := Or.inr (by decide)
  have htold : d.told (.resize 5 27) = .error (.badCount .column 27) :=
    (Refuses.resizeCols (by decide) (by decide)).told_eq
  obtain ⟨hdone, -, hsame, -⟩ := perform_atomic d (.resize 5 27)
  have herror : done.1 = .error (.badCount .column 27) := (congrArg Prod.fst hdone).trans htold
  exact ⟨hrejects, herror, hsame _ herror⟩

end Document

end Worksheet
