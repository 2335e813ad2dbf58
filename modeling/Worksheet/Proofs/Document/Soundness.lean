import Mathlib
import Worksheet.Proofs.Document.Entry
import Worksheet.Proofs.Document.Transition

/-!
# The invariant of a session

`Document.Sound` collects what every document of a session keeps: its size is allowed, all cells
that it stores or remembers lie in the largest sheet, all numbers in them are finite, and it is
empty as long as it counts as untouched.

A number reaches a cell from the arithmetic of a formula, as the copy of another cell or out of the
history.  The first is finite because the evaluator checks it, and the other two because the grid
and both parts of the history were sound before.  A typed text is never stored as a number.
-/

namespace Worksheet

/-- A value is no number unless it is a finite one. -/
def Value.IsFinite (v : Value) : Prop := ∀ x, v = .number x → x.isNaN = false ∧ x.isInf = false

/-- A position lies in the largest sheet that there can be. -/
def Position.InRange (p : Position) : Prop := p.row < 10000 ∧ p.col < 26

/-- A commit of a cell in range, from a value with finite numbers, if there was one, to another. -/
structure Change.Sound (c : Change) : Prop where
  position : c.position.InRange
  before : ∀ v, c.before = some v → v.IsFinite
  after : ∃ v, c.after = some v ∧ v.IsFinite

/-- All that is stored lies in range, and its numbers are finite. -/
def Grid.Sound (g : Grid) : Prop := ∀ p v, g.get? p = some v → p.InRange ∧ v.IsFinite

/-- The invariant of a document. -/
structure Document.Sound (d : Document) : Prop where
  rows : 1 ≤ d.rows ∧ d.rows ≤ 10000
  cols : 1 ≤ d.cols ∧ d.cols ≤ 26
  grid : d.grid.Sound
  past : ∀ c ∈ d.past, c.Sound
  future : ∀ c ∈ d.future, c.Sound
  untouched : d.modified = false → d.grid = Grid.empty ∧ d.past = [] ∧ d.future = []

/-! ### Finite values -/

namespace Value

lemma isFinite_empty : IsFinite .empty := nofun

lemma isFinite_text (s : String) : IsFinite (.text s) := nofun

lemma isFinite_fault (f : Fault) : IsFinite (.fault f) := nofun

lemma isFinite_number {x : Float} (h : x.isFinite = true) : IsFinite (.number x) := by
  rintro y ⟨⟩
  exact Binary64.isFinite_iff.mp h

end Value

section Evaluation

variable {look : Lookup}

/-- A fetched value is empty or one of the values that are looked up. -/
lemma isFinite_fetch (h : ∀ p v, look p = some v → v.IsFinite) (r : Reference) :
    (look.fetch r).IsFinite := by
  unfold Lookup.fetch
  cases hv : r.position?.bind look with
  | none => exact Value.isFinite_empty
  | some v =>
    obtain ⟨p, -, hp⟩ := Option.bind_eq_some_iff.mp hv
    exact h p v hp

/-- The arithmetic gives no number but a finite one. -/
lemma isFinite_of_combines {o : Operator} {a b : Option Float} {res : Except Fault Value}
    (h : o.Combines a b res) : (Value.ofResult res).IsFinite := by
  cases h with
  | missing => exact Value.isFinite_fault _
  | infinite => exact Value.isFinite_fault _
  | zeroDivisor => exact Value.isFinite_fault _
  | overflow => exact Value.isFinite_fault _
  | number _ _ _ _ hresult => exact Value.isFinite_number hresult

/-- A formula over finite values has a finite value. -/
lemma isFinite_result (h : ∀ p v, look p = some v → v.IsFinite) (f : Formula) :
    (Value.ofResult (f.result look)).IsFinite := by
  obtain ⟨l, step⟩ := f
  cases step with
  | none =>
    cases href : Reference.find? l with
    | none =>
      simp only [Formula.result, Operand.ofChars, href]
      exact Value.isFinite_fault _
    | some ref =>
      simp only [Formula.result, Operand.ofChars, href]
      exact isFinite_fetch h ref
  | some step =>
    obtain ⟨o, r⟩ := step
    by_cases hcompute : Refers l → Refers r
    · exact isFinite_of_combines (Formula.combines_result hcompute)
    · rw [Classical.not_imp] at hcompute
      obtain ⟨ref, href⟩ := hcompute.1.exists_find?
      rw [Formula.result_copy href hcompute.2]
      exact isFinite_fetch h ref

/-- What an entry leaves is finite if all that was stored before is. -/
lemma isFinite_entered (h : ∀ p v, look p = some v → v.IsFinite) (p : Position) (input : String) :
    (look.entered p input).IsFinite := by
  have hstaged : ∀ q v, Function.update look p (some (.text input)) q = some v → v.IsFinite := by
    intro q v hv
    rw [Function.update_apply] at hv
    split at hv
    · cases hv
      exact Value.isFinite_text input
    · exact h q v hv
  unfold Lookup.entered
  split
  · exact isFinite_result hstaged _
  · exact Value.isFinite_text input

end Evaluation

/-! ### Grids and the history -/

/-- Restoring a sound entry, or removing one, leaves a sound grid. -/
lemma Grid.Sound.restore {g : Grid} (h : g.Sound) {p : Position} (hp : p.InRange)
    {v : Option Value} (hv : ∀ w, v = some w → w.IsFinite) : (g.restore p v).Sound := by
  intro q w hw
  rw [Grid.get?_restore] at hw
  split at hw
  · next hq => exact ⟨hq ▸ hp, hv w hw⟩
  · exact h q w hw

/-- Storing a finite value in range leaves a sound grid. -/
lemma Grid.Sound.insert {g : Grid} (h : g.Sound) {p : Position} (hp : p.InRange) {v : Value}
    (hv : v.IsFinite) : (g.insert p v).Sound := by
  have hsome : ∀ w, some v = some w → w.IsFinite := by
    rintro w ⟨⟩
    exact hv
  exact h.restore hp hsome

namespace Document

/-- What is remembered is the new commit or was remembered before. -/
lemma mem_of_mem_remember {past : List Change} {c e : Change} (h : e ∈ remember past c) :
    e = c ∨ e ∈ past := by
  rw [remember_eq, List.mem_cons] at h
  refine h.imp_right fun he => ?_
  split at he
  · exact he
  · exact List.mem_of_mem_dropLast he

variable {d d' : Document} {o : Operation} {r : Reply}

/-- A cell that is offered for editing is in range. -/
lemma Sound.inRange (hd : d.Sound) {p : Position} (hp : d.Contains p) : p.InRange :=
  ⟨hp.1.trans_le hd.rows.2, hp.2.trans_le hd.cols.2⟩

/-- Entering an input in a cell that is offered keeps the invariant. -/
lemma Sound.enter (hd : d.Sound) {p : Position} (hp : d.Contains p) (input : String) :
    (d.enter p input).1.Sound := by
  have hrange : p.InRange := hd.inRange hp
  have hvalue : (Lookup.entered d.grid.get? p input).IsFinite :=
    isFinite_entered (fun q v hv => (hd.grid q v hv).2) p input
  refine ⟨hd.rows, hd.cols, ?_, ?_, ?_, ?_⟩
  · intro q v hv
    rw [get?_enter, ← Grid.get?_insert_eq_update] at hv
    exact hd.grid.insert hrange hvalue q v hv
  · intro c hc
    rw [past_enter] at hc
    rcases mem_of_mem_remember hc with rfl | hc
    · exact ⟨hrange, fun v hv => (hd.grid p v hv).2, _, rfl, hvalue⟩
    · exact hd.past c hc
  · intro c hc
    cases hc
  · intro h
    cases h

/-- Every operation that succeeds keeps the invariant. -/
lemma Sound.accepts (hd : d.Sound) (h : d.Accepts o d' r) : d'.Sound := by
  cases h with
  | commit hp => exact hd.enter hp _
  | @undo c past hpast =>
    -- the change moves over with its values, and its older value goes back into the grid
    have hall : ∀ e ∈ c :: past, e.Sound := hpast ▸ hd.past
    obtain ⟨hc, hrest⟩ := List.forall_mem_cons.mp hall
    exact ⟨hd.rows, hd.cols, hd.grid.restore hc.position hc.before, hrest,
      List.forall_mem_cons.mpr ⟨hc, hd.future⟩, nofun⟩
  | @redo c future hfuture =>
    have hall : ∀ e ∈ c :: future, e.Sound := hfuture ▸ hd.future
    obtain ⟨hc, hrest⟩ := List.forall_mem_cons.mp hall
    have hgrid : (d.grid.restore c.position c.after).Sound := by
      obtain ⟨v, hv, hfinite⟩ := hc.after
      rw [hv]
      exact hd.grid.insert hc.position hfinite
    exact ⟨hd.rows, hd.cols, hgrid,
      List.forall_mem_cons.mpr ⟨hc, hd.past⟩, hrest, nofun⟩
  | setRows hrows => exact { hd with rows := hrows }
  | setCols hcols => exact { hd with cols := hcols }
  | resize hrows hcols => exact { hd with rows := hrows, cols := hcols }

/-- A fresh document has the invariant. -/
lemma sound_of_ofSize {rows cols : ℕ} (h : ofSize rows cols = .ok d) : d.Sound := by
  obtain ⟨hrows, hcols, rfl⟩ := ofSize_eq_ok_iff.mp h
  refine ⟨hrows, hcols, ?_, ?_, ?_, fun _ => ⟨rfl, rfl, rfl⟩⟩
  · intro p v hv
    cases hv
  · intro c hc
    cases hc
  · intro c hc
    cases hc

/-- A session keeps the invariant. -/
lemma Sound.steps (hd : d.Sound) (os : List Operation) : (d.steps os).Sound :=
  steps_induction Sound.accepts hd os

/-- Every session from a fresh document keeps the invariant, whatever is tried in it. -/
theorem steps_sound {rows cols : ℕ} (h : ofSize rows cols = .ok d) (os : List Operation) :
    (d.steps os).Sound :=
  (sound_of_ofSize h).steps os

/-- A largest sheet stays sound when its last cell is filled, the sheet is made smaller and the
commit is taken back. -/
theorem steps_sound_last_cell :
    ofSize 10000 26 = .ok { blank with rows := 10000, cols := 26 } ∧
      (Document.steps { blank with rows := 10000, cols := 26 }
        [.commit ⟨9999, 25⟩ "=1/3", .resize 1 1, .undo]).Sound := by
  have h : ofSize 10000 26 = .ok { blank with rows := 10000, cols := 26 } :=
    ofSize_eq_ok_iff.mpr ⟨by decide, by decide, rfl⟩
  exact ⟨h, steps_sound h _⟩

end Document

end Worksheet
