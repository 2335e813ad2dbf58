import Mathlib
import Worksheet.Proofs.Document.Entry

/-!
# The history as a whole

The history of a document has two parts, the commits that can be undone and those that can be made
again.  Put together they are its `timeline`, oldest commit first, with the current state at the
place where the parts meet.  Undo and redo only move that place (`timeline_steps`).  A commit cuts
off all that lies behind it and appends itself; only then may there be one commit too many, and the
oldest one is dropped.

So a hundred is a bound on the whole timeline (`length_timeline_steps`).  It is needed as one: a
redo adds to the past without looking at its length, and has room for that because the change was
counted before.
-/

namespace Worksheet

/-- Whether an operation is a commit. -/
def Operation.isCommit : Operation → Bool
  | .commit _ _ => true
  | _ => false

namespace Document

variable {d d' : Document} {o : Operation} {r : Reply}

/-! ### Remembering one more change -/

section Remember

variable {past : List Change}

/-- Up to the bound, forgetting the oldest change keeps the newest hundred. -/
lemma remember_eq_take (h : past.length ≤ 100) (c : Change) :
    remember past c = (c :: past).take 100 := by
  rw [remember_eq]
  split
  · next hroom => rw [List.take_of_length_le (by rw [List.length_cons]; omega)]
  · next hfull =>
    rw [List.take_succ_cons, List.dropLast_eq_take]
    have hlen : past.length = 100 := by omega
    rw [hlen]

lemma length_remember_le (h : past.length ≤ 100) (c : Change) :
    (remember past c).length ≤ 100 := by
  rw [remember_eq_take h]
  exact List.length_take_le _ _

end Remember

/-! ### The timeline -/

/-- The commits of the history, oldest first. -/
def timeline (d : Document) : List Change := d.past.reverse ++ d.future

lemma length_timeline (d : Document) : d.timeline.length = d.past.length + d.future.length := by
  rw [timeline, List.length_append, List.length_reverse]

/-- A change may be on either side of the place between past and future. -/
lemma reverse_cons_append (c : Change) (past future : List Change) :
    (c :: past).reverse ++ future = past.reverse ++ c :: future := by
  rw [List.reverse_cons, List.append_assoc, List.singleton_append]

/-- Only a commit changes the timeline. -/
lemma Accepts.timeline_eq (h : d.Accepts o d' r) (ho : o.isCommit = false) :
    d'.timeline = d.timeline := by
  cases h with
  | commit => cases ho
  | undo hpast =>
    rw [timeline, timeline, hpast]
    exact (reverse_cons_append _ _ _).symm
  | redo hfuture =>
    rw [timeline, timeline, hfuture]
    exact reverse_cons_append _ _ _
  | setRows => rfl
  | setCols => rfl
  | resize => rfl

lemma timeline_step (d : Document) (ho : o.isCommit = false) :
    (d.step o).timeline = d.timeline := by
  rcases accepts_or_refuses d o with ⟨d', r, hacc⟩ | ⟨f, href⟩
  · rw [hacc.step_eq, hacc.timeline_eq ho]
  · rw [href.step_eq]

/-- As long as nothing is committed the timeline stays the same. -/
lemma timeline_steps (d : Document) {os : List Operation} (hos : ∀ o ∈ os, o.isCommit = false) :
    (d.steps os).timeline = d.timeline := by
  induction os generalizing d with
  | nil => rfl
  | cons o os ih =>
    obtain ⟨ho, hos⟩ := List.forall_mem_cons.mp hos
    rw [steps_cons, ih (d.step o) hos, d.timeline_step ho]

/-- After a commit the timeline is the past, which keeps the bound by itself. -/
lemma length_timeline_enter (h : d.past.length ≤ 100) (p : Position) (input : String) :
    (d.enter p input).1.timeline.length ≤ 100 := by
  rw [length_timeline, d.past_enter]
  exact length_remember_le h _

/-- No operation that succeeds makes the timeline too long. -/
lemma Accepts.length_timeline_le (h : d.Accepts o d' r) (hd : d.timeline.length ≤ 100) :
    d'.timeline.length ≤ 100 := by
  cases ho : o.isCommit with
  | false => rwa [h.timeline_eq ho]
  | true =>
    cases h with
    | commit =>
      rw [length_timeline] at hd
      exact length_timeline_enter (by omega) _ _
    | undo | redo | setRows | setCols | resize => cases ho

/-- In a session that starts with an empty history there are never more than a hundred commits to
be undone or made again. -/
lemma length_timeline_steps {rows cols : ℕ} (h : ofSize rows cols = .ok d) (os : List Operation) :
    (d.steps os).timeline.length ≤ 100 := by
  have hstart : d.timeline.length ≤ 100 := by
    obtain ⟨-, -, rfl⟩ := ofSize_eq_ok_iff.mp h
    exact Nat.zero_le 100
  exact steps_induction (fun hd hacc => hacc.length_timeline_le hd) hstart os

/-! ### Sessions -/

/-- At every step of a session from a fresh document the two parts of the history have at most a
hundred commits together.  Operations other than commits, however many there are, lose none of them;
so a redo never makes the past too long.  A commit empties the future and appends itself to the
past, which loses its oldest commit if it is full, and nothing otherwise. -/
theorem steps_history_bounded {rows cols : ℕ} (h : ofSize rows cols = .ok d)
    (os : List Operation) :
    let s := d.steps os
    s.past.length + s.future.length ≤ 100 ∧
      (∀ os', (∀ o ∈ os', o.isCommit = false) →
        (s.steps os').timeline = s.timeline ∧
          (s.steps os').past.length + (s.steps os').future.length =
            s.past.length + s.future.length) ∧
      (∀ d' p, s.redo = .ok (d', p) → d'.past.length ≤ 100) ∧
      ∀ p input d' v, s.commit p input = .ok (d', v) →
        d'.future = [] ∧ d'.past = ⟨p, s.get? p, some v⟩ ::
          (if s.past.length < 100 then s.past else s.past.dropLast) := by
  intro s
  have hbound : s.timeline.length ≤ 100 := length_timeline_steps h os
  refine ⟨s.length_timeline ▸ hbound, fun os' hos => ?_, fun d' p hredo => ?_,
    fun p input d' v hcommit => ?_⟩
  · have hsame : (s.steps os').timeline = s.timeline := s.timeline_steps hos
    refine ⟨hsame, ?_⟩
    rw [← length_timeline, ← length_timeline, hsame]
  · have hlength := (accepts_of_redo hredo).length_timeline_le hbound
    rw [length_timeline] at hlength
    omega
  · cases accepts_of_commit hcommit with
    | commit =>
      refine ⟨rfl, ?_⟩
      rw [s.past_enter, remember_eq, enter_snd]

/-- A hundred and fifty commits into one cell leave a hundred, also after sixty of them have been
taken back and made again. -/
theorem steps_history_bounded_of_full :
    ofSize 1 1 = .ok { blank with rows := 1, cols := 1 } ∧
      let s := Document.steps { blank with rows := 1, cols := 1 }
        (List.replicate 150 (.commit ⟨0, 0⟩ "=A1") ++ List.replicate 60 .undo)
      s.past.length + s.future.length ≤ 100 ∧
        (s.steps (List.replicate 60 .redo)).timeline = s.timeline := by
  have h : ofSize 1 1 = .ok { blank with rows := 1, cols := 1 } :=
    ofSize_eq_ok_iff.mpr ⟨by decide, by decide, rfl⟩
  refine ⟨h, ?_⟩
  intro s
  obtain ⟨hbound, hkeep, -⟩ := steps_history_bounded h
    (List.replicate 150 (.commit ⟨0, 0⟩ "=A1") ++ List.replicate 60 .undo)
  refine ⟨hbound, (hkeep _ ?_).1⟩
  intro o ho
  rw [List.eq_of_mem_replicate ho]
  rfl

end Document

end Worksheet
