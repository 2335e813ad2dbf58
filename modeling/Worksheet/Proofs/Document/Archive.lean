import Mathlib
import Worksheet.Proofs.Document.History

/-!
# Undoing by changes and undoing by whole grids

A document remembers of every commit only the value of one cell before and after.  An archive is the
plain alternative: it keeps whole grids, a list of those that can be taken back and a list of those
that can be made again.  `steps_follow_archive` says that nobody can tell the two apart: over every
session they hold the same grid, take the same operations, and have nothing to undo or to redo at
the same times.

The invariant is `Document.Follows`.  The two lists of changes are walks that start at the current
grid, one back and one on.  A walk fits if each of its moves finds the value that it expects, and
the archive holds exactly the grids that the walks pass.  Only with the bound on both lists together
does forgetting the oldest change agree with keeping the newest hundred grids, since a redo adds to
the past without looking at its length.
-/

namespace Worksheet

/-! ### Archives -/

/-- A sheet whose history is made of whole grids. -/
structure Archive where
  /-- The number of rows offered for editing. -/
  rows : ℕ
  /-- The number of columns offered for editing. -/
  cols : ℕ
  /-- The grids before the commits that can be undone, newest first. -/
  past : List Lookup
  /-- The grid. -/
  current : Lookup
  /-- The grids after the commits that can be redone, next first. -/
  undone : List Lookup

namespace Archive

/-- The empty archive of a given size. -/
def fresh (rows cols : ℕ) : Archive := ⟨rows, cols, [], fun _ => none, []⟩

/-- Performs an operation; none if it is refused.  A commit keeps the newest hundred grids. -/
def perform? (a : Archive) : Operation → Option Archive
  | .commit p input =>
    if p.row < a.rows ∧ p.col < a.cols then
      some { a with
        past := (a.current :: a.past).take 100
        current := Function.update a.current p (some (a.current.entered p input))
        undone := [] }
    else none
  | .undo =>
    match a.past with
    | [] => none
    | g :: past => some { a with past := past, current := g, undone := a.current :: a.undone }
  | .redo =>
    match a.undone with
    | [] => none
    | g :: undone => some { a with past := a.current :: a.past, current := g, undone := undone }
  | .setRows n => if 1 ≤ n ∧ n ≤ 10000 then some { a with rows := n } else none
  | .setCols n => if 1 ≤ n ∧ n ≤ 26 then some { a with cols := n } else none
  | .resize rows cols =>
    if (1 ≤ rows ∧ rows ≤ 10000) ∧ (1 ≤ cols ∧ cols ≤ 26) then
      some { a with rows := rows, cols := cols }
    else none

/-- The archive after an operation, whether it was performed or not. -/
def step (a : Archive) (o : Operation) : Archive := (a.perform? o).getD a

/-- The archive after a list of operations. -/
def steps (a : Archive) (os : List Operation) : Archive := os.foldl step a

variable {a : Archive} {g : Lookup} {gs : List Lookup}

lemma perform?_undo (h : a.past = g :: gs) :
    a.perform? .undo =
      some { a with past := gs, current := g, undone := a.current :: a.undone } := by
  simp only [perform?, h]

lemma perform?_redo (h : a.undone = g :: gs) :
    a.perform? .redo = some { a with past := a.current :: a.past, current := g, undone := gs } := by
  simp only [perform?, h]

end Archive

/-! ### Walks through grids -/

/-- A change of one cell in one direction. -/
structure Move where
  /-- The cell. -/
  position : Position
  /-- What the move expects there. -/
  found : Option Value
  /-- What it leaves there. -/
  left : Option Value

namespace Move

/-- The move that takes a move back. -/
def flip (m : Move) : Move := ⟨m.position, m.left, m.found⟩

/-- The grid after a move. -/
def apply (m : Move) (g : Lookup) : Lookup := Function.update g m.position m.left

/-- The grids that a walk passes after its start. -/
def passed : Lookup → List Move → List Lookup
  | _, [] => []
  | g, m :: ms => m.apply g :: passed (m.apply g) ms

/-- Every move of a walk finds what it expects. -/
inductive Fits : Lookup → List Move → Prop
  | nil (g : Lookup) : Fits g []
  | cons {g : Lookup} {m : Move} {ms : List Move} (h : g m.position = m.found)
      (hms : Fits (m.apply g) ms) : Fits g (m :: ms)

variable {g : Lookup} {m : Move} {ms ns : List Move}

/-- A move that found what it expected is taken back without a trace. -/
lemma apply_flip (h : g m.position = m.found) : m.flip.apply (m.apply g) = g := by
  simp only [apply, flip, Function.update_idem, ← h, Function.update_eq_self]

lemma length_passed (g : Lookup) (ms : List Move) : (passed g ms).length = ms.length := by
  induction ms generalizing g with
  | nil => rfl
  | cons m ms ih => rw [passed, List.length_cons, List.length_cons, ih]

lemma passed_take (g : Lookup) (ms : List Move) (n : ℕ) :
    passed g (ms.take n) = (passed g ms).take n := by
  induction ms generalizing g n with
  | nil => simp [passed]
  | cons m ms ih =>
    cases n with
    | zero => rfl
    | succ n => rw [List.take_succ_cons, passed, passed, List.take_succ_cons, ih]

lemma Fits.take (h : Fits g ms) (n : ℕ) : Fits g (ms.take n) := by
  induction h generalizing n with
  | nil g => simpa using Fits.nil g
  | cons h hms ih =>
    cases n with
    | zero => exact .nil _
    | succ n => exact .cons h (ih n)

lemma fits_cons_iff : Fits g (m :: ms) ↔ g m.position = m.found ∧ Fits (m.apply g) ms := by
  constructor
  · intro h
    cases h with
    | cons h hms => exact ⟨h, hms⟩
  · rintro ⟨h, hms⟩
    exact .cons h hms

/-- After a move, a walk from before it starts by taking the move back. -/
lemma Fits.turn (h : g m.position = m.found) (hns : Fits g ns) :
    Fits (m.apply g) (m.flip :: ns) := by
  refine .cons (Function.update_self _ _ _) ?_
  rw [apply_flip h]
  exact hns

lemma passed_turn (h : g m.position = m.found) (ns : List Move) :
    passed (m.apply g) (m.flip :: ns) = g :: passed g ns := by
  rw [passed, apply_flip h]

end Move

/-- Taking a change back. -/
def Change.backward (c : Change) : Move := ⟨c.position, c.after, c.before⟩

/-- Making a change again. -/
def Change.forward (c : Change) : Move := ⟨c.position, c.before, c.after⟩

/-! ### The invariant -/

namespace Document

/-- An archive holds what a document stands for: its grid, and in its two lists the grids that the
changes of the document lead to. -/
structure Follows (d : Document) (a : Archive) : Prop where
  rows : a.rows = d.rows
  cols : a.cols = d.cols
  current : a.current = d.grid.get?
  past : a.past = Move.passed d.grid.get? (d.past.map Change.backward)
  undone : a.undone = Move.passed d.grid.get? (d.future.map Change.forward)
  /-- The changes lead back from the grid. -/
  back : Move.Fits d.grid.get? (d.past.map Change.backward)
  /-- The undone changes lead on from the grid. -/
  onward : Move.Fits d.grid.get? (d.future.map Change.forward)
  /-- Undo and redo move changes between the lists, so their lengths are bounded together. -/
  bound : d.past.length + d.future.length ≤ 100

variable {d d' : Document} {a : Archive} {o : Operation} {r : Reply}

/-- The archive follows a commit. -/
lemma Follows.enter (h : d.Follows a) (p : Position) (input : String) :
    (d.enter p input).1.Follows
      { a with
        past := (a.current :: a.past).take 100
        current := Function.update a.current p (some (a.current.entered p input))
        undone := [] } := by
  have hlen : d.past.length ≤ 100 := by have := h.bound; omega
  set c : Change := ⟨p, d.get? p, some (Lookup.entered d.grid.get? p input)⟩ with hc
  have hgrid : (d.enter p input).1.grid.get? = c.forward.apply d.grid.get? := d.get?_enter p input
  have hfound : d.grid.get? c.forward.position = c.forward.found := rfl
  have hpast : (d.enter p input).1.past.map Change.backward =
      (c.forward.flip :: d.past.map Change.backward).take 100 := by
    rw [d.past_enter, ← hc, remember_eq_take hlen, List.map_take, List.map_cons]
    rfl
  refine ⟨h.rows, h.cols, ?_, ?_, rfl, ?_, .nil _, ?_⟩
  · rw [hgrid, h.current]
    rfl
  · rw [hpast, hgrid, Move.passed_take, Move.passed_turn hfound, ← h.past, ← h.current]
  · rw [hpast, hgrid]
    exact (h.back.turn hfound).take 100
  · rw [d.past_enter]
    exact length_remember_le hlen c

/-- The archive follows an undo: the first grid behind is the one that the change leads back to, and
its way on starts with the same change. -/
lemma Follows.undo (h : d.Follows a) {c : Change} {past : List Change} (hpast : d.past = c :: past) :
    ∃ a', a.perform? .undo = some a' ∧
      Follows
        { d with
          grid := d.grid.restore c.position c.before
          modified := true
          past := past
          future := c :: d.future } a' := by
  obtain ⟨hrows, hcols, hcurrent, hgrids, hundone, hback, honward, hbound⟩ := h
  rw [hpast] at hgrids hback hbound
  obtain ⟨hfound, hrest⟩ := Move.fits_cons_iff.mp hback
  have hgrid : (d.grid.restore c.position c.before).get? = c.backward.apply d.grid.get? :=
    Grid.get?_restore_eq_update _ _ _
  refine ⟨_, Archive.perform?_undo hgrids, hrows, hcols, hgrid.symm, ?_, ?_, ?_, ?_, ?_⟩
  · simp only [hgrid]
  · simp only [hgrid, hcurrent, hundone]
    exact (Move.passed_turn hfound _).symm
  · simp only [hgrid]
    exact hrest
  · simp only [hgrid]
    exact honward.turn hfound
  · simp only [List.length_cons] at hbound ⊢
    omega

/-- The archive follows a redo, in the same way with the two lists exchanged. -/
lemma Follows.redo (h : d.Follows a) {c : Change} {future : List Change}
    (hfuture : d.future = c :: future) :
    ∃ a', a.perform? .redo = some a' ∧
      Follows
        { d with
          grid := d.grid.restore c.position c.after
          modified := true
          past := c :: d.past
          future := future } a' := by
  obtain ⟨hrows, hcols, hcurrent, hpast, hgrids, hback, honward, hbound⟩ := h
  rw [hfuture] at hgrids honward hbound
  obtain ⟨hfound, hrest⟩ := Move.fits_cons_iff.mp honward
  have hgrid : (d.grid.restore c.position c.after).get? = c.forward.apply d.grid.get? :=
    Grid.get?_restore_eq_update _ _ _
  refine ⟨_, Archive.perform?_redo hgrids, hrows, hcols, hgrid.symm, ?_, ?_, ?_, ?_, ?_⟩
  · simp only [hgrid, hcurrent, hpast]
    exact (Move.passed_turn hfound _).symm
  · simp only [hgrid]
  · simp only [hgrid]
    exact hback.turn hfound
  · simp only [hgrid]
    exact hrest
  · simp only [List.length_cons] at hbound ⊢
    omega

/-- The archive follows an operation that the document takes. -/
lemma Follows.accepts (h : d.Follows a) (hacc : d.Accepts o d' r) :
    ∃ a', a.perform? o = some a' ∧ d'.Follows a' := by
  cases hacc with
  | commit hp =>
    refine ⟨_, if_pos ?_, h.enter _ _⟩
    rw [h.rows, h.cols]
    exact hp
  | undo hpast => exact h.undo hpast
  | redo hfuture => exact h.redo hfuture
  | setRows hn =>
    exact ⟨_, if_pos hn, rfl, h.cols, h.current, h.past, h.undone, h.back, h.onward, h.bound⟩
  | setCols hn =>
    exact ⟨_, if_pos hn, h.rows, rfl, h.current, h.past, h.undone, h.back, h.onward, h.bound⟩
  | resize hrows hcols =>
    exact ⟨_, if_pos ⟨hrows, hcols⟩, rfl, rfl, h.current, h.past, h.undone, h.back, h.onward,
      h.bound⟩

/-- The archive refuses what the document refuses. -/
lemma Follows.refuses (h : d.Follows a) {f : Failure} (href : d.Refuses o f) :
    a.perform? o = none := by
  cases href with
  | commit hp =>
    refine if_neg ?_
    rw [h.rows, h.cols]
    exact hp
  | undo hpast =>
    have hgrids := h.past
    rw [hpast, List.map_nil, Move.passed] at hgrids
    rw [Archive.perform?, hgrids]
  | redo hfuture =>
    have hgrids := h.undone
    rw [hfuture, List.map_nil, Move.passed] at hgrids
    rw [Archive.perform?, hgrids]
  | setRows hn => exact if_neg hn
  | setCols hn => exact if_neg hn
  | resizeRows hrows => exact if_neg fun hsize => hrows hsize.1
  | resizeCols hrows hcols => exact if_neg fun hsize => hcols hsize.2

/-! ### Sessions -/

/-- The archive follows every operation, whether it succeeds or not. -/
lemma Follows.step (h : d.Follows a) (o : Operation) : (d.step o).Follows (a.step o) := by
  rcases accepts_or_refuses d o with ⟨d', r, hacc⟩ | ⟨f, href⟩
  · obtain ⟨a', ha', hfollows⟩ := h.accepts hacc
    rw [hacc.step_eq, Archive.step, ha', Option.getD_some]
    exact hfollows
  · rw [href.step_eq, Archive.step, h.refuses href, Option.getD_none]
    exact h

/-- The archive follows a session. -/
lemma Follows.steps (h : d.Follows a) (os : List Operation) :
    (d.steps os).Follows (a.steps os) := by
  induction os generalizing d a with
  | nil => exact h
  | cons o os ih => exact ih (h.step o)

/-- An empty archive follows a fresh document. -/
lemma follows_fresh {rows cols : ℕ} (h : ofSize rows cols = .ok d) :
    d.Follows (Archive.fresh rows cols) := by
  obtain ⟨-, -, rfl⟩ := ofSize_eq_ok_iff.mp h
  exact ⟨rfl, rfl, rfl, rfl, rfl, .nil _, .nil _, Nat.zero_le 100⟩

/-- A document takes exactly the operations that its archive takes. -/
lemma Follows.performs_iff (h : d.Follows a) :
    (∃ d' r, d.perform o = .ok (d', r)) ↔ ∃ a', a.perform? o = some a' := by
  constructor
  · rintro ⟨d', r, hok⟩
    obtain ⟨a', ha', -⟩ := h.accepts (perform_eq_ok_iff.mp hok)
    exact ⟨a', ha'⟩
  · rintro ⟨a', ha'⟩
    rcases accepts_or_refuses d o with ⟨d', r, hacc⟩ | ⟨f, href⟩
    · exact ⟨d', r, hacc.perform_eq⟩
    · rw [h.refuses href] at ha'
      cases ha'

lemma Follows.past_eq_nil_iff (h : d.Follows a) : a.past = [] ↔ d.past = [] := by
  rw [h.past, ← List.length_eq_zero_iff, Move.length_passed, List.length_map,
    List.length_eq_zero_iff]

lemma Follows.undone_eq_nil_iff (h : d.Follows a) : a.undone = [] ↔ d.future = [] := by
  rw [h.undone, ← List.length_eq_zero_iff, Move.length_passed, List.length_map,
    List.length_eq_zero_iff]

/-- Over every session a document behaves like the archive of its size.  They hold the same grid and
take the same operations, and an undo or a redo fails exactly if the archive has no grid for it. -/
theorem steps_follow_archive {rows cols : ℕ} {d : Document} (h : ofSize rows cols = .ok d)
    (os : List Operation) :
    (d.steps os).grid.get? = ((Archive.fresh rows cols).steps os).current ∧
      (∀ o, (∃ d' r, (d.steps os).perform o = .ok (d', r)) ↔
        ∃ a', ((Archive.fresh rows cols).steps os).perform? o = some a') ∧
      (∀ f, (d.steps os).undo = .error f ↔
        f = .nothingToUndo ∧ ((Archive.fresh rows cols).steps os).past = []) ∧
      (∀ f, (d.steps os).redo = .error f ↔
        f = .nothingToRedo ∧ ((Archive.fresh rows cols).steps os).undone = []) := by
  have hfollows := (follows_fresh h).steps os
  refine ⟨hfollows.current.symm, fun o => hfollows.performs_iff, fun f => ?_, fun f => ?_⟩
  · rw [hfollows.past_eq_nil_iff, undo]
    cases (d.steps os).past with
    | nil => simp [eq_comm]
    | cons c past => simp
  · rw [hfollows.undone_eq_nil_iff, redo]
    cases (d.steps os).future with
    | nil => simp [eq_comm]
    | cons c future => simp

/-- A document of one cell and its archive. -/
theorem steps_follow_archive_of_one_cell :
    ofSize 1 1 = .ok { blank with rows := 1, cols := 1 } ∧
      (Document.steps { blank with rows := 1, cols := 1 }
          [.commit ⟨0, 0⟩ "=A1", .undo, .redo]).grid.get? =
        ((Archive.fresh 1 1).steps [.commit ⟨0, 0⟩ "=A1", .undo, .redo]).current := by
  have h : ofSize 1 1 = .ok { blank with rows := 1, cols := 1 } := rfl
  exact ⟨h, (steps_follow_archive h [.commit ⟨0, 0⟩ "=A1", .undo, .redo]).1⟩

end Document

end Worksheet
