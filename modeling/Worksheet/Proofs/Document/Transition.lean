import Mathlib
import Worksheet.Document.Operation

/-!
# What an operation can do to a document

`Document.Accepts` lists all that an operation can do when it succeeds and `Document.Refuses` all
the reasons for which it can fail, each with its guard.  `perform_eq_ok_iff` and
`perform_eq_error_iff` show that the two lists are complete and exact, so that whatever is said
about operations is a case analysis over them.

`steps_induction` carries a property over a whole session: it is enough that it survives an
operation that succeeds.
-/

namespace Worksheet.Document

/-- An operation succeeds on a document, with the document that it leaves and its reply. -/
inductive Accepts (d : Document) : Operation → Document → Reply → Prop
  | commit {p : Position} {input : String} (h : d.Contains p) :
      Accepts d (.commit p input) (d.enter p input).1 (.stored (d.enter p input).2)
  | undo {c : Change} {past : List Change} (h : d.past = c :: past) :
      Accepts d .undo
        { d with
          grid := d.grid.restore c.position c.before
          modified := true
          past := past
          future := c :: d.future }
        (.changed c.position)
  | redo {c : Change} {future : List Change} (h : d.future = c :: future) :
      Accepts d .redo
        { d with
          grid := d.grid.restore c.position c.after
          modified := true
          past := c :: d.past
          future := future }
        (.changed c.position)
  | setRows {n : ℕ} (h : 1 ≤ n ∧ n ≤ 10000) : Accepts d (.setRows n) { d with rows := n } .resized
  | setCols {n : ℕ} (h : 1 ≤ n ∧ n ≤ 26) : Accepts d (.setCols n) { d with cols := n } .resized
  | resize {rows cols : ℕ} (hrows : 1 ≤ rows ∧ rows ≤ 10000) (hcols : 1 ≤ cols ∧ cols ≤ 26) :
      Accepts d (.resize rows cols) { d with rows := rows, cols := cols } .resized

/-- An operation fails on a document, with its failure. -/
inductive Refuses (d : Document) : Operation → Failure → Prop
  | commit {p : Position} {input : String} (h : ¬ d.Contains p) :
      Refuses d (.commit p input) (.outOfBounds p d.rows d.cols)
  | undo (h : d.past = []) : Refuses d .undo .nothingToUndo
  | redo (h : d.future = []) : Refuses d .redo .nothingToRedo
  | setRows {n : ℕ} (h : ¬ (1 ≤ n ∧ n ≤ 10000)) : Refuses d (.setRows n) (.badCount .row n)
  | setCols {n : ℕ} (h : ¬ (1 ≤ n ∧ n ≤ 26)) : Refuses d (.setCols n) (.badCount .column n)
  | resizeRows {rows cols : ℕ} (h : ¬ (1 ≤ rows ∧ rows ≤ 10000)) :
      Refuses d (.resize rows cols) (.badCount .row rows)
  /-- The columns are looked at only after the rows. -/
  | resizeCols {rows cols : ℕ} (hrows : 1 ≤ rows ∧ rows ≤ 10000) (h : ¬ (1 ≤ cols ∧ cols ≤ 26)) :
      Refuses d (.resize rows cols) (.badCount .column cols)

/-! ### Sizes -/

section Size

variable {d d' : Document} {n rows cols : ℕ}

/-- A row count from one to ten thousand is taken. -/
lemma setRows_of_allowed (h : 1 ≤ n ∧ n ≤ 10000) : d.setRows n = .ok { d with rows := n } :=
  if_pos h

/-- Any other row count is refused. -/
lemma setRows_of_not_allowed (h : ¬ (1 ≤ n ∧ n ≤ 10000)) :
    d.setRows n = .error (.badCount .row n) :=
  if_neg h

/-- A column count from one to twenty-six is taken. -/
lemma setCols_of_allowed (h : 1 ≤ n ∧ n ≤ 26) : d.setCols n = .ok { d with cols := n } :=
  if_pos h

/-- Any other column count is refused. -/
lemma setCols_of_not_allowed (h : ¬ (1 ≤ n ∧ n ≤ 26)) :
    d.setCols n = .error (.badCount .column n) :=
  if_neg h

/-- After a good row count the columns decide about a size. -/
lemma resize_of_rows_allowed (hrows : 1 ≤ rows ∧ rows ≤ 10000) :
    d.resize rows cols = { d with rows := rows }.setCols cols := by
  rw [resize, setRows_of_allowed hrows]
  rfl

/-- A bad row count decides about a size by itself. -/
lemma resize_of_rows_not_allowed (h : ¬ (1 ≤ rows ∧ rows ≤ 10000)) :
    d.resize rows cols = .error (.badCount .row rows) := by
  rw [resize, setRows_of_not_allowed h]
  rfl

/-- A fresh document is empty and has an allowed size. -/
theorem ofSize_eq_ok_iff :
    ofSize rows cols = .ok d ↔
      (1 ≤ rows ∧ rows ≤ 10000) ∧ (1 ≤ cols ∧ cols ≤ 26) ∧
        d = { blank with rows := rows, cols := cols } := by
  unfold ofSize
  by_cases hrows : 1 ≤ rows ∧ rows ≤ 10000
  · rw [resize_of_rows_allowed hrows]
    by_cases hcols : 1 ≤ cols ∧ cols ≤ 26
    · rw [setCols_of_allowed hcols, Except.ok.injEq]
      simp only [hrows, hcols, and_self, true_and]
      exact eq_comm
    · rw [setCols_of_not_allowed hcols]
      simp only [hcols, reduceCtorEq, false_and, and_false]
  · rw [resize_of_rows_not_allowed hrows]
    simp only [hrows, reduceCtorEq, false_and]

end Size

/-! ### One operation -/

variable {d d' : Document} {o : Operation} {r : Reply} {f : Failure}

/-- An accepted operation leaves the document and gives the reply of its case. -/
lemma Accepts.perform_eq (h : d.Accepts o d' r) : d.perform o = .ok (d', r) := by
  cases h with
  | commit h => rw [perform, Document.commit, if_pos h]; rfl
  | undo h => rw [perform, Document.undo, h]; rfl
  | redo h => rw [perform, Document.redo, h]; rfl
  | setRows h => rw [perform, setRows_of_allowed h]; rfl
  | setCols h => rw [perform, setCols_of_allowed h]; rfl
  | resize hrows hcols =>
    rw [perform, resize_of_rows_allowed hrows, setCols_of_allowed hcols]; rfl

/-- A refused operation gives the failure of its case. -/
lemma Refuses.perform_eq (h : d.Refuses o f) : d.perform o = .error f := by
  cases h with
  | commit h => rw [perform, Document.commit, if_neg h]; rfl
  | undo h => rw [perform, Document.undo, h]; rfl
  | redo h => rw [perform, Document.redo, h]; rfl
  | setRows h => rw [perform, setRows_of_not_allowed h]; rfl
  | setCols h => rw [perform, setCols_of_not_allowed h]; rfl
  | resizeRows h => rw [perform, resize_of_rows_not_allowed h]; rfl
  | resizeCols hrows h =>
    rw [perform, resize_of_rows_allowed hrows, setCols_of_not_allowed h]; rfl

/-- Every operation is accepted or refused. -/
lemma accepts_or_refuses (d : Document) (o : Operation) :
    (∃ d' r, d.Accepts o d' r) ∨ ∃ f, d.Refuses o f := by
  cases o with
  | commit p input =>
    by_cases h : d.Contains p
    · exact Or.inl ⟨_, _, .commit h⟩
    · exact Or.inr ⟨_, .commit h⟩
  | undo =>
    cases h : d.past with
    | nil => exact Or.inr ⟨_, .undo h⟩
    | cons c past => exact Or.inl ⟨_, _, .undo h⟩
  | redo =>
    cases h : d.future with
    | nil => exact Or.inr ⟨_, .redo h⟩
    | cons c future => exact Or.inl ⟨_, _, .redo h⟩
  | setRows n =>
    by_cases h : 1 ≤ n ∧ n ≤ 10000
    · exact Or.inl ⟨_, _, .setRows h⟩
    · exact Or.inr ⟨_, .setRows h⟩
  | setCols n =>
    by_cases h : 1 ≤ n ∧ n ≤ 26
    · exact Or.inl ⟨_, _, .setCols h⟩
    · exact Or.inr ⟨_, .setCols h⟩
  | resize rows cols =>
    by_cases hrows : 1 ≤ rows ∧ rows ≤ 10000
    · by_cases hcols : 1 ≤ cols ∧ cols ≤ 26
      · exact Or.inl ⟨_, _, .resize hrows hcols⟩
      · exact Or.inr ⟨_, .resizeCols hrows hcols⟩
    · exact Or.inr ⟨_, .resizeRows hrows⟩

/-- No operation makes a document larger than is allowed. -/
lemma Accepts.size_le (h : d.Accepts o d' r) (hrows : d.rows ≤ 10000) (hcols : d.cols ≤ 26) :
    d'.rows ≤ 10000 ∧ d'.cols ≤ 26 := by
  cases h with
  | setRows hn => exact ⟨hn.2, hcols⟩
  | setCols hn => exact ⟨hrows, hn.2⟩
  | resize hrows' hcols' => exact ⟨hrows'.2, hcols'.2⟩
  | _ => exact ⟨hrows, hcols⟩

/-- An operation succeeds exactly in the ways that are listed. -/
theorem perform_eq_ok_iff : d.perform o = .ok (d', r) ↔ d.Accepts o d' r := by
  refine ⟨fun h => ?_, Accepts.perform_eq⟩
  rcases accepts_or_refuses d o with ⟨e, s, hacc⟩ | ⟨f, href⟩
  · rw [hacc.perform_eq, Except.ok.injEq, Prod.mk.injEq] at h
    obtain ⟨rfl, rfl⟩ := h
    exact hacc
  · rw [href.perform_eq] at h
    cases h

/-- An operation fails exactly for the reasons that are listed. -/
theorem perform_eq_error_iff : d.perform o = .error f ↔ d.Refuses o f := by
  refine ⟨fun h => ?_, Refuses.perform_eq⟩
  rcases accepts_or_refuses d o with ⟨e, s, hacc⟩ | ⟨g, href⟩
  · rw [hacc.perform_eq] at h
    cases h
  · rw [href.perform_eq, Except.error.injEq] at h
    exact h ▸ href

/-- A commit that succeeds is an accepted operation, and so are the others below. -/
lemma accepts_of_commit {p : Position} {input : String} {v : Value}
    (h : d.commit p input = .ok (d', v)) : d.Accepts (.commit p input) d' (.stored v) :=
  perform_eq_ok_iff.mp (by rw [perform, h]; rfl)

lemma accepts_of_undo {p : Position} (h : d.undo = .ok (d', p)) :
    d.Accepts .undo d' (.changed p) :=
  perform_eq_ok_iff.mp (by rw [perform, h]; rfl)

lemma accepts_of_redo {p : Position} (h : d.redo = .ok (d', p)) :
    d.Accepts .redo d' (.changed p) :=
  perform_eq_ok_iff.mp (by rw [perform, h]; rfl)

lemma accepts_of_setRows {n : ℕ} (h : d.setRows n = .ok d') : d.Accepts (.setRows n) d' .resized :=
  perform_eq_ok_iff.mp (by rw [perform, h]; rfl)

lemma accepts_of_setCols {n : ℕ} (h : d.setCols n = .ok d') : d.Accepts (.setCols n) d' .resized :=
  perform_eq_ok_iff.mp (by rw [perform, h]; rfl)

/-! ### Sessions -/

/-- An accepted operation steps to the document that it leaves. -/
lemma Accepts.step_eq (h : d.Accepts o d' r) : d.step o = d' := by
  rw [step, h.perform_eq]

/-- A refused operation leaves the document as it was. -/
lemma Refuses.step_eq (h : d.Refuses o f) : d.step o = d := by
  rw [step, h.perform_eq]

/-- Operations are performed from the first one on. -/
@[simp] lemma steps_cons (d : Document) (o : Operation) (os : List Operation) :
    d.steps (o :: os) = (d.step o).steps os := rfl

/-- A property that survives every operation that succeeds survives a session. -/
theorem steps_induction {P : Document → Prop}
    (hstep : ∀ {d o d' r}, P d → d.Accepts o d' r → P d') {d : Document} (h : P d)
    (os : List Operation) : P (d.steps os) := by
  induction os generalizing d with
  | nil => exact h
  | cons o os ih =>
    rw [steps_cons]
    refine ih ?_
    rcases accepts_or_refuses d o with ⟨d', r, hacc⟩ | ⟨f, href⟩
    · rw [hacc.step_eq]
      exact hstep h hacc
    · rw [href.step_eq]
      exact h

end Worksheet.Document
