import Mathlib
import Worksheet.Proofs.Document.Soundness
import Worksheet.Proofs.Document.Transition

/-!
# The size decides only what may be edited

A transcript lists the operations of a session with what each of them told.  Some of its entries
concern the size of the document: the changes of size, and the commits that were refused because
their cell was outside.  `transcript_without_sizes` says that a session without these operations, on
a largest sheet, tells the same and leaves the same values and the same history.  So nothing else
depends on the size: a change is taken back outside the sheet as well as inside it, and a formula
reads what is hidden.

The two sessions are in step all the time: the document of the second one is that of the first one
with the largest size (`widened`).  It accepts what the first one accepts because a session never
leaves the largest sheet.
-/

namespace Worksheet.Document

/-- What an operation tells, its reply or its failure. -/
def told (d : Document) (o : Operation) : Except Failure Reply := (d.perform o).map Prod.snd

/-- The operations of a session in order, each with what it tells. -/
def transcript (d : Document) : List Operation → List (Operation × Except Failure Reply)
  | [] => []
  | o :: os => (o, d.told o) :: (d.step o).transcript os

/-- Whether an entry of a transcript is about a change of size, or about a commit that was
refused. -/
def concernsSize : Operation × Except Failure Reply → Bool
  | (.commit _ _, .error _) => true
  | (.setRows _, _) | (.setCols _, _) | (.resize _ _, _) => true
  | _ => false

/-- A document with the largest size in place of its own. -/
def widened (d : Document) : Document := { d with rows := 10000, cols := 26 }

variable {d d' : Document} {o : Operation} {r : Reply} {f : Failure}

/-! ### One operation -/

lemma Accepts.told_eq (h : d.Accepts o d' r) : d.told o = .ok r := by
  rw [told, h.perform_eq]
  rfl

lemma Refuses.told_eq (h : d.Refuses o f) : d.told o = .error f := by
  rw [told, h.perform_eq]
  rfl

/-- What is accepted and does not concern the size is accepted by the widened document too, with
the same reply. -/
lemma Accepts.widened (h : d.Accepts o d' r) (hd : d.Sound)
    (ho : concernsSize (o, .ok r) = false) : d.widened.Accepts o d'.widened r := by
  cases h with
  | commit hp => exact .commit (hd.inRange hp)
  | undo hpast => exact .undo hpast
  | redo hfuture => exact .redo hfuture
  | setRows | setCols | resize => cases ho

/-- What is refused for another reason than the size is refused by the widened document too. -/
lemma Refuses.widened (h : d.Refuses o f) (ho : concernsSize (o, .error f) = false) :
    d.widened.Refuses o f := by
  cases h with
  | undo hpast => exact .undo hpast
  | redo hfuture => exact .redo hfuture
  | commit | setRows | setCols | resizeRows | resizeCols => cases ho

/-- An operation that does not concern the size does the same to the widened document. -/
lemma Sound.widened (hd : d.Sound) (ho : concernsSize (o, d.told o) = false) :
    d.widened.told o = d.told o ∧ d.widened.step o = (d.step o).widened := by
  rcases accepts_or_refuses d o with ⟨d', r, hacc⟩ | ⟨f, href⟩
  · rw [hacc.told_eq] at ho
    have hwide := hacc.widened hd ho
    rw [hwide.told_eq, hacc.told_eq, hwide.step_eq, hacc.step_eq]
    exact ⟨rfl, rfl⟩
  · rw [href.told_eq] at ho
    have hwide := href.widened ho
    rw [hwide.told_eq, href.told_eq, hwide.step_eq, href.step_eq]
    exact ⟨rfl, rfl⟩

/-- An operation that concerns the size changes nothing but the size, if it changes anything. -/
lemma widened_step (ho : concernsSize (o, d.told o) = true) : (d.step o).widened = d.widened := by
  rcases accepts_or_refuses d o with ⟨d', r, hacc⟩ | ⟨f, href⟩
  · rw [hacc.told_eq] at ho
    rw [hacc.step_eq]
    cases hacc with
    | setRows | setCols | resize => rfl
    | commit | undo | redo => cases ho
  · rw [href.step_eq]

/-! ### Sessions -/

lemma Sound.step (hd : d.Sound) (o : Operation) : (d.step o).Sound := hd.steps [o]

/-- The widened document goes through the operations that do not concern the size in step with the
document itself. -/
lemma Sound.transcript_widened (hd : d.Sound) (os : List Operation) :
    let kept := (d.transcript os).filter fun entry => !concernsSize entry
    d.widened.transcript (kept.map Prod.fst) = kept ∧
      d.widened.steps (kept.map Prod.fst) = (d.steps os).widened := by
  induction os generalizing d with
  | nil => exact ⟨rfl, rfl⟩
  | cons o os ih =>
    obtain ⟨htranscript, hsteps⟩ := ih (hd.step o)
    rw [transcript, steps_cons]
    cases ho : concernsSize (o, d.told o) with
    | true =>
      rw [widened_step ho] at htranscript hsteps
      rw [List.filter_cons_of_neg (by simp [ho])]
      exact ⟨htranscript, hsteps⟩
    | false =>
      obtain ⟨htold, hstep⟩ := hd.widened ho
      rw [List.filter_cons_of_pos (by simp [ho])]
      dsimp only
      rw [List.map_cons, transcript, steps_cons, htold, hstep]
      exact ⟨congrArg _ htranscript, hsteps⟩

/-- A session from a fresh document of any size loses nothing but its size when the changes of size
and the refused commits are left out and the rest is performed on a fresh document of the largest
size: every operation that is left tells the same, and in the end the grid, the history in both
directions and the mark of modification are the same. -/
theorem transcript_without_sizes {rows cols : ℕ} {d full : Document}
    (h : ofSize rows cols = .ok d) (hfull : ofSize 10000 26 = .ok full) (os : List Operation) :
    let kept := (d.transcript os).filter fun entry => !concernsSize entry
    let left := full.steps (kept.map Prod.fst)
    full.transcript (kept.map Prod.fst) = kept ∧ left.grid = (d.steps os).grid ∧
      left.past = (d.steps os).past ∧ left.future = (d.steps os).future ∧
      left.modified = (d.steps os).modified := by
  intro kept left
  have hwide : d.widened = full := by
    obtain ⟨-, -, rfl⟩ := ofSize_eq_ok_iff.mp h
    obtain ⟨-, -, rfl⟩ := ofSize_eq_ok_iff.mp hfull
    rfl
  obtain ⟨htranscript, hsteps⟩ := (sound_of_ofSize h).transcript_widened os
  rw [hwide] at htranscript hsteps
  have hleft : left = (d.steps os).widened := hsteps
  rw [hleft]
  exact ⟨htranscript, rfl, rfl, rfl, rfl⟩

/-- A cell is filled, hidden, read by a formula and emptied again while it is hidden.  On a largest
sheet the same happens without the change of size that hides it and without the commits and sizes
that are refused. -/
theorem transcript_without_sizes_of_hidden_cell :
    ofSize 2 2 = .ok { blank with rows := 2, cols := 2 } ∧
      ofSize 10000 26 = .ok { blank with rows := 10000, cols := 26 } ∧
      let d : Document := { blank with rows := 2, cols := 2 }
      let full : Document := { blank with rows := 10000, cols := 26 }
      let os : List Operation := [.commit ⟨1, 1⟩ "7", .resize 1 1, .commit ⟨1, 1⟩ "8",
        .commit ⟨0, 0⟩ "=B2", .undo, .undo, .undo, .setRows 0]
      let rest : List Operation :=
        [.commit ⟨1, 1⟩ "7", .commit ⟨0, 0⟩ "=B2", .undo, .undo, .undo]
      full.transcript rest = (d.transcript os).filter (fun entry => !concernsSize entry) ∧
        (full.steps rest).future = (d.steps os).future := by
  have h : ofSize 2 2 = .ok { blank with rows := 2, cols := 2 } :=
    ofSize_eq_ok_iff.mpr ⟨by decide, by decide, rfl⟩
  have hfull : ofSize 10000 26 = .ok { blank with rows := 10000, cols := 26 } :=
    ofSize_eq_ok_iff.mpr ⟨by decide, by decide, rfl⟩
  refine ⟨h, hfull, ?_⟩
  intro d full os rest
  have hrest : ((d.transcript os).filter fun entry => !concernsSize entry).map Prod.fst = rest := by
    decide +kernel
  obtain ⟨htranscript, -, -, hfuture, -⟩ := transcript_without_sizes h hfull os
  rw [hrest] at htranscript hfuture
  exact ⟨htranscript, hfuture⟩

end Worksheet.Document
