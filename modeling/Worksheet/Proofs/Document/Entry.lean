import Mathlib
import Worksheet.Proofs.Cell.Grid
import Worksheet.Proofs.Document.Transition
import Worksheet.Proofs.Formula.Footprint

/-!
# What entering an input stores

An input is staged: its raw text lands in the cell, and if it is a formula it is evaluated over the
grid that already holds this text.  `commit_staging` is the main statement.  Staging is invisible
unless the formula points at its own cell.  If it does, it can only copy its own text or fail, since
a text that starts with an equals sign is never read as a number (`read?_equals`).  Whatever the
input, nothing but its cell changes, and the history takes one change that spans both writes.
-/

namespace Worksheet

/-- The value that entering an input at a position leaves there. -/
def Lookup.entered (look : Lookup) (p : Position) (input : String) : Value :=
  if Document.isFormula input then
    .ofResult (Formula.evaluate (Function.update look p (some (.text input))) input.toList)
  else .text input

/-- A side of a formula points at a cell. -/
def Formula.PointsAt (f : Formula) (p : Position) : Prop := ∃ cs ∈ f.sides, Worksheet.PointsAt cs p

instance (f : Formula) (p : Position) : Decidable (f.PointsAt p) :=
  inferInstanceAs (Decidable (∃ cs ∈ f.sides, Worksheet.PointsAt cs p))

/-- There is a right side, and it refers. -/
def Formula.RightRefers (f : Formula) : Prop := ∃ o r, f.step = some (o, r) ∧ Refers r

/-- A formula whose left side alone refers shows what is stored where it points. -/
lemma Formula.result_of_pointsAt {f : Formula} {p : Position} (hl : Worksheet.PointsAt f.left p)
    (hr : ¬ f.RightRefers) (look : Lookup) : f.result look = .ok ((look p).getD .empty) := by
  obtain ⟨ref, href⟩ := hl.refers.exists_find?
  obtain ⟨l, step⟩ := f
  cases step with
  | none => simp only [Formula.result, Operand.ofChars, href, hl.fetch_eq href]
  | some step =>
    obtain ⟨o, r⟩ := step
    have hplain : ¬ Refers r := fun hrefers => hr ⟨o, r, rfl, hrefers⟩
    rw [Formula.result_copy href hplain, hl.fetch_eq href]

/-! ### The parts of the document after an entry -/

namespace Document

variable (d : Document) (p : Position) (input : String)

lemma enter_snd : (d.enter p input).2 = Lookup.entered d.grid.get? p input := by
  rw [Lookup.entered, ← Grid.get?_insert_eq_update]
  rfl

/-- The two writes of an entry amount to one write of the value that it leaves. -/
lemma get?_enter :
    (d.enter p input).1.grid.get? =
      Function.update d.grid.get? p (some (Lookup.entered d.grid.get? p input)) := by
  rw [← enter_snd]
  simp only [enter, Grid.get?_insert_eq_update, Function.update_idem]

lemma past_enter :
    (d.enter p input).1.past =
      remember d.past ⟨p, d.get? p, some (Lookup.entered d.grid.get? p input)⟩ := by
  rw [← enter_snd]
  rfl

/-- The history takes one more change.  If it is full it loses the oldest for it. -/
lemma remember_eq (past : List Change) (c : Change) :
    remember past c = c :: (if past.length < 100 then past else past.dropLast) := by
  unfold remember pastLimit
  by_cases h : past.length < 100
  · have hroom : ¬ 100 < (c :: past).length := by rw [List.length_cons]; omega
    rw [if_neg hroom, if_pos h]
  · have hfull : 100 < (c :: past).length := by rw [List.length_cons]; omega
    have hne : past ≠ [] := by
      rintro rfl
      exact h (by decide)
    rw [if_pos hfull, if_neg h, List.dropLast_cons_of_ne_nil hne]

end Document

/-! ### Formulas over their own text -/

section Staging

variable {look : Lookup} {p : Position} {input : String} {body : List Char}

/-- No number starts with an equals sign. -/
lemma Numeral.read?_equals (cs : List Char) : read? ('=' :: cs) = none := by
  simp [read?, scan?, Sign.scan, Unsigned.scan?, Unsigned.infinityWord, Unsigned.scanFraction,
    isSpace, List.dropWhile]

lemma isFormula_iff : Document.isFormula input = true ↔ ∃ body, input.toList = '=' :: body := by
  rw [Document.isFormula, beq_iff_eq, List.head?_eq_some_iff]

/-- What entering a formula leaves is its result over the staged grid. -/
lemma entered_formula (h : input.toList = '=' :: body) :
    look.entered p input =
      .ofResult ((Formula.ofBody body).result (Function.update look p (some (.text input)))) := by
  rw [Lookup.entered, if_pos (isFormula_iff.mpr ⟨body, h⟩), Formula.evaluate, h, List.tail_cons]

/-- A side that points at the cell being filled finds a text there that is no number. -/
lemma number?_staged (h : input.toList = '=' :: body) {cs : List Char} (hcs : PointsAt cs p) :
    (Operand.ofChars cs).number? (Function.update look p (some (.text input))) = none := by
  rw [hcs.number?_eq, Function.update_self, Option.getD_some, Value.number?, h,
    Numeral.read?_equals]

/-- A formula that does not point at its own cell does not notice the staging. -/
lemma entered_of_not_pointsAt (h : input.toList = '=' :: body)
    (hp : ¬ (Formula.ofBody body).PointsAt p) :
    look.entered p input = .ofResult (Formula.evaluate look input.toList) := by
  have hframe : ∀ cs ∈ (Formula.ofBody body).sides, ∀ q, PointsAt cs q →
      Function.update look p (some (.text input)) q = look q := by
    intro cs hcs q hq
    have hne : q ≠ p := by
      rintro rfl
      exact hp ⟨cs, hcs, hq⟩
    rw [Function.update_of_ne hne]
  rw [entered_formula h, Formula.result_congr hframe, Formula.evaluate, h, List.tail_cons]

/-- A formula that copies its own cell leaves its text there. -/
lemma entered_of_copy (h : input.toList = '=' :: body)
    (hl : PointsAt (Formula.ofBody body).left p) (hr : ¬ (Formula.ofBody body).RightRefers) :
    look.entered p input = .text input := by
  rw [entered_formula h, Formula.result_of_pointsAt hl hr, Function.update_self, Option.getD_some,
    Value.ofResult]

/-- A formula that computes with its own cell fails, since it would have to read its own text as a
number. -/
lemma entered_of_compute (h : input.toList = '=' :: body)
    (hp : (Formula.ofBody body).PointsAt p)
    (hcopy : ¬ (PointsAt (Formula.ofBody body).left p ∧ ¬ (Formula.ofBody body).RightRefers)) :
    look.entered p input = .fault .invalid := by
  rw [entered_formula h]
  obtain ⟨cs, hcs, hcsp⟩ := hp
  cases hstep : (Formula.ofBody body).step with
  | none =>
    -- without an operator the only side is the left one, and it would be copied
    have hleft : cs = (Formula.ofBody body).left := by simpa [Formula.sides, hstep] using hcs
    refine absurd ⟨hleft ▸ hcsp, ?_⟩ hcopy
    rintro ⟨o, r, hsome, -⟩
    rw [hstep] at hsome
    cases hsome
  | some step =>
    obtain ⟨o, r⟩ := step
    have hcut : Formula.ofBody body = ⟨(Formula.ofBody body).left, some (o, r)⟩ := by rw [← hstep]
    have hside : cs = (Formula.ofBody body).left ∨ cs = r := by
      simpa [Formula.sides, hstep] using hcs
    have hrefers : Refers r := by
      rcases hside with rfl | rfl
      · by_contra hr
        refine hcopy ⟨hcsp, ?_⟩
        rintro ⟨o', r', hsome, hr'⟩
        rw [hstep] at hsome
        obtain ⟨-, rfl⟩ := Prod.mk.inj (Option.some.inj hsome)
        exact hr hr'
      · exact hcsp.refers
    have hmissing : (Operand.ofChars (Formula.ofBody body).left).number?
          (Function.update look p (some (.text input))) = none ∨
        (Operand.ofChars r).number? (Function.update look p (some (.text input))) = none := by
      rcases hside with rfl | rfl
      · exact Or.inl (number?_staged h hcsp)
      · exact Or.inr (number?_staged h hcsp)
    rw [hcut, (Formula.combines_result fun _ => hrefers).unique (.missing hmissing),
      Value.ofResult]

end Staging

/-! ### Commits -/

/-- A commit into a cell that is offered succeeds.  It stores what a preview shows, unless the
formula points at its own cell: then it stores its own text if it copies itself, and otherwise the
marker for an invalid formula.  Any other text is stored as it is.  No other cell changes, nothing
can be redone any more, and the newest change leads from the value before the staging to the one
that is stored. -/
theorem commit_staging {d : Document} {p : Position} (hp : d.Contains p) (input : String) :
    ∃ d' v, d.commit p input = .ok (d', v) ∧
      (∀ body, input.toList = '=' :: body →
        (¬ (Formula.ofBody body).PointsAt p → v = d.preview input) ∧
        (PointsAt (Formula.ofBody body).left p → ¬ (Formula.ofBody body).RightRefers →
          v = .text input) ∧
        ((Formula.ofBody body).PointsAt p →
          ¬ (PointsAt (Formula.ofBody body).left p ∧ ¬ (Formula.ofBody body).RightRefers) →
          v = .fault .invalid)) ∧
      (input.toList.head? ≠ some '=' → v = .text input) ∧
      d'.get? p = some v ∧ (∀ q, q ≠ p → d'.get? q = d.get? q) ∧ d'.future = [] ∧
      d'.past = ⟨p, d.get? p, some v⟩ ::
        (if d.past.length < 100 then d.past else d.past.dropLast) := by
  refine ⟨(d.enter p input).1, Lookup.entered d.grid.get? p input, ?_, ?_, ?_, ?_, ?_, rfl, ?_⟩
  · rw [Document.commit, if_pos hp, ← d.enter_snd]
  · intro body h
    exact ⟨entered_of_not_pointsAt h, entered_of_copy h, entered_of_compute h⟩
  · intro h
    have htext : Document.isFormula input = false := by
      rw [Bool.eq_false_iff, Ne, Document.isFormula, beq_iff_eq]
      exact h
    rw [Lookup.entered, if_neg (by rw [htext]; decide)]
  · rw [Document.get?, d.get?_enter, Function.update_self]
  · intro q hq
    rw [Document.get?, d.get?_enter, Function.update_of_ne hq]
    rfl
  · rw [d.past_enter, Document.remember_eq]

/-- In an empty document `=B1+A1` fails in the first cell: its right side is its own text. -/
theorem commit_own_cell_on_the_right :
    Document.blank.Contains ⟨0, 0⟩ ∧
      ∃ d', Document.blank.commit ⟨0, 0⟩ "=B1+A1" = .ok (d', .fault .invalid) := by
  have hp : Document.blank.Contains ⟨0, 0⟩ := by decide
  refine ⟨hp, ?_⟩
  obtain ⟨d', v, hcommit, hformula, -⟩ := commit_staging hp "=B1+A1"
  have hright : PointsAt ['A', '1'] ⟨0, 0⟩ :=
    pointsAt_iff.mpr ⟨⟨'A', ['1']⟩, by decide, by decide⟩
  have hcut : Formula.ofBody ['B', '1', '+', 'A', '1'] =
      ⟨['B', '1'], some (.add, ['A', '1'])⟩ := by decide
  obtain ⟨-, -, hself⟩ := hformula ['B', '1', '+', 'A', '1'] (by decide)
  rw [hcut] at hself
  have hv : v = .fault .invalid := by
    refine hself ⟨['A', '1'], by decide, hright⟩ ?_
    rintro ⟨-, hplain⟩
    exact hplain ⟨.add, ['A', '1'], rfl, hright.refers⟩
  exact ⟨d', hv ▸ hcommit⟩

end Worksheet
