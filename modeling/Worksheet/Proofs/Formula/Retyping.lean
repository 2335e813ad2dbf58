import Mathlib
import Worksheet.Proofs.Document.Soundness
import Worksheet.Proofs.Number.Display

/-!
# Values and the texts that they show

A cell shows a number, an error marker or nothing at all in the same way as it shows a text, and a
reader of the sheet cannot tell which of them is stored.  `display_evaluate_of_retypes` says that
formulas cannot tell either: over a grid in which values have been typed in again as the texts that
they show, every formula shows the result that it showed before.

The relation that is carried through a formula is `Value.Alike`.  Two alike values show the same
text, which is all that a copy hands on, and stand for the same number, which is all that the
arithmetic sees.
-/

namespace Worksheet

/-- A value stands in a cell, or the text that it shows stands there in its place.  A negative zero
shows a text without its sign, so it is not replaced. -/
inductive Value.Retypes : Value → Value → Prop
  | same (v : Value) : Retypes v v
  | shown {v : Value} (h : v ≠ .number (-0)) : Retypes v (.text v.display)

/-- The same cells are stored in two grids, and in the second one some of the values have been
replaced by the texts that they show. -/
def Grid.Retypes (g g' : Grid) : Prop := ∀ p, Option.Rel Value.Retypes (g.get? p) (g'.get? p)

/-! ### Values that cannot be told apart -/

namespace Value

/-- Two values show the same text and stand for the same number. -/
structure Alike (v w : Value) : Prop where
  display : v.display = w.display
  number? : v.number? = w.number?

variable {v w : Value}

lemma Alike.refl (v : Value) : v.Alike v := ⟨rfl, rfl⟩

/-- The text that a finite value shows stands for the number of the value. -/
theorem number?_text_display (hfinite : v.IsFinite) (hzero : v ≠ .number (-0)) :
    (text v.display).number? = v.number? := by
  cases v with
  | empty => rfl
  | text s => rfl
  | fault f => cases f <;> rfl
  | number x =>
    obtain ⟨hnan, hinf⟩ := hfinite x rfl
    have hx : x ≠ -0 := fun h => hzero (congrArg number h)
    obtain ⟨n, hform, hchars, hvalue⟩ := Number.exists_numeral_displayChars hnan hinf hx
    have htext : (Number.display x).toList = n.chars := by
      rw [hchars, Number.display, String.toList_ofList]
    change Numeral.read? (Number.display x).toList = some x
    rw [htext, Numeral.read?_chars hform, hvalue]

/-- A finite value and the text that it shows are alike. -/
lemma Retypes.alike (h : Retypes v w) (hfinite : v.IsFinite) : v.Alike w := by
  cases h with
  | same => exact Alike.refl v
  | shown hzero => exact ⟨rfl, (number?_text_display hfinite hzero).symm⟩

/-- Alike entries are read as alike values. -/
lemma alike_getD {a b : Option Value} (h : Option.Rel Alike a b) :
    (a.getD .empty).Alike (b.getD .empty) := by
  cases h with
  | none => exact Alike.refl _
  | some hvw => exact hvw

end Value

/-! ### Formulas over alike cells -/

section Formulas

variable {look look' : Lookup}

/-- Look-ups of alike cells fetch alike values. -/
lemma fetch_alike (h : ∀ p, Option.Rel Value.Alike (look p) (look' p)) (r : Reference) :
    (look.fetch r).Alike (look'.fetch r) := by
  unfold Lookup.fetch
  cases r.position? with
  | none => exact Value.Alike.refl _
  | some p => exact Value.alike_getD (h p)

/-- Over alike cells a side of a formula stands for the same number. -/
lemma number?_alike (h : ∀ p, Option.Rel Value.Alike (look p) (look' p)) (side : Operand) :
    side.number? look = side.number? look' := by
  cases side with
  | cell r => exact (fetch_alike h r).number?
  | literal cs => rfl

/-- Over alike cells a formula shows the same result: a copy hands on an alike value, and equal
numbers are combined into equal results. -/
theorem Formula.display_result_alike (h : ∀ p, Option.Rel Value.Alike (look p) (look' p))
    (f : Formula) :
    (Value.ofResult (f.result look)).display = (Value.ofResult (f.result look')).display := by
  obtain ⟨l, step⟩ := f
  cases step with
  | none =>
    cases href : Reference.find? l with
    | none => simp only [result, Operand.ofChars, href]
    | some ref =>
      simp only [result, Operand.ofChars, href, Value.ofResult]
      exact (fetch_alike h ref).display
  | some step =>
    obtain ⟨o, r⟩ := step
    by_cases hcompute : Refers l → Refers r
    · have hcombines : o.Combines ((Operand.ofChars l).number? look)
          ((Operand.ofChars r).number? look) (result look ⟨l, some (o, r)⟩) :=
        combines_result hcompute
      rw [number?_alike h, number?_alike h] at hcombines
      rw [hcombines.unique (combines_result hcompute)]
    · rw [Classical.not_imp] at hcompute
      obtain ⟨ref, href⟩ := hcompute.1.exists_find?
      rw [result_copy href hcompute.2, result_copy href hcompute.2]
      exact (fetch_alike h ref).display

end Formulas

/-! ### Whole grids -/

namespace Grid

variable {g g' : Grid}

/-- The cells of a grid with finite numbers are alike those of a grid in which values have been
typed in again. -/
lemma Retypes.alike (h : g.Retypes g') (hfinite : ∀ p v, g.get? p = some v → v.IsFinite)
    (p : Position) : Option.Rel Value.Alike (g.get? p) (g'.get? p) := by
  have hp := h p
  have hvalue := hfinite p
  generalize g.get? p = a at hp hvalue
  generalize g'.get? p = b at hp
  cases hp with
  | none => exact .none
  | some hvw => exact .some (hvw.alike (hvalue _ rfl))

/-- Every formula shows the same result over a grid with finite numbers as over any grid in which
some of the values, none of them a negative zero, have been replaced by the texts that they show. -/
theorem display_evaluate_of_retypes (hfinite : ∀ p v, g.get? p = some v → v.IsFinite)
    (h : g.Retypes g') (formula : List Char) :
    (Value.ofResult (Formula.evaluate g.get? formula)).display =
      (Value.ofResult (Formula.evaluate g'.get? formula)).display :=
  Formula.display_result_alike (h.alike hfinite) (Formula.ofBody formula.tail)

/-- A tenth may be stored as a number or as the text that it shows: half of it is the same. -/
theorem display_evaluate_of_retypes_tenth :
    (∀ p v, (empty.insert ⟨0, 0⟩ (.number 0.1)).get? p = some v → v.IsFinite) ∧
      (empty.insert ⟨0, 0⟩ (.number 0.1)).Retypes (empty.insert ⟨0, 0⟩ (.text "0.1")) ∧
      (Value.ofResult (Formula.evaluate (empty.insert ⟨0, 0⟩ (.number 0.1)).get?
          "=0.5*A1".toList)).display =
        (Value.ofResult (Formula.evaluate (empty.insert ⟨0, 0⟩ (.text "0.1")).get?
          "=0.5*A1".toList)).display := by
  have hfinite : ∀ p v, (empty.insert ⟨0, 0⟩ (.number 0.1)).get? p = some v → v.IsFinite := by
    intro p v hv
    rw [get?_insert] at hv
    split at hv
    · rw [← Option.some.inj hv]
      exact Value.isFinite_number (by decide)
    · cases hv
  have hshown : Value.Retypes (.number 0.1) (.text "0.1") := by
    have hdisplay : (Value.number 0.1).display = "0.1" := by decide +kernel
    rw [← hdisplay]
    exact .shown (by decide)
  have hretypes : (empty.insert ⟨0, 0⟩ (.number 0.1)).Retypes
      (empty.insert ⟨0, 0⟩ (.text "0.1")) := by
    intro p
    rw [get?_insert, get?_insert]
    split
    · exact .some hshown
    · exact .none
  exact ⟨hfinite, hretypes, display_evaluate_of_retypes hfinite hretypes _⟩

end Grid

end Worksheet
