import Mathlib
import Worksheet.Proofs.Cell.Name
import Worksheet.Proofs.Document.Soundness

/-!
# Reading a cell by its name

A formula that is the name of a cell, in capitals or small letters, shows what is stored there, and
so does one that goes on with an operator and a right side that does not refer (`preview_name`).

Names are written with as many letters as the column needs, but a formula reads one letter only, so
`=AA1` would read `A1`.  That this never hides a cell is owed to the invariant of a session: nothing
is ever stored outside the first twenty-six columns, also after the sheet has become smaller.
-/

namespace Worksheet

variable {p : Position} {name : List Char}

/-- In the first twenty-six columns a name in any casing is a letter with the digits of the row. -/
lemma exists_letter_of_map_toUpper (hp : p.InRange) (h : name.map Char.toUpper = p.nameChars) :
    ∃ c, name = c :: Text.digits (p.row + 1) ∧ c.toUpper = capital p.col := by
  rw [Position.nameChars_of_lt hp.2, List.map_eq_cons_iff] at h
  obtain ⟨c, ds, rfl, hc, hds⟩ := h
  refine ⟨c, ?_, hc⟩
  have hsame : ∀ d ∈ ds, d.toUpper = d := by
    intro d hd
    have hmem : d.toUpper ∈ Text.digits (p.row + 1) := by
      rw [← hds]
      exact List.mem_map_of_mem hd
    exact toUpper_eq_of_isDigit (Text.isDigit_of_mem_digits hmem)
  rw [← hds, List.map_congr_left hsame, List.map_id']

lemma pointsAt_of_map_toUpper (hp : p.InRange) (h : name.map Char.toUpper = p.nameChars) :
    PointsAt name p := by
  obtain ⟨c, rfl, hc⟩ := exists_letter_of_map_toUpper hp h
  have hupper : c.toUpper.isUpper = true := hc ▸ isUpper_capital hp.2
  have hletter : c.isAlpha = true := by rw [← Char.isUpper_toUpper_eq_isAlpha, hupper]
  have hfind : Reference.find? (c :: (Text.digits (p.row + 1) ++ [])) =
      some ⟨c.toUpper, Text.digits (p.row + 1)⟩ :=
    Reference.find?_letter_digits hletter (Text.digits_ne_nil (p.row + 1))
      (fun d hd => Text.isDigit_of_mem_digits hd) (by simp)
  rw [List.append_nil, hc] at hfind
  have hrow : Text.word? (Text.digits (p.row + 1)) = some (p.row + 1) := by
    refine Text.word?_digits ?_
    have hlt : p.row < 10000 := hp.1
    change p.row + 1 < 2 ^ 64
    omega
  refine pointsAt_iff.mpr ⟨_, hfind, ?_⟩
  have hcol : (capital p.col).toNat - 'A'.toNat = p.col := by
    rw [toNat_capital hp.2]
    exact Nat.add_sub_cancel_left 65 p.col
  simp only [Reference.position?, hrow, hcol]

lemma not_mem_chars_of_map_toUpper (h : name.map Char.toUpper = p.nameChars) :
    ∀ c ∈ name, c ∉ Operator.chars := by
  intro c hc hop
  have hmem : c.toUpper ∈ p.nameChars := by
    rw [← h]
    exact List.mem_map_of_mem hc
  have halnum : c.toUpper.isAlphanum = true := Position.isAlphanum_of_mem_nameChars hmem
  simp only [Operator.chars, List.mem_cons, List.not_mem_nil, or_false] at hop
  rcases hop with rfl | rfl | rfl | rfl <;> exact absurd halnum (by decide)

/-- A formula that starts with a name, and goes on with nothing or with an operator and a right side
that does not refer, shows what is stored under that name. -/
lemma result_of_name (hp : p.InRange) (h : name.map Char.toUpper = p.nameChars) {rest : List Char}
    (hrest : rest = [] ∨ ∃ (o : Operator) (text : List Char), rest = o.toChar :: text ∧
      ¬ Refers (text.takeWhile fun c => c ∉ ['+', '-', '*', '/'])) (look : Lookup) :
    (Formula.ofBody (name ++ rest)).result look = .ok ((look p).getD .empty) := by
  have hpoints : PointsAt name p := pointsAt_of_map_toUpper hp h
  have hplain := not_mem_chars_of_map_toUpper h
  rcases hrest with rfl | ⟨o, text, rfl, htext⟩
  · rw [List.append_nil, Formula.ofBody_of_plain hplain]
    refine Formula.result_of_pointsAt hpoints ?_ look
    rintro ⟨o, r, hstep, -⟩
    cases hstep
  · rw [Formula.ofBody_operator o hplain, Formula.operandOf_eq_takeWhile]
    refine Formula.result_of_pointsAt hpoints ?_ look
    rintro ⟨o', r, hstep, hr⟩
    obtain ⟨-, rfl⟩ := Prod.mk.inj (Option.some.inj hstep)
    exact htext hr

namespace Document

/-- In every document of a session a stored cell can be read by its own name: a formula that is
this name in any casing, and goes on with nothing or with an operator and a right side that does
not refer, shows exactly the stored value. -/
theorem preview_name {rows cols : ℕ} {d : Document} (h : ofSize rows cols = .ok d)
    (os : List Operation) {p : Position} {v : Value} (hv : (d.steps os).get? p = some v)
    {name rest : String} (hname : name.toUpper = p.name)
    (hrest : rest = "" ∨ ∃ (o : Operator) (text : List Char),
      rest.toList = o.toChar :: text ∧ ¬ Refers (text.takeWhile fun c => c ∉ ['+', '-', '*', '/'])) :
    (d.steps os).preview ("=" ++ name ++ rest) = v := by
  have hp : p.InRange := (((sound_of_ofSize h).steps os).grid p v hv).1
  have hchars : name.toList.map Char.toUpper = p.nameChars := by
    rw [← String.toList_map, ← String.toUpper, hname, p.toList_name]
  have hbody : ("=" ++ name ++ rest).toList.tail = name.toList ++ rest.toList := by
    rw [String.toList_append, String.toList_append]
    rfl
  have hempty : rest = "" → rest.toList = [] := by
    rintro rfl
    rfl
  have hstored : (d.steps os).grid.get? p = some v := hv
  rw [preview, Formula.evaluate, hbody, result_of_name hp hchars (hrest.imp_left hempty), hstored,
    Option.getD_some, Value.ofResult]

/-- After a sheet has lost its second column, `=b1*-A1` still shows the marker that is stored in
it: the right side ends at the second operator. -/
theorem preview_name_outside :
    ofSize 2 2 = .ok { blank with rows := 2, cols := 2 } ∧
      (Document.steps { blank with rows := 2, cols := 2 }
        [.commit ⟨0, 1⟩ "=1/0", .setCols 1]).get? ⟨0, 1⟩ = some (.fault .divisionByZero) ∧
      "b1".toUpper = (⟨0, 1⟩ : Position).name ∧
      (Document.steps { blank with rows := 2, cols := 2 }
        [.commit ⟨0, 1⟩ "=1/0", .setCols 1]).preview ("=" ++ "b1" ++ "*-A1") =
          .fault .divisionByZero := by
  have h : ofSize 2 2 = .ok { blank with rows := 2, cols := 2 } :=
    ofSize_eq_ok_iff.mpr ⟨by decide, by decide, rfl⟩
  have hstored : (Document.steps { blank with rows := 2, cols := 2 }
      [.commit ⟨0, 1⟩ "=1/0", .setCols 1]).get? ⟨0, 1⟩ = some (.fault .divisionByZero) := by
    decide +kernel
  have hname : "b1".toUpper = (⟨0, 1⟩ : Position).name := by decide +kernel
  refine ⟨h, hstored, hname, preview_name h _ hstored hname (Or.inr ?_)⟩
  exact ⟨.mul, ['-', 'A', '1'], by decide, not_refers_nil⟩

end Document

end Worksheet
