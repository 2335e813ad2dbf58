import Mathlib

/-!
# Runs of one class of characters

Readers take the longest run of characters of one class from the start of a text.  A run in front of
a character of another class, or of the end, is taken whole and nothing else is taken with it.
-/

namespace Worksheet.Text

variable {p : Char → Bool} {run rest : List Char}

/-- A run is taken up to the character that ends it. -/
lemma takeWhile_run (hrun : ∀ c ∈ run, p c = true) (hrest : ∀ c ∈ rest.head?, p c = false) :
    (run ++ rest).takeWhile p = run := by
  have hstop : rest.takeWhile p = [] := by
    cases rest with
    | nil => rfl
    | cons c rest => exact List.takeWhile_cons_of_neg (by simp [hrest c rfl])
  rw [List.takeWhile_append_of_pos hrun, hstop, List.append_nil]

/-- What is left behind a run starts with the character that ends it. -/
lemma dropWhile_run (hrun : ∀ c ∈ run, p c = true) (hrest : ∀ c ∈ rest.head?, p c = false) :
    (run ++ rest).dropWhile p = rest := by
  have hstop : rest.dropWhile p = rest := by
    cases rest with
    | nil => rfl
    | cons c rest => exact List.dropWhile_cons_of_neg (by simp [hrest c rfl])
  rw [List.dropWhile_append_of_pos hrun, hstop]

section Separator

variable {separator : Char}

lemma bne_separator_of_mem (h : separator ∉ run) : ∀ c ∈ run, (c != separator) = true := by
  intro c hc
  rw [bne_iff_ne]
  rintro rfl
  exact h hc

lemma bne_separator_of_mem_head? (rest : List Char) :
    ∀ c ∈ (separator :: rest).head?, (c != separator) = false := by
  intro c hc
  obtain rfl := Option.some.inj hc
  exact bne_self_eq_false separator

/-- What stands before the first separator is taken. -/
lemma takeWhile_separator (h : separator ∉ run) (rest : List Char) :
    (run ++ separator :: rest).takeWhile (· != separator) = run :=
  takeWhile_run (bne_separator_of_mem h) (bne_separator_of_mem_head? rest)

/-- The rest starts with the first separator. -/
lemma dropWhile_separator (h : separator ∉ run) (rest : List Char) :
    (run ++ separator :: rest).dropWhile (· != separator) = separator :: rest :=
  dropWhile_run (bne_separator_of_mem h) (bne_separator_of_mem_head? rest)

end Separator

end Worksheet.Text
