import Mathlib
import Worksheet.Proofs.Text.Runs
import Worksheet.Text.Blank

/-!
# Cutting a text into words

`words_append` takes the first word off a text: a run of characters that are not blank, up to the
next blank or to the end.  No word has a blank in it (`isBlank_of_mem_words`), and a text without
blanks is left alone by trimming (`trim_of_not_blank`).
-/

namespace Worksheet.Text

variable {cs w : List Char}

lemma words_of_dropWhile_nil (h : cs.dropWhile isBlank = []) : words cs = [] := by
  rw [words]
  split
  · rfl
  · next h' => rw [h] at h'; cases h'

/-- The first word of a text starts at its first character that is not blank. -/
lemma words_of_dropWhile_cons {c : Char} {rest : List Char}
    (h : cs.dropWhile isBlank = c :: rest) :
    words cs = (c :: rest.takeWhile fun d => !isBlank d) ::
      words (rest.dropWhile fun d => !isBlank d) := by
  rw [words]
  split
  · next h' => rw [h] at h'; cases h'
  · next h' =>
    rw [h] at h'
    obtain ⟨rfl, rfl⟩ := List.cons.inj h'
    rfl

lemma words_nil : words [] = [] := words_of_dropWhile_nil rfl

lemma words_cons_blank {c : Char} (h : isBlank c = true) (cs : List Char) :
    words (c :: cs) = words cs := by
  have hdrop : (c :: cs).dropWhile isBlank = cs.dropWhile isBlank := List.dropWhile_cons_of_pos h
  cases hcs : cs.dropWhile isBlank with
  | nil => rw [words_of_dropWhile_nil (hdrop.trans hcs), words_of_dropWhile_nil hcs]
  | cons d rest =>
    rw [words_of_dropWhile_cons (hdrop.trans hcs), words_of_dropWhile_cons hcs]

/-- A run without blanks in front of a blank, or of the end, is the first word. -/
lemma words_append (hne : w ≠ []) (hw : ∀ c ∈ w, isBlank c = false)
    (hcs : ∀ c ∈ cs.head?, isBlank c = true) : words (w ++ cs) = w :: words cs := by
  obtain ⟨c, w, rfl⟩ := List.exists_cons_of_ne_nil hne
  obtain ⟨hc, hw⟩ := List.forall_mem_cons.mp hw
  have hrun : ∀ d ∈ w, (!isBlank d) = true := by
    intro d hd
    rw [hw d hd]
    rfl
  have hstart : (c :: (w ++ cs)).dropWhile isBlank = c :: (w ++ cs) :=
    List.dropWhile_cons_of_neg (by rw [hc]; decide)
  have hstop : ∀ d ∈ cs.head?, (!isBlank d) = false := by
    intro d hd
    rw [hcs d hd]
    rfl
  rw [List.cons_append, words_of_dropWhile_cons hstart, takeWhile_run hrun hstop,
    dropWhile_run hrun hstop]

/-- A text without blanks is the only word in it. -/
lemma words_of_not_blank (hne : w ≠ []) (hw : ∀ c ∈ w, isBlank c = false) : words w = [w] := by
  have h : words (w ++ []) = w :: words [] := words_append hne hw (by simp)
  rwa [List.append_nil, words_nil] at h

/-- There are no blanks in a word. -/
lemma isBlank_of_mem_words (h : w ∈ words cs) : ∀ c ∈ w, isBlank c = false := by
  fun_induction words cs with
  | case1 cs hcs => cases h
  | case2 cs c rest hcs hrest ih =>
    rcases List.mem_cons.mp h with rfl | h
    · have hc : isBlank c = false := by
        have hhead := List.head?_dropWhile_not isBlank cs
        rw [hcs] at hhead
        simpa using hhead
      refine List.forall_mem_cons.mpr ⟨hc, fun d hd => ?_⟩
      simpa using List.mem_takeWhile_imp hd
    · exact ih h

/-- There is nothing to trim off a text without blanks. -/
lemma trim_of_not_blank (hw : ∀ c ∈ w, isBlank c = false) : trim w = w := by
  have hstart : ∀ l : List Char, (∀ c ∈ l, isBlank c = false) → l.dropWhile isBlank = l := by
    intro l hl
    cases l with
    | nil => rfl
    | cons c l => exact List.dropWhile_cons_of_neg (by simp [hl c])
  rw [trim, hstart w hw, hstart w.reverse (by simpa using hw), List.reverse_reverse]

end Worksheet.Text
