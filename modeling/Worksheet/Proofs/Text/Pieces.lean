import Mathlib

/-!
# Cutting a text into pieces, and escapes

A text that is made of lines, or of fields, is cut behind the characters that end them.  Whether a
character ends a piece may depend on the character before it, so that an end can be masked: `cut` is
told both.

`cut_flatMap` is the law for writers.  Pieces that are written one after the other, each with the
character that ends it, are what the text is cut into, with nothing left over, as long as no piece
ends early (`IsPiece`).

A writer keeps the separators out of its pieces by escapes: `replace` puts a text in the place of a
character, everywhere.
-/

namespace Worksheet.Text

/-- Cuts a text behind the characters that end a piece: the pieces without these characters, and
what is left behind the last of them.  `before` is the character in front of the text, and
`ends b c` tells whether `c` ends a piece behind `b`. -/
def cut (ends : Char → Char → Bool) (before : Char) : List Char → List (List Char) × List Char
  | [] => ([], [])
  | c :: cs =>
    let (pieces, rest) := cut ends c cs
    if ends before c then ([] :: pieces, rest)
    else match pieces with
      | [] => ([], c :: rest)
      | piece :: pieces => ((c :: piece) :: pieces, rest)

/-- The lines of a text that are ended by a line feed, and what stands behind the last of them. -/
def cutLines (cs : List Char) : List (List Char) × List Char := cut (fun _ c => c == '\n') '\n' cs

/-- A piece behind a character: none of its characters ends it, and the separator behind it does. -/
inductive IsPiece (ends : Char → Char → Bool) (separator : Char) : Char → List Char → Prop
  | nil {before : Char} (h : ends before separator = true) : IsPiece ends separator before []
  | cons {before c : Char} {cs : List Char} (h : ends before c = false)
      (hcs : IsPiece ends separator c cs) : IsPiece ends separator before (c :: cs)

section Cut

variable {ends : Char → Char → Bool} {separator before : Char} {piece : List Char}

/-- The first piece of a text is cut off at its separator. -/
lemma IsPiece.cut_append (h : IsPiece ends separator before piece) (cs : List Char) :
    cut ends before (piece ++ separator :: cs) =
      (piece :: (cut ends separator cs).1, (cut ends separator cs).2) := by
  induction h with
  | nil h => simp only [List.nil_append, cut, h, if_true]
  | cons h _ ih =>
    rw [List.cons_append, cut, ih, h]
    rfl

/-- A text of pieces with their separators is cut into these pieces, and nothing is left over. -/
theorem cut_flatMap {pieces : List (List Char)}
    (h : ∀ piece ∈ pieces, IsPiece ends separator separator piece) :
    cut ends separator (pieces.flatMap (· ++ [separator])) = (pieces, []) := by
  induction pieces with
  | nil => rfl
  | cons piece pieces ih =>
    obtain ⟨hpiece, hpieces⟩ := List.forall_mem_cons.mp h
    rw [List.flatMap_cons, List.append_assoc, List.singleton_append, hpiece.cut_append, ih hpieces]

/-- Where only the separator ends a piece, a piece is a text without it. -/
lemma isPiece_of_not_mem (h : separator ∉ piece) (before : Char) :
    IsPiece (fun _ c => c == separator) separator before piece := by
  induction piece generalizing before with
  | nil => exact .nil (beq_self_eq_true separator)
  | cons c cs ih =>
    rw [List.mem_cons, not_or] at h
    exact .cons (beq_eq_false_iff_ne.mpr (Ne.symm h.1)) (ih h.2 c)

end Cut

/-- Lines that are ended by line feeds are read back. -/
theorem cutLines_flatMap {lines : List (List Char)} (h : ∀ line ∈ lines, '\n' ∉ line) :
    cutLines (lines.flatMap (· ++ ['\n'])) = (lines, []) :=
  cut_flatMap fun line hline => isPiece_of_not_mem (h line hline) '\n'

/-- Pieces are read one by one, and if each of them can be read, so can all of them. -/
lemma mapM_map_some {α β γ : Type} {l : List α} {write : α → β} {read? : β → Option γ}
    {content : α → γ} (h : ∀ a ∈ l, read? (write a) = some (content a)) :
    (l.map write).mapM read? = some (l.map content) := by
  induction l with
  | nil => rfl
  | cons a l ih =>
    obtain ⟨ha, hl⟩ := List.forall_mem_cons.mp h
    rw [List.map_cons, List.mapM_cons, ha, ih hl]
    rfl

/-- A text with another text in the place of every occurrence of a character. -/
def replace (old : Char) (new cs : List Char) : List Char :=
  cs.flatMap fun c => if c = old then new else [c]

end Worksheet.Text
