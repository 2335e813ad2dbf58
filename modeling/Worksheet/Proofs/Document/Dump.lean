import Mathlib
import Worksheet.Document.Dump
import Worksheet.Proofs.Cell.Key
import Worksheet.Proofs.Document.Listing
import Worksheet.Proofs.Text.Pieces
import Worksheet.Proofs.Text.Runs

/-!
# Dumps are read back

`read?` is a reader of dumps that knows nothing about the document: it cuts the text into lines,
each line at its first tab, reads the key and undoes the escapes.  `render_lossless` says that it
gets the stored cells with the texts that they show, in order and each of them once, so a dump tells
all that can be seen of a document.

The two separators do not occur inside the parts that they separate, because the escapes of a line
feed and of a tab are written with other characters.  Escaping is done in one pass; the three
replacements of `escape_eq_replace`, one after the other, have the same effect only in that order,
with the backslash first.
-/

namespace Worksheet.Dump

/-! ### Reading a dump -/

/-- The character that is escaped by a backslash and the given one. -/
def unescapeChar? : Char → Option Char
  | '\\' => some '\\'
  | 'n' => some '\n'
  | 't' => some '\t'
  | _ => none

/-- Undoes the escapes of a text from left to right; a backslash without an escape is refused. -/
def unescape? : List Char → Option (List Char)
  | [] => some []
  | ['\\'] => none
  | '\\' :: e :: cs => (unescapeChar? e).bind fun c => (unescape? cs).map (c :: ·)
  | c :: cs => (unescape? cs).map (c :: ·)

/-- Reads a line: the key of a cell up to the first tab, and an escaped text behind it. -/
def readLine? (line : List Char) : Option (Position × String) :=
  match line.dropWhile (· != '\t') with
  | [] => none
  | _ :: text =>
    (Position.ofKeyChars? (line.takeWhile (· != '\t'))).bind fun p =>
      (unescape? text).map fun cs => (p, String.ofList cs)

/-- Reads a dump: every line is a cell, and nothing stands behind the last line feed. -/
def read? (dump : String) : Option (List (Position × String)) :=
  match Text.cutLines dump.toList with
  | (lines, []) => lines.mapM readLine?
  | (_, _ :: _) => none

/-! ### Escapes -/

lemma escape_cons (c : Char) (cs : List Char) : escape (c :: cs) = escapeChar c ++ escape cs :=
  List.flatMap_cons

/-- What stands for a character is read back as the character. -/
lemma unescape?_escapeChar (c : Char) (cs : List Char) :
    unescape? (escapeChar c ++ cs) = (unescape? cs).map (c :: ·) := by
  unfold escapeChar
  split
  · rfl
  · rfl
  · rfl
  · next hslash _ _ =>
    rw [List.singleton_append, unescape?]
    · exact fun h _ => hslash h
    · exact fun _ _ h _ => hslash h

/-- Undoing the escapes of a text gives the text. -/
theorem unescape?_escape (cs : List Char) : unescape? (escape cs) = some cs := by
  induction cs with
  | nil => rfl
  | cons c cs ih =>
    rw [escape_cons, unescape?_escapeChar, ih, Option.map_some]

/-- Escaping replaces the backslashes, then the line feeds, then the tabs. -/
theorem escape_eq_replace (cs : List Char) :
    escape cs = Text.replace '\t' ['\\', 't']
      (Text.replace '\n' ['\\', 'n'] (Text.replace '\\' ['\\', '\\'] cs)) := by
  simp only [escape, Text.replace, List.flatMap_assoc]
  refine congrArg (cs.flatMap ·) (funext fun c => ?_)
  unfold escapeChar
  split
  · rfl
  · rfl
  · rfl
  · next hslash hfeed htab =>
    rw [if_neg hslash, List.flatMap_singleton, if_neg hfeed, List.flatMap_singleton, if_neg htab]

/-- An escaped text has no line feed and no tab. -/
lemma ne_separator_of_mem_escape {c : Char} {cs : List Char} (h : c ∈ escape cs) :
    c ≠ '\n' ∧ c ≠ '\t' := by
  obtain ⟨d, -, hd⟩ := List.mem_flatMap.mp h
  unfold escapeChar at hd
  split at hd
  · simp only [List.mem_cons, List.not_mem_nil, or_false, or_self] at hd
    exact hd ▸ by decide
  · simp only [List.mem_cons, List.not_mem_nil, or_false] at hd
    rcases hd with rfl | rfl <;> decide
  · simp only [List.mem_cons, List.not_mem_nil, or_false] at hd
    rcases hd with rfl | rfl <;> decide
  · next _ hfeed htab =>
    rw [List.mem_singleton] at hd
    exact hd ▸ ⟨hfeed, htab⟩

/-! ### Lines -/

section Lines

variable {p : Position} {v : Value}

/-- The key in a line has no separator. -/
lemma ne_separator_of_mem_keyChars {c : Char} (h : c ∈ p.keyChars) : c ≠ '\n' ∧ c ≠ '\t' := by
  rcases Position.isDigit_of_mem_keyChars h with h | rfl
  · constructor <;> rintro rfl <;> cases h
  · decide

/-- A line is ended by the first line feed behind it. -/
lemma not_mem_line (p : Position) (v : Value) : '\n' ∉ line p v := by
  intro h
  rw [line, List.mem_append, List.mem_cons] at h
  rcases h with h | h | h
  · exact (ne_separator_of_mem_keyChars h).1 rfl
  · cases h
  · exact (ne_separator_of_mem_escape h).1 rfl

/-- A line is read as its cell and the text that the cell shows. -/
lemma readLine?_line (hp : p.IsWord) : readLine? (line p v) = some (p, v.display) := by
  have htab : '\t' ∉ p.keyChars := fun h => (ne_separator_of_mem_keyChars h).2 rfl
  have htake : (line p v).takeWhile (· != '\t') = p.keyChars := Text.takeWhile_separator htab _
  have hdrop : (line p v).dropWhile (· != '\t') = '\t' :: escape v.display.toList :=
    Text.dropWhile_separator htab _
  rw [readLine?, hdrop, htake]
  simp only [Position.ofKeyChars?_keyChars hp, unescape?_escape, Option.bind_some, Option.map_some,
    String.ofList_toList]

end Lines

/-! ### Whole dumps -/

variable {d : Document}

/-- A dump is read as the listing of the stored cells. -/
lemma read?_render (h : ∀ p v, d.get? p = some v → p.IsWord) :
    read? (render d) = some (d.entries.map fun e => (e.1, e.2.display)) := by
  have hchars : (render d).toList =
      (d.entries.map fun e => line e.1 e.2).flatMap (· ++ ['\n']) := by
    rw [render, String.toList_ofList, chars, List.flatMap_map]
  have hlines : ∀ l ∈ d.entries.map fun e => line e.1 e.2, '\n' ∉ l := by
    intro l hl
    obtain ⟨e, -, rfl⟩ := List.mem_map.mp hl
    exact not_mem_line e.1 e.2
  have hread : ∀ e ∈ d.entries, readLine? (line e.1 e.2) = some (e.1, e.2.display) := by
    intro e he
    exact readLine?_line (h e.1 e.2 (Grid.mem_entries_iff.mp he))
  rw [read?, hchars, Text.cutLines_flatMap hlines]
  exact Text.mapM_map_some hread

/-- The listing of the stored cells has the text that each of them shows. -/
lemma mem_map_entries_iff {p : Position} {s : String} :
    (p, s) ∈ (d.entries.map fun e => (e.1, e.2.display)) ↔
      ∃ v, d.get? p = some v ∧ v.display = s := by
  rw [List.mem_map]
  constructor
  · rintro ⟨e, he, heq⟩
    obtain ⟨rfl, rfl⟩ := Prod.mk.inj heq
    exact ⟨e.2, Grid.mem_entries_iff.mp he, rfl⟩
  · rintro ⟨v, hv, rfl⟩
    exact ⟨(p, v), Grid.mem_entries_iff.mpr hv, rfl⟩

/-- The dump of a document is read back as its stored cells with the texts that they show, each of
them once and in row-major order.  Documents with the same dump therefore store the same cells, and
show the same texts in them. -/
theorem render_lossless (h : ∀ p v, d.get? p = some v → p.IsWord) :
    ∃ cells, read? (render d) = some cells ∧ (cells.Pairwise fun a b => a.1 < b.1) ∧
      (∀ p s, (p, s) ∈ cells ↔ ∃ v, d.get? p = some v ∧ v.display = s) ∧
      ∀ d' : Document, (∀ p v, d'.get? p = some v → p.IsWord) → render d' = render d →
        ∀ p, (d'.get? p).map Value.display = (d.get? p).map Value.display := by
  refine ⟨_, read?_render h, List.pairwise_map.mpr d.grid.pairwise_entries,
    fun _ _ => mem_map_entries_iff, ?_⟩
  intro d' h' hrender p
  have hcells := read?_render h'
  rw [hrender, read?_render h, Option.some.injEq] at hcells
  refine Option.ext fun s => ?_
  rw [Option.map_eq_some_iff, Option.map_eq_some_iff, ← mem_map_entries_iff,
    ← mem_map_entries_iff, hcells]

/-- A text that is made of the three escaped characters is read back from the dump of a document
into which it has been entered. -/
theorem render_lossless_of_separators :
    (∀ p v, (Document.blank.enter ⟨0, 0⟩ "\\\n\t").1.get? p = some v → p.IsWord) ∧
      ∃ cells, read? (render (Document.blank.enter ⟨0, 0⟩ "\\\n\t").1) = some cells ∧
        (cells.Pairwise fun a b => a.1 < b.1) ∧
        ∀ p s, (p, s) ∈ cells ↔ p = ⟨0, 0⟩ ∧ s = "\\\n\t" := by
  have hget : ∀ p, (Document.blank.enter ⟨0, 0⟩ "\\\n\t").1.get? p =
      if p = ⟨0, 0⟩ then some (.text "\\\n\t") else none := by
    intro p
    have hvalue : Document.isFormula "\\\n\t" = false := by decide
    simp only [Document.enter, Document.get?, hvalue, Bool.false_eq_true, if_false,
      Grid.get?_insert]
    split <;> rfl
  have hword : ∀ p v, (Document.blank.enter ⟨0, 0⟩ "\\\n\t").1.get? p = some v → p.IsWord := by
    intro p v hv
    rw [hget, Option.ite_none_right_eq_some] at hv
    rw [hv.1]
    exact ⟨by decide, by decide⟩
  obtain ⟨cells, hread, hsorted, hmem, -⟩ := render_lossless hword
  refine ⟨hword, cells, hread, hsorted, fun p s => (hmem p s).trans ?_⟩
  rw [hget]
  by_cases hp : p = ⟨0, 0⟩
  · simp [hp, Value.display, eq_comm]
  · simp [hp]

end Worksheet.Dump
