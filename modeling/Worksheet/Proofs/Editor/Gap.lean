import Mathlib
import Worksheet.Editor.Field

/-!
# Text fields as gaps

A text field keeps its cursor as a number of bytes, and its characters have one to four of them.
What it stands for is a gap between two texts, the characters before and those after the cursor.
`Gap.press` says what a key does to the gap, without any numbers.  `press_field` shows that a field
whose cursor stands between two characters follows its gap, and so the cursor of such a field always
stands between two characters.

To take a text apart at an offset inside a character, or behind its end, is a mistake.
`Text.splitBytes?` refuses to, and `Field.press?` handles a key by taking texts apart at offsets
alone.  `press?_field` shows that nothing is ever refused.
-/

namespace Worksheet

/-! ### Taking texts apart at offsets -/

namespace Text

/-- The characters before and after a byte offset, if it stands between two characters. -/
def splitBytes? : ℕ → List Char → Option (List Char × List Char)
  | 0, cs => some ([], cs)
  | _ + 1, [] => none
  | n + 1, c :: cs =>
    if c.utf8Size ≤ n + 1 then
      (splitBytes? (n + 1 - c.utf8Size) cs).map fun (before, after) => (c :: before, after)
    else none

/-- A text without the characters between two offsets. -/
def removeBytes? (start stop : ℕ) (cs : List Char) : Option (List Char) :=
  if start ≤ stop then do
    let (before, _) ← splitBytes? start cs
    let (_, after) ← splitBytes? stop cs
    return before ++ after
  else none

/-- A text with a character at an offset. -/
def insertBytes? (n : ℕ) (c : Char) (cs : List Char) : Option (List Char) :=
  (splitBytes? n cs).map fun (before, after) => before ++ c :: after

variable {n : ℕ} {cs before after : List Char}

lemma splitBytes?_byteLength (before after : List Char) :
    splitBytes? (byteLength before) (before ++ after) = some (before, after) := by
  induction before with
  | nil => rw [byteLength_nil, List.nil_append, splitBytes?]
  | cons c cs ih =>
    obtain ⟨n, hn⟩ : ∃ n, byteLength (c :: cs) = n + 1 :=
      Nat.exists_eq_add_one.mpr (Nat.add_pos_left c.utf8Size_pos _)
    have hrest : n + 1 - c.utf8Size = byteLength cs := by
      rw [← hn, byteLength_cons, Nat.add_sub_cancel_left]
    have hle : c.utf8Size ≤ n + 1 := by rw [← hn]; exact Nat.le_add_right _ _
    rw [hn, List.cons_append, splitBytes?, if_pos hle, hrest, ih, Option.map_some]

/-- A text is taken apart exactly at the places between its characters and at its ends. -/
theorem splitBytes?_eq_some_iff :
    splitBytes? n cs = some (before, after) ↔ cs = before ++ after ∧ byteLength before = n := by
  constructor
  · intro h
    fun_induction splitBytes? n cs generalizing before with
    | case1 cs =>
      obtain ⟨rfl, rfl⟩ := Prod.mk.inj (Option.some.inj h)
      exact ⟨rfl, rfl⟩
    | case2 n => cases h
    | case3 n c cs hle ih =>
      obtain ⟨⟨before, after⟩, hsplit, hcut⟩ := Option.map_eq_some_iff.mp h
      obtain ⟨rfl, rfl⟩ := Prod.mk.inj hcut
      obtain ⟨rfl, hlength⟩ := ih hsplit
      exact ⟨rfl, by rw [byteLength_cons, hlength]; omega⟩
    | case4 n c cs hlt => cases h
  · rintro ⟨rfl, rfl⟩
    exact splitBytes?_byteLength before after

/-- The characters between two places are removed. -/
lemma removeBytes?_byteLength (before removed after : List Char) :
    removeBytes? (byteLength before) (byteLength (before ++ removed)) (before ++ removed ++ after) =
      some (before ++ after) := by
  have hle : byteLength before ≤ byteLength (before ++ removed) := by
    rw [byteLength_append]
    exact Nat.le_add_right _ _
  have hstart := splitBytes?_byteLength before (removed ++ after)
  rw [← List.append_assoc] at hstart
  rw [removeBytes?, if_pos hle, hstart, splitBytes?_byteLength]
  rfl

end Text

open Text

/-! ### Gaps -/

/-- A gap in a text. -/
structure Gap where
  /-- The characters before the gap. -/
  before : List Char
  /-- The characters after the gap. -/
  after : List Char
deriving DecidableEq, Repr

namespace Gap

/-- Moves the last character before the gap across it; there is none at the start. -/
def moveLeft (g : Gap) : Gap :=
  match g.before.getLast? with
  | some c => ⟨g.before.dropLast, c :: g.after⟩
  | none => g

/-- Moves the first character after the gap across it; there is none at the end. -/
def moveRight (g : Gap) : Gap :=
  match g.after with
  | c :: after => ⟨g.before ++ [c], after⟩
  | [] => g

/-- What a key does to a gap. -/
def press (g : Gap) (k : KeyPress) : Gap :=
  match k.key with
  | .left => g.moveLeft
  | .right => g.moveRight
  | .home => ⟨[], g.before ++ g.after⟩
  | .endKey => ⟨g.before ++ g.after, []⟩
  | .backspace => ⟨g.before.dropLast, g.after⟩
  | .delete => ⟨g.before, g.after.tail⟩
  | .char c =>
    -- shift is the only modifier that may be held down
    if { k with shift := false } = KeyPress.ofChar c then ⟨g.before ++ [c], g.after⟩ else g
  | _ => g

/-- The text field of a gap: the whole text, and the number of bytes before the gap. -/
def field (g : Gap) : Field := ⟨String.ofList (g.before ++ g.after), byteLength g.before⟩

end Gap

/-! ### Keys on offsets -/

namespace Field

/-- The offset before the character on the left of the cursor. -/
def previous? (f : Field) : Option ℕ :=
  (splitBytes? f.cursor f.text.toList).map fun (before, _) => byteLength before.dropLast

/-- The offset after the character on the right of the cursor. -/
def next? (f : Field) : Option ℕ :=
  (splitBytes? f.cursor f.text.toList).map fun (_, after) =>
    f.cursor + after.head?.elim 0 Char.utf8Size

/-- Applies a key by offsets, unless it takes the text apart at a wrong one. -/
def press? (f : Field) (k : KeyPress) : Option Field :=
  match k.key with
  | .left => f.previous?.map fun n => { f with cursor := n }
  | .right => f.next?.map fun n => { f with cursor := n }
  | .home => some { f with cursor := 0 }
  | .endKey => some { f with cursor := byteLength f.text.toList }
  | .backspace =>
    if 0 < f.cursor then do
      let start ← f.previous?
      let text ← removeBytes? start f.cursor f.text.toList
      return ⟨String.ofList text, start⟩
    else some f
  | .delete =>
    if f.cursor < byteLength f.text.toList then do
      let stop ← f.next?
      let text ← removeBytes? f.cursor stop f.text.toList
      return { f with text := String.ofList text }
    else some f
  | .char c =>
    if k.isPlain then
      (insertBytes? f.cursor c f.text.toList).map fun text =>
        ⟨String.ofList text, f.cursor + c.utf8Size⟩
    else some f
  | _ => some f

/-- The cursor stands between two characters, or at an end of the text. -/
def OnBoundary (f : Field) : Prop := IsBoundary f.text.toList f.cursor

end Field

namespace Gap

variable (g : Gap)

@[simp] lemma toList_text_field : g.field.text.toList = g.before ++ g.after :=
  String.toList_ofList

@[simp] lemma cursor_field : g.field.cursor = byteLength g.before := rfl

@[simp] lemma before_field : g.field.before = g.before := by
  rw [Field.before, toList_text_field, cursor_field, splitBytes_byteLength]

@[simp] lemma after_field : g.field.after = g.after := by
  rw [Field.after, toList_text_field, cursor_field, splitBytes_byteLength]

lemma onBoundary_field : g.field.OnBoundary :=
  ⟨g.before, g.after, g.toList_text_field, rfl⟩

lemma moveLeft_field : g.field.moveLeft = g.moveLeft.field := by
  rw [Field.moveLeft, before_field]
  obtain ⟨before, after⟩ := g
  induction before using List.reverseRecOn with
  | nil => rfl
  | append_singleton before c => simp [moveLeft, field]

lemma moveRight_field : g.field.moveRight = g.moveRight.field := by
  rw [Field.moveRight, after_field]
  obtain ⟨before, after⟩ := g
  cases after with
  | nil => rfl
  | cons c after => simp [moveRight, field]

/-- A character is inserted exactly if no modifier but shift is held down. -/
lemma isPlain_iff {k : KeyPress} {c : Char} :
    k.isPlain = true ↔ { k with key := .char c, shift := false } = KeyPress.ofChar c := by
  simp only [KeyPress.isPlain, KeyPress.ofChar, KeyPress.mk.injEq, Bool.and_eq_true,
    Bool.not_eq_true', true_and]
  tauto

/-- A text field follows its gap. -/
theorem press_field (k : KeyPress) : g.field.press k = (g.press k).field := by
  rw [Field.press, press]
  cases hk : k.key with
  | left => exact g.moveLeft_field
  | right => exact g.moveRight_field
  | home => rfl
  | endKey =>
    dsimp only
    rw [Field.moveEnd, Field.ofText, toList_text_field]
    simp only [field, List.append_nil]
  | backspace =>
    dsimp only
    rw [Field.deleteLeft, before_field, after_field, field]
  | delete =>
    dsimp only
    rw [Field.deleteRight, before_field, after_field]
    rfl
  | char c =>
    dsimp only
    by_cases hplain : k.isPlain = true
    · rw [if_pos hplain, if_pos (isPlain_iff.mp hplain), Field.insert, before_field,
        after_field, cursor_field]
      simp only [field, List.append_assoc, List.singleton_append, byteLength_append,
        byteLength_cons, byteLength_nil, Nat.add_zero]
    · rw [if_neg hplain, if_neg (isPlain_iff.not.mp hplain)]
  | _ => rfl

lemma previous?_field : g.field.previous? = some (byteLength g.before.dropLast) := by
  rw [Field.previous?, toList_text_field, cursor_field, splitBytes?_byteLength, Option.map_some]

lemma next?_field :
    g.field.next? = some (byteLength g.before + g.after.head?.elim 0 Char.utf8Size) := by
  rw [Field.next?, toList_text_field, cursor_field, splitBytes?_byteLength, Option.map_some]

/-- No key takes the text of a gap apart inside a character or behind its end. -/
theorem press?_field (k : KeyPress) : g.field.press? k = some (g.field.press k) := by
  rw [Field.press?, Field.press]
  cases hk : k.key with
  | left =>
    dsimp only
    rw [previous?_field, Option.map_some, Field.moveLeft, before_field]
  | right =>
    dsimp only
    rw [next?_field, Option.map_some, Field.moveRight, after_field, cursor_field]
  | home => rfl
  | endKey => rfl
  | backspace =>
    dsimp only
    rw [Field.deleteLeft, before_field, after_field, previous?_field, cursor_field,
      toList_text_field]
    obtain ⟨before, after⟩ := g
    induction before using List.reverseRecOn with
    | nil => rfl
    | append_singleton before removed =>
      have hpos : 0 < byteLength (before ++ [removed]) := by
        rw [byteLength_append, byteLength_cons]
        exact Nat.add_pos_right _ (Nat.add_pos_left removed.utf8Size_pos _)
      simp only [List.dropLast_concat, Option.bind_eq_bind, Option.bind_some,
        removeBytes?_byteLength]
      exact if_pos hpos
  | delete =>
    dsimp only
    rw [Field.deleteRight, before_field, after_field, next?_field, cursor_field,
      toList_text_field]
    obtain ⟨before, after⟩ := g
    cases after with
    | nil =>
      rw [List.append_nil, if_neg (lt_irrefl _)]
      simp only [List.tail_nil, field]
    | cons removed after =>
      have hlt : byteLength before < byteLength (before ++ removed :: after) := by
        rw [byteLength_append, byteLength_cons]
        exact Nat.lt_add_of_pos_right (Nat.add_pos_left removed.utf8Size_pos _)
      have hstop : byteLength before + removed.utf8Size = byteLength (before ++ [removed]) := by
        rw [byteLength_append, byteLength_cons, byteLength_nil, Nat.add_zero]
      simp only [List.head?_cons, Option.elim_some, Option.bind_eq_bind, Option.bind_some, hstop,
        List.append_cons before removed after, removeBytes?_byteLength]
      exact if_pos (List.append_cons before removed after ▸ hlt)
  | char c =>
    dsimp only
    by_cases hplain : k.isPlain = true
    · rw [if_pos hplain, if_pos hplain, insertBytes?, toList_text_field, cursor_field,
        splitBytes?_byteLength, Option.map_some, Option.map_some, Field.insert, before_field,
        after_field, cursor_field]
    · rw [if_neg hplain, if_neg hplain]
  | _ => rfl

/-! ### Sequences of keys -/

variable (keys : List KeyPress)

lemma foldl_press_field : keys.foldl Field.press g.field = (keys.foldl press g).field := by
  induction keys generalizing g with
  | nil => rfl
  | cons k keys ih => rw [List.foldl_cons, List.foldl_cons, press_field, ih]

lemma foldlM_press?_field :
    keys.foldlM Field.press? g.field = some (keys.foldl Field.press g.field) := by
  induction keys generalizing g with
  | nil => rfl
  | cons k keys ih =>
    rw [List.foldlM_cons, List.foldl_cons, press?_field, press_field]
    exact ih (g.press k)

end Gap

namespace Field

variable {f : Field}

/-- A field whose cursor stands between two characters is the field of its gap. -/
lemma OnBoundary.field_eq (h : f.OnBoundary) : (⟨f.before, f.after⟩ : Gap).field = f := by
  obtain ⟨before, after, htext, hcursor⟩ := h
  have hf : (⟨before, after⟩ : Gap).field = f := by
    rw [Gap.field, ← htext, hcursor, String.ofList_toList]
  rw [← hf, Gap.before_field, Gap.after_field]

lemma OnBoundary.press (h : f.OnBoundary) (k : KeyPress) : (f.press k).OnBoundary := by
  rw [← h.field_eq, Gap.press_field]
  exact Gap.onBoundary_field _

lemma OnBoundary.press?_eq (h : f.OnBoundary) (k : KeyPress) : f.press? k = some (f.press k) := by
  rw [← h.field_eq, Gap.press?_field]

/-- From a cursor between two characters on, a text field is after any keys the field of the gap to
which the same keys have been applied.  Nothing is ever taken apart at a wrong offset, and the
cursor stays between two characters. -/
theorem foldl_press_follows_gap (h : f.OnBoundary) (keys : List KeyPress) :
    let g : Gap := ⟨f.before, f.after⟩
    g.field = f ∧
      keys.foldl press f = (keys.foldl Gap.press g).field ∧
      keys.foldlM press? f = some (keys.foldl press f) ∧
      (keys.foldl press f).OnBoundary := by
  intro g
  have hg : g.field = f := h.field_eq
  rw [← hg, Gap.foldlM_press?_field, Gap.foldl_press_field]
  exact ⟨rfl, rfl, rfl, Gap.onBoundary_field _⟩

/-- Characters of one to four bytes: the cursor goes across a character of three, which is deleted,
a character of two is typed with shift and one of one refused with control, and the character of
four behind the cursor is deleted. -/
theorem foldl_press_follows_gap_of_wide_characters :
    let f : Field := ⟨"aß漢😀", 3⟩
    let keys : List KeyPress := [{ key := .right }, { key := .backspace },
      { key := .char 'É', shift := true }, { key := .char 'x', ctrl := true }, { key := .delete }]
    f.OnBoundary ∧ keys.foldl press f = ⟨"aßÉ", 5⟩ ∧ keys.foldlM press? f = some ⟨"aßÉ", 5⟩ := by
  intro f keys
  have hf : f.OnBoundary := ⟨['a', 'ß'], ['漢', '😀'], by decide, rfl⟩
  obtain ⟨-, hrun, hchecked, -⟩ := foldl_press_follows_gap hf keys
  have hfield : keys.foldl press f = ⟨"aßÉ", 5⟩ := by
    rw [hrun]
    decide
  exact ⟨hf, hfield, hfield ▸ hchecked⟩

end Field

end Worksheet
