import Mathlib
import Worksheet.Document.Table
import Worksheet.Proofs.Cell.Name
import Worksheet.Proofs.Text.Pieces

/-!
# Tables keep their shape and their contents

`read?` is a reader of tables that knows nothing about the document: it cuts the text into lines,
and each line into fields at the pipes without a backslash right before them.  `content?` takes the
space from either side of a field and turns every escaped pipe into a pipe.
`render_shape_and_contents` says what they get from the table of a document: one line for each row
besides the two at the top, one field for each column besides the first, and in the fields of a row
its number and the texts that its cells show, without line breaks.

Backslashes are not escaped.  No field ends early all the same, because a pipe of the text is always
written with a backslash of its own, and the pipe that ends the field comes behind a space.  For the
same reason a backslash of the text is never taken for an escape (`unescape_escape`).
-/

namespace Worksheet.Table

/-! ### Reading a table -/

/-- Whether a character ends a field: a pipe does without a backslash right before it. -/
def endsField (before c : Char) : Bool := c == '|' && before != '\\'

/-- Cuts a line into its fields.  The line starts with a pipe, and nothing stands behind the last
pipe that ends a field. -/
def fields? : List Char → Option (List (List Char))
  | '|' :: cs =>
    match Text.cut endsField '|' cs with
    | (fields, []) => some fields
    | (_, _ :: _) => none
  | _ => none

/-- Turns every pipe with a backslash before it into the pipe, from left to right. -/
def unescape : List Char → List Char
  | [] => []
  | '\\' :: '|' :: cs => '|' :: unescape cs
  | c :: cs => c :: unescape cs

/-- The content of a field between the spaces on either side. -/
def content? : List Char → Option (List Char)
  | ' ' :: cs => if cs.getLast? = some ' ' then some (unescape cs.dropLast) else none
  | _ => none

/-- Reads a table as the fields of its lines; nothing stands behind the last line feed. -/
def read? (table : String) : Option (List (List (List Char))) :=
  match Text.cutLines table.toList with
  | (lines, []) => lines.mapM fields?
  | (_, _ :: _) => none

/-- A text on one line: a space for every line feed, and no carriage returns. -/
def oneLine (cs : List Char) : List Char :=
  (cs.filter (· != '\r')).map fun c => if c = '\n' then ' ' else c

/-! ### Escapes -/

lemma escape_cons (c : Char) (cs : List Char) : escape (c :: cs) = escapeChar c ++ escape cs :=
  List.flatMap_cons

/-- Escaping replaces the pipes, then the line feeds, then the carriage returns. -/
theorem escape_eq_replace (cs : List Char) :
    escape cs =
      Text.replace '\r' [] (Text.replace '\n' [' '] (Text.replace '|' ['\\', '|'] cs)) := by
  simp only [escape, Text.replace, List.flatMap_assoc]
  refine congrArg (cs.flatMap ·) (funext fun c => ?_)
  unfold escapeChar
  split
  · rfl
  · rfl
  · rfl
  · next hpipe hfeed hreturn =>
    rw [if_neg hpipe, List.flatMap_singleton, if_neg hfeed, List.flatMap_singleton,
      if_neg hreturn]

/-- An escaped text does not start with a pipe: a backslash stands before it. -/
lemma escape_ne_cons_pipe (cs rest : List Char) : escape cs ≠ '|' :: rest := by
  induction cs with
  | nil => exact (List.cons_ne_nil '|' rest).symm
  | cons c cs ih =>
    rw [escape_cons]
    unfold escapeChar
    split
    · rintro ⟨⟩
    · rintro ⟨⟩
    · exact ih
    · next hpipe _ _ => exact fun h => hpipe (List.cons.inj h).1

/-- Turning the escaped pipes of a text back gives the text on one line. -/
theorem unescape_escape (cs : List Char) : unescape (escape cs) = oneLine cs := by
  induction cs with
  | nil => rfl
  | cons c cs ih =>
    rw [escape_cons]
    unfold escapeChar
    split
    · exact congrArg ('|' :: ·) ih
    · exact congrArg (' ' :: ·) ih
    · exact ih
    · next hpipe hfeed hreturn =>
      have hline : oneLine (c :: cs) = c :: oneLine cs := by
        have hkept : (c != '\r') = true := bne_iff_ne.mpr hreturn
        rw [oneLine, List.filter_cons, if_pos hkept, List.map_cons, if_neg hfeed, oneLine]
      rw [List.singleton_append, unescape, ih, hline]
      -- a backslash of the text is not before a pipe
      exact fun rest _ => escape_ne_cons_pipe cs rest

example : unescape (escape "a\\|\n\r|\\".toList) = "a\\| |\\".toList := by decide

/-- A text without line breaks is on one line. -/
lemma oneLine_eq_self {cs : List Char} (h : ∀ c ∈ cs, c ≠ '\n' ∧ c ≠ '\r') : oneLine cs = cs := by
  have hkept : cs.filter (· != '\r') = cs :=
    List.filter_eq_self.mpr fun c hc => bne_iff_ne.mpr (h c hc).2
  rw [oneLine, hkept]
  exact (List.map_congr_left fun c hc => if_neg (h c hc).1).trans (List.map_id' cs)

/-- Letters and digits are not escaped. -/
lemma escape_of_isAlphanum {cs : List Char} (h : ∀ c ∈ cs, c.isAlphanum = true) :
    escape cs = cs := by
  induction cs with
  | nil => rfl
  | cons c cs ih =>
    obtain ⟨hc, hcs⟩ := List.forall_mem_cons.mp h
    rw [escape_cons, ih hcs]
    unfold escapeChar
    split
    · cases hc
    · cases hc
    · cases hc
    · rfl

/-! ### Fields -/

/-- A field of a table: it ends at the pipe behind it and nowhere before, and it is on one line. -/
structure IsField (field : List Char) : Prop where
  /-- No pipe ends the field early, and nothing masks the pipe behind it. -/
  isPiece : Text.IsPiece endsField '|' '|' field
  /-- There is no line feed. -/
  not_mem : '\n' ∉ field

/-- A text as a field without the pipe that ends it. -/
def cell (cs : List Char) : List Char := ' ' :: (escape cs ++ [' '])

/-- No pipe of an escaped text ends its field, whatever stands before the text. -/
lemma isPiece_escape (cs : List Char) (before : Char) :
    Text.IsPiece endsField '|' before (escape cs ++ [' ']) := by
  induction cs generalizing before with
  | nil => exact .cons rfl (.nil rfl)
  | cons c cs ih =>
    rw [escape_cons, List.append_assoc]
    unfold escapeChar
    split
    · exact .cons rfl (.cons rfl (ih '|'))
    · exact .cons rfl (ih ' ')
    · exact ih before
    · next hpipe _ _ =>
      refine .cons ?_ (ih c)
      rw [endsField, beq_eq_false_iff_ne.mpr hpipe, Bool.false_and]

/-- There is no line feed in an escaped text. -/
lemma ne_feed_of_mem_escape {c : Char} {cs : List Char} (h : c ∈ escape cs) : c ≠ '\n' := by
  obtain ⟨d, -, hd⟩ := List.mem_flatMap.mp h
  unfold escapeChar at hd
  split at hd
  · simp only [List.mem_cons, List.not_mem_nil, or_false] at hd
    rcases hd with rfl | rfl <;> decide
  · rw [List.mem_singleton] at hd
    exact hd ▸ by decide
  · cases hd
  · next _ hfeed _ =>
    rw [List.mem_singleton] at hd
    exact hd ▸ hfeed

/-- Any text makes a field. -/
lemma isField_cell (cs : List Char) : IsField (cell cs) where
  isPiece := .cons rfl (isPiece_escape cs ' ')
  not_mem := by
    intro h
    rw [cell, List.mem_cons, List.mem_append, List.mem_singleton] at h
    rcases h with h | h | h
    · cases h
    · exact ne_feed_of_mem_escape h rfl
    · cases h

/-- The fields of the rule are fields. -/
lemma isField_dashes : IsField ['-', '-', '-'] where
  isPiece := .cons rfl (.cons rfl (.cons rfl (.nil rfl)))
  not_mem := by decide

/-- The content of a field is its text on one line. -/
lemma content?_cell (cs : List Char) : content? (cell cs) = some (oneLine cs) := by
  rw [cell, content?, List.getLast?_concat, if_pos rfl, List.dropLast_concat, unescape_escape]

/-! ### Lines -/

/-- A line: a pipe, and the fields, each with a pipe behind it. -/
def joined (fields : List (List Char)) : List Char := '|' :: fields.flatMap (· ++ ['|'])

variable {fields : List (List Char)}

/-- A line is cut into its fields. -/
lemma fields?_joined (h : ∀ field ∈ fields, IsField field) :
    fields? (joined fields) = some fields := by
  rw [joined, fields?, Text.cut_flatMap fun field hfield => (h field hfield).isPiece]

/-- A line is ended by the first line feed behind it. -/
lemma not_mem_joined (h : ∀ field ∈ fields, IsField field) : '\n' ∉ joined fields := by
  intro hmem
  rw [joined, List.mem_cons, List.mem_flatMap] at hmem
  rcases hmem with hmem | ⟨field, hfield, hmem⟩
  · cases hmem
  · rw [List.mem_append, List.mem_singleton] at hmem
    rcases hmem with hmem | hmem
    · exact (h field hfield).not_mem hmem
    · cases hmem

/-- The fields of the line of column letters. -/
def headerFields (cols : ℕ) : List (List Char) :=
  cell [' '] :: (List.range cols).map fun col => cell (columnLetters col)

/-- The fields of the rule. -/
def ruleFields (cols : ℕ) : List (List Char) := List.replicate (cols + 1) ['-', '-', '-']

/-- The fields of a row. -/
def rowFields (d : Document) (r : ℕ) : List (List Char) :=
  cell (Text.digits (r + 1)) :: (List.range d.cols).map fun col => cell (d.display ⟨r, col⟩).toList

/-- A field with its pipe. -/
lemma field_escape (cs : List Char) : field (escape cs) = cell cs ++ ['|'] := by
  rw [field, cell, List.cons_append, List.append_assoc]
  rfl

lemma header_eq (cols : ℕ) : header cols = joined (headerFields cols) := by
  have hletters : ∀ col, field (columnLetters col) = cell (columnLetters col) ++ ['|'] := by
    intro col
    rw [← field_escape, escape_of_isAlphanum]
    intro c hc
    rw [Char.isAlphanum, isAlpha_of_mem_columnLetters hc, Bool.true_or]
  have hcorner : field [' '] = cell [' '] ++ ['|'] := rfl
  simp only [header, joined, headerFields, List.flatMap_cons, List.flatMap_map, hletters, hcorner]

lemma rule_eq (cols : ℕ) : rule cols = joined (ruleFields cols) := by
  rw [rule, joined, ruleFields, List.flatMap_def, List.map_replicate]
  rfl

lemma row_eq (d : Document) (r : ℕ) : row d r = joined (rowFields d r) := by
  have hdigits : escape (Text.digits (r + 1)) = Text.digits (r + 1) := by
    refine escape_of_isAlphanum fun c hc => ?_
    rw [Char.isAlphanum, Text.isDigit_of_mem_digits hc, Bool.or_true]
  have hnumber : field (Text.digits (r + 1)) = cell (Text.digits (r + 1)) ++ ['|'] := by
    rw [← field_escape, hdigits]
  simp only [row, joined, rowFields, List.flatMap_cons, List.flatMap_map, hnumber, field_escape]

/-! ### Whole tables -/

/-- The fields of the lines of a table. -/
def allFields (d : Document) : List (List (List Char)) :=
  headerFields d.cols :: ruleFields d.cols :: (List.range d.rows).map (rowFields d)

variable {d : Document}

lemma lines_eq (d : Document) : lines d = (allFields d).map joined := by
  simp only [lines, allFields, header_eq, rule_eq, List.map_cons, List.map_map]
  congr
  funext r
  exact row_eq d r

lemma isField_of_mem_allFields (h : fields ∈ allFields d) : ∀ field ∈ fields, IsField field := by
  intro field hfield
  rw [allFields, List.mem_cons, List.mem_cons, List.mem_map] at h
  rcases h with rfl | rfl | ⟨r, -, rfl⟩
  · rw [headerFields, List.mem_cons, List.mem_map] at hfield
    rcases hfield with rfl | ⟨col, -, rfl⟩ <;> exact isField_cell _
  · rw [List.eq_of_mem_replicate hfield]
    exact isField_dashes
  · rw [rowFields, List.mem_cons, List.mem_map] at hfield
    rcases hfield with rfl | ⟨col, -, rfl⟩ <;> exact isField_cell _

lemma length_of_mem_allFields (h : fields ∈ allFields d) : fields.length = d.cols + 1 := by
  rw [allFields, List.mem_cons, List.mem_cons, List.mem_map] at h
  rcases h with rfl | rfl | ⟨r, -, rfl⟩
  · rw [headerFields, List.length_cons, List.length_map, List.length_range]
  · exact List.length_replicate
  · rw [rowFields, List.length_cons, List.length_map, List.length_range]

/-- A table is read as the fields of its lines. -/
lemma read?_render (d : Document) : read? (render d) = some (allFields d) := by
  have hlines : ∀ line ∈ lines d, '\n' ∉ line := by
    intro line hline
    rw [lines_eq] at hline
    obtain ⟨fields, hfields, rfl⟩ := List.mem_map.mp hline
    exact not_mem_joined (isField_of_mem_allFields hfields)
  have hread : ∀ fields ∈ allFields d, fields? (joined fields) = some (id fields) :=
    fun fields hfields => fields?_joined (isField_of_mem_allFields hfields)
  rw [read?, render, String.toList_ofList, chars, Text.cutLines_flatMap hlines, lines_eq]
  simp only [Text.mapM_map_some hread, List.map_id]

/-- The contents of the fields of a row are its number and the texts that its cells show. -/
lemma mapM_content?_rowFields (d : Document) (r : ℕ) :
    (rowFields d r).mapM content? = some (Text.digits (r + 1) ::
      (List.range d.cols).map fun col => oneLine (d.display ⟨r, col⟩).toList) := by
  have hcells : rowFields d r = (Text.digits (r + 1) ::
      (List.range d.cols).map fun col => (d.display ⟨r, col⟩).toList).map cell := by
    rw [rowFields, List.map_cons, List.map_map]
    rfl
  have hnumber : oneLine (Text.digits (r + 1)) = Text.digits (r + 1) := by
    refine oneLine_eq_self fun c hc => ?_
    have hdigit := Text.isDigit_of_mem_digits hc
    constructor <;> rintro rfl <;> cases hdigit
  rw [hcells, Text.mapM_map_some fun cs _ => content?_cell cs, List.map_cons, List.map_map, hnumber]
  rfl

/-- What is stored outside the rows and columns of a document is not in its table. -/
lemma render_congr {d' : Document} (hrows : d'.rows = d.rows) (hcols : d'.cols = d.cols)
    (h : ∀ p, d.Contains p → d'.get? p = d.get? p) : render d' = render d := by
  have hrow : ∀ r ∈ List.range d.rows, row d' r = row d r := by
    intro r hr
    have hcell : ∀ col ∈ List.range d.cols, d'.display ⟨r, col⟩ = d.display ⟨r, col⟩ := by
      intro col hcol
      rw [Document.display, h ⟨r, col⟩ ⟨List.mem_range.mp hr, List.mem_range.mp hcol⟩]
      rfl
    rw [row, row, hcols, List.flatMap_congr fun col hcol => by rw [hcell col hcol]]
  rw [render, render, chars, chars, lines, lines, hrows, hcols, List.map_congr_left hrow]

/-- The table of a document has one line for each row and two at the top, all of them with one field
for each column and one at the start.  A row has its number in the first of its fields, and in the
others the texts that its cells show, on one line.  What is stored outside the rows and columns of
the document is not in the table. -/
theorem render_shape_and_contents (d : Document) :
    ∃ table, read? (render d) = some table ∧ table.length = d.rows + 2 ∧
      (∀ fields ∈ table, fields.length = d.cols + 1) ∧
      (∀ r < d.rows, ∃ fields, table[r + 2]? = some fields ∧
        fields.mapM content? = some (Text.digits (r + 1) ::
          (List.range d.cols).map fun col => oneLine (d.display ⟨r, col⟩).toList)) ∧
      ∀ d' : Document, d'.rows = d.rows → d'.cols = d.cols →
        (∀ p, d.Contains p → d'.get? p = d.get? p) → render d' = render d := by
  refine ⟨allFields d, read?_render d, ?_, fun _ h => length_of_mem_allFields h, ?_,
    fun d' => render_congr⟩
  · simp only [allFields, List.length_cons, List.length_map, List.length_range]
  · intro r hr
    refine ⟨rowFields d r, ?_, mapM_content?_rowFields d r⟩
    rw [allFields, List.getElem?_cons_succ, List.getElem?_cons_succ, List.getElem?_map,
      List.getElem?_range hr, Option.map_some]

/-- A cell whose text has a pipe behind a backslash and a line break is one field of its row, and the
cells around it are fields of their own. -/
theorem render_shape_and_contents_of_pipe :
    ∃ table fields, read? (render (Document.blank.enter ⟨0, 1⟩ "a\\|\r\n").1) = some table ∧
      table.length = 8 ∧ table[2]? = some fields ∧ fields.length = 7 ∧
      fields.mapM content? = some [['1'], [], ['a', '\\', '|', ' '], [], [], [], []] := by
  obtain ⟨table, hread, hlength, hfields, hrow, -⟩ :=
    render_shape_and_contents (Document.blank.enter ⟨0, 1⟩ "a\\|\r\n").1
  obtain ⟨fields, hget, hcontent⟩ := hrow 0 (by decide)
  refine ⟨table, fields, hread, hlength, hget, hfields fields (List.mem_of_getElem? hget), ?_⟩
  rw [hcontent]
  decide +kernel

end Worksheet.Table
