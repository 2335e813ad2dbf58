import Mathlib
import Worksheet.Proofs.Document.Soundness
import Worksheet.Proofs.Editor.Cursor
import Worksheet.Proofs.Editor.Frame

/-!
# The cursor is always in view

The part of a sheet that is shown begins at an offset, one for the rows and one for the columns.
Scrolling changes an offset as little as it can: not at all for a cursor that is in view, and
otherwise to the nearest offset from which the cursor is in view (`scrolls_scrollTo`).

The cursor moves, the sheet becomes smaller, and so does the screen, down to a single cell.  After
each of these actions the editor scrolls, and all other actions leave the cursor and the viewport
alone; so the cursor is in view throughout a session (`cursorInView_steps`).

All of this is said of natural numbers, and the offsets are words of 64 bits.  On a sheet of an
allowed size the sums that scrolling takes are far from that bound: the offset is at most at the
cursor, the cursor is in the sheet, and no more cells are shown than a screen has columns and lines
(`sumsFit_of_inRange`).
-/

namespace Worksheet

/-! ### One offset -/

section Offset

variable {cursor offset visible : ℕ}

/-- A place is among those visible from an offset on. -/
def InView (cursor offset visible : ℕ) : Prop := offset ≤ cursor ∧ cursor < offset + visible

instance : Decidable (InView cursor offset visible) :=
  inferInstanceAs (Decidable (offset ≤ cursor ∧ cursor < offset + visible))

/-- The sums in the computation of an offset are words of 64 bits. -/
def SumsFit (cursor offset visible : ℕ) : Prop := offset + visible < 2 ^ 64 ∧ cursor + 1 < 2 ^ 64

/-- An offset changes into the nearest one from which the cursor is in view. -/
structure Scrolls (cursor visible offset offset' : ℕ) : Prop where
  inView : InView cursor offset' visible
  eq_of_inView : InView cursor offset visible → offset' = offset
  dist_lt : ∀ o, InView cursor o visible → o ≠ offset' → offset.dist offset' < offset.dist o

/-- The computation of an offset, unless it takes a larger number from a smaller one. -/
def scrollTo? (cursor offset visible : ℕ) : Option ℕ :=
  if cursor < offset then some cursor
  else if offset + visible ≤ cursor then (cursor + 1).psub (max visible 1)
  else some offset

/-- What is subtracted is never too large: the visible places before the cursor, or one. -/
lemma scrollTo?_eq (cursor offset visible : ℕ) :
    scrollTo? cursor offset visible = some (scrollTo cursor offset visible) := by
  unfold scrollTo? scrollTo
  split
  · rfl
  · split
    · exact Nat.psub_eq_sub (by omega)
    · rfl

lemma scrollTo_le : scrollTo cursor offset visible ≤ cursor := by
  unfold scrollTo
  split
  · exact le_rfl
  · split <;> omega

/-- Nothing scrolls exactly for a cursor that is in view. -/
lemma scrollTo_eq_self_iff (h : 1 ≤ visible) :
    scrollTo cursor offset visible = offset ↔ InView cursor offset visible := by
  unfold scrollTo InView
  split
  · omega
  · split <;> omega

lemma inView_scrollTo (h : 1 ≤ visible) :
    InView cursor (scrollTo cursor offset visible) visible := by
  unfold scrollTo InView
  split
  · omega
  · split <;> omega

/-- With at least one place visible, scrolling finds the nearest offset. -/
theorem scrolls_scrollTo (h : 1 ≤ visible) (cursor offset : ℕ) :
    Scrolls cursor visible offset (scrollTo cursor offset visible) where
  inView := inView_scrollTo h
  eq_of_inView := (scrollTo_eq_self_iff h).mpr
  dist_lt o ho hne := by
    unfold InView at ho
    unfold scrollTo at hne ⊢
    unfold Nat.dist
    split at hne
    · next hbefore =>
      rw [if_pos hbefore]
      omega
    · next hbefore =>
      rw [if_neg hbefore]
      split at hne
      · next hbehind =>
        rw [if_pos hbehind]
        omega
      · next hbehind =>
        rw [if_neg hbehind]
        omega

lemma scrollTo_scrollTo (h : 1 ≤ visible) :
    scrollTo cursor (scrollTo cursor offset visible) visible = scrollTo cursor offset visible :=
  (scrollTo_eq_self_iff h).mpr (inView_scrollTo h)

end Offset

/-! ### Both offsets -/

namespace Editor

variable {e e' : Editor}

/-- Scrolls to the cursor, unless a larger number is taken from a smaller one. -/
def follow? (e : Editor) : Option Editor := do
  let row ← scrollTo? e.cursor.row e.viewport.row e.visibleRows
  let col ← scrollTo? e.cursor.col e.viewport.col e.visibleCols
  return { e with viewport := ⟨row, col⟩ }

lemma follow?_eq (e : Editor) : e.follow? = some e.follow := by
  rw [follow?, scrollTo?_eq, scrollTo?_eq]
  rfl

lemma follow_follow (hrows : 1 ≤ e.visibleRows) (hcols : 1 ≤ e.visibleCols) :
    e.follow.follow = e.follow := by
  simp only [follow, scrollTo_scrollTo hrows, scrollTo_scrollTo hcols]

/-- At least one cell is visible, and the cursor is in view. -/
structure CursorInView (e : Editor) : Prop where
  one_le_visibleRows : 1 ≤ e.visibleRows
  one_le_visibleCols : 1 ≤ e.visibleCols
  row : InView e.cursor.row e.viewport.row e.visibleRows
  col : InView e.cursor.col e.viewport.col e.visibleCols

lemma cursorInView_follow (hrows : 1 ≤ e.visibleRows) (hcols : 1 ≤ e.visibleCols) :
    e.follow.CursorInView :=
  ⟨hrows, hcols, inView_scrollTo hrows, inView_scrollTo hcols⟩

namespace CursorInView

/-- Whatever leaves the cursor and the viewport alone leaves the cursor in view. -/
lemma of_keeps (h : e.CursorInView) (hkeeps : e.Keeps e') (hcursor : e'.cursor = e.cursor)
    (hviewport : e'.viewport = e.viewport) : e'.CursorInView where
  one_le_visibleRows := hkeeps.visibleRows ▸ h.one_le_visibleRows
  one_le_visibleCols := hkeeps.visibleCols ▸ h.one_le_visibleCols
  row := by rw [hcursor, hviewport, hkeeps.visibleRows]; exact h.row
  col := by rw [hcursor, hviewport, hkeeps.visibleCols]; exact h.col

lemma moveTo (h : e.CursorInView) (p : Position) : (e.moveTo p).CursorInView :=
  cursorInView_follow h.one_le_visibleRows h.one_le_visibleCols

lemma commitText (h : e.CursorInView) (text : String) : (e.commitText text).CursorInView := by
  refine h.of_keeps (keeps_commitText e text) ?_ ?_ <;> unfold Editor.commitText <;> split <;> rfl

lemma undo (h : e.CursorInView) : e.undo.CursorInView := by
  refine h.of_keeps (keeps_undo e) ?_ ?_ <;> unfold Editor.undo <;> split <;> rfl

lemma redo (h : e.CursorInView) : e.redo.CursorInView := by
  refine h.of_keeps (keeps_redo e) ?_ ?_ <;> unfold Editor.redo <;> split <;> rfl

/-- A change of the sheet's size moves the cursor into it and scrolls. -/
lemma resizeSheet (h : e.CursorInView) (d : Document) (message : String) :
    Editor.CursorInView { { e with document := d }.moveBy 0 0 with status := message } := by
  have hmoved : Editor.CursorInView ({ e with document := d }.moveBy 0 0) :=
    cursorInView_follow h.one_le_visibleRows h.one_le_visibleCols
  exact hmoved.of_keeps (keeps_say _ message) rfl rfl

lemma setRows (h : e.CursorInView) (n : ℕ) : (e.setRows n).CursorInView := by
  unfold Editor.setRows
  split
  · exact h.resizeSheet _ _
  · exact h.of_keeps (keeps_say e _) rfl rfl

lemma setCols (h : e.CursorInView) (n : ℕ) : (e.setCols n).CursorInView := by
  unfold Editor.setCols
  split
  · exact h.resizeSheet _ _
  · exact h.of_keeps (keeps_say e _) rfl rfl

end CursorInView

lemma cursorInView_resized (e : Editor) (width height : ℕ) :
    (e.resized width height).CursorInView :=
  cursorInView_follow (le_max_right _ _) (le_max_right _ _)

/-- Every action leaves the cursor in view. -/
lemma Acts.cursorInView (hacts : e.Acts e') (h : e.CursorInView) : e'.CursorInView := by
  cases hacts with
  | startWith => exact ⟨h.one_le_visibleRows, h.one_le_visibleCols, h.row, h.col⟩
  | pressEntry => exact ⟨h.one_le_visibleRows, h.one_le_visibleCols, h.row, h.col⟩
  | cancelEdit => exact ⟨h.one_le_visibleRows, h.one_le_visibleCols, h.row, h.col⟩
  | startCommand => exact ⟨h.one_le_visibleRows, h.one_le_visibleCols, h.row, h.col⟩
  | pressCommand => exact ⟨h.one_le_visibleRows, h.one_le_visibleCols, h.row, h.col⟩
  | cancelCommand => exact ⟨h.one_le_visibleRows, h.one_le_visibleCols, h.row, h.col⟩
  | say _ message => exact h.of_keeps (keeps_say e message) rfl rfl
  | commitText _ text => exact h.commitText text
  | undo => exact h.undo
  | redo => exact h.redo
  | setRows _ n => exact h.setRows n
  | setCols _ n => exact h.setCols n
  | moveBy => exact h.moveTo _
  | moveTo => exact h.moveTo _
  | resized width height => exact cursorInView_resized e width.toNat height.toNat

/-! ### Sums of words -/

/-- The sheet is of an allowed size, the cursor is in it, and no more cells are shown than a screen
has columns and lines. -/
structure SmallSheet (e : Editor) : Prop where
  rows : e.document.rows ≤ 10000
  cols : e.document.cols ≤ 26
  cursor : e.document.Contains e.cursor
  visibleRows : e.visibleRows < 2 ^ 16
  visibleCols : e.visibleCols < 2 ^ 16

lemma visibleRows_lt (height : UInt16) : Layout.visibleRows height.toNat < 2 ^ 16 := by
  have hheight := height.toNat_lt
  unfold Layout.visibleRows Layout.gridHeight
  omega

lemma visibleCols_lt (width : UInt16) (columnWidth : ℕ) :
    Layout.visibleCols width.toNat columnWidth < 2 ^ 16 := by
  have hwidth := width.toNat_lt
  have hdiv := Nat.div_le_self (width.toNat - 7) (columnWidth + 1)
  change max ((width.toNat - 7) / (columnWidth + 1)) 1 < 2 ^ 16
  omega

/-- No action makes the sheet larger than is allowed, or shows more cells than a screen can. -/
lemma Acts.smallSheet (hacts : e.Acts e') (h : e.SmallSheet) : e'.SmallSheet := by
  have hsize : e'.document.rows ≤ 10000 ∧ e'.document.cols ≤ 26 := by
    rcases hacts.document with hsame | ⟨o, r, hacc⟩
    · rw [hsame]
      exact ⟨h.rows, h.cols⟩
    · exact hacc.size_le h.rows h.cols
  have hvisible : e'.visibleRows < 2 ^ 16 ∧ e'.visibleCols < 2 ^ 16 := by
    rcases hacts.layout with ⟨hrows, hcols, -⟩ | ⟨width, height, rfl⟩
    · rw [hrows, hcols]
      exact ⟨h.visibleRows, h.visibleCols⟩
    · exact ⟨visibleRows_lt height, visibleCols_lt width e.columnWidth⟩
  exact ⟨hsize.1, hsize.2, hacts.contains h.cursor, hvisible.1, hvisible.2⟩

lemma SmallSheet.cursor_inRange (h : e.SmallSheet) : e.cursor.InRange :=
  ⟨h.cursor.1.trans_le h.rows, h.cursor.2.trans_le h.cols⟩

lemma SmallSheet.viewport_inRange (h : e.SmallSheet) (hview : e.CursorInView) :
    e.viewport.InRange :=
  ⟨hview.row.1.trans_lt h.cursor_inRange.1, hview.col.1.trans_lt h.cursor_inRange.2⟩

/-- In both directions the sums are words of 64 bits. -/
structure SumsFit (e : Editor) : Prop where
  row : Worksheet.SumsFit e.cursor.row e.viewport.row e.visibleRows
  col : Worksheet.SumsFit e.cursor.col e.viewport.col e.visibleCols

lemma sumsFit_of_inRange (hcursor : e.cursor.InRange) (hviewport : e.viewport.InRange)
    (hrows : e.visibleRows < 2 ^ 16) (hcols : e.visibleCols < 2 ^ 16) : e.SumsFit := by
  obtain ⟨hrow, hcol⟩ := hcursor
  obtain ⟨hfirstRow, hfirstCol⟩ := hviewport
  constructor
  · unfold Worksheet.SumsFit
    omega
  · unfold Worksheet.SumsFit
    omega

/-! ### Sessions -/

lemma cursorInView_ofDocument (d : Document) (columnWidth : ℕ) :
    (ofDocument d columnWidth).CursorInView where
  one_le_visibleRows := Nat.succ_pos 5
  one_le_visibleCols := Nat.succ_pos 5
  row := ⟨le_rfl, Nat.succ_pos 5⟩
  col := ⟨le_rfl, Nat.succ_pos 5⟩

lemma cursorInView_steps (d : Document) (columnWidth : ℕ) (events : List Event) :
    ((ofDocument d columnWidth).steps events).CursorInView :=
  steps_induction (fun h hacts => hacts.cursorInView h) (cursorInView_ofDocument d columnWidth)
    events

lemma smallSheet_steps {d : Document} (hrows : 1 ≤ d.rows ∧ d.rows ≤ 10000)
    (hcols : 1 ≤ d.cols ∧ d.cols ≤ 26) (columnWidth : ℕ) (events : List Event) :
    ((ofDocument d columnWidth).steps events).SmallSheet := by
  have hsix : 6 < 2 ^ 16 := by decide
  have hstart : (ofDocument d columnWidth).SmallSheet :=
    ⟨hrows.2, hcols.2, ⟨hrows.1, hcols.1⟩, hsix, hsix⟩
  exact steps_induction (fun h hacts => hacts.smallSheet h) hstart events

/-- In every state of a session the cursor is in view.  Scrolling never takes a larger number from a
smaller one.  It scrolls when the cursor has been put on a cell and when a screen has been measured;
on a sheet of an allowed size its sums are words of 64 bits then.  It changes the offsets as little
as it can, so to scroll once more changes nothing. -/
theorem cursor_in_view_follow_nearest (d : Document) (columnWidth : ℕ) (events : List Event) :
    let e := (ofDocument d columnWidth).steps events
    (InView e.cursor.row e.viewport.row e.visibleRows ∧
        InView e.cursor.col e.viewport.col e.visibleCols) ∧
      (∀ e' : Editor, e'.follow? = some e'.follow) ∧
      (1 ≤ d.rows ∧ d.rows ≤ 10000 → 1 ≤ d.cols ∧ d.cols ≤ 26 →
        (∀ p : Position, p.InRange → SumsFit { e with cursor := p }) ∧
          ∀ width height : UInt16, SumsFit
            { e with
              visibleRows := Layout.visibleRows height.toNat
              visibleCols := Layout.visibleCols width.toNat e.columnWidth }) ∧
      ∀ e' : Editor, 1 ≤ e'.visibleRows → 1 ≤ e'.visibleCols →
        Scrolls e'.cursor.row e'.visibleRows e'.viewport.row e'.follow.viewport.row ∧
          Scrolls e'.cursor.col e'.visibleCols e'.viewport.col e'.follow.viewport.col ∧
          e'.follow.follow = e'.follow := by
  intro e
  have h : e.CursorInView := cursorInView_steps d columnWidth events
  refine ⟨⟨h.row, h.col⟩, follow?_eq, fun hrows hcols => ?_, fun e' hrows hcols =>
    ⟨scrolls_scrollTo hrows _ _, scrolls_scrollTo hcols _ _, follow_follow hrows hcols⟩⟩
  have hsmall : e.SmallSheet := smallSheet_steps hrows hcols columnWidth events
  have hviewport : e.viewport.InRange := hsmall.viewport_inRange h
  constructor
  · intro p hp
    exact sumsFit_of_inRange hp hviewport hsmall.visibleRows hsmall.visibleCols
  · intro width height
    exact sumsFit_of_inRange hsmall.cursor_inRange hviewport (visibleRows_lt height)
      (visibleCols_lt width e.columnWidth)

/-- The cursor moves down twice on a screen with a single cell and is in view.  From there neither
the last cell of the largest sheet nor the largest screen takes the sums too far.  With three rows
and one column visible, a cursor two rows below the last one shown scrolls by two rows and no
column. -/
theorem cursor_in_view_follow_nearest_of_single_cell :
    let e := (ofDocument .blank 10).steps [.draw 0 0, .key (.ofChar 'j'), .key (.ofChar 'j')]
    let behind := { e with cursor := ⟨5, 4⟩, viewport := ⟨1, 4⟩, visibleRows := 3 }
    (e.visibleRows = 1 ∧ e.cursor.row = 2 ∧ InView e.cursor.row e.viewport.row e.visibleRows) ∧
      ((1 ≤ Document.blank.rows ∧ Document.blank.rows ≤ 10000) ∧
        (1 ≤ Document.blank.cols ∧ Document.blank.cols ≤ 26) ∧
        Position.InRange ⟨9999, 25⟩) ∧
      SumsFit { e with cursor := ⟨9999, 25⟩ } ∧
      SumsFit { e with
        visibleRows := Layout.visibleRows (65535 : UInt16).toNat
        visibleCols := Layout.visibleCols (65535 : UInt16).toNat e.columnWidth } ∧
      (1 ≤ behind.visibleRows ∧ 1 ≤ behind.visibleCols) ∧
      behind.follow.viewport = ⟨3, 4⟩ ∧
      Scrolls 5 3 1 behind.follow.viewport.row ∧ Scrolls 4 1 4 behind.follow.viewport.col := by
  intro e behind
  obtain ⟨⟨hrow, -⟩, -, hsums, hscrolls⟩ := cursor_in_view_follow_nearest .blank 10
    [.draw 0 0, .key (.ofChar 'j'), .key (.ofChar 'j')]
  have hsheet : (1 ≤ Document.blank.rows ∧ Document.blank.rows ≤ 10000) ∧
      (1 ≤ Document.blank.cols ∧ Document.blank.cols ≤ 26) := by decide
  have hlast : Position.InRange ⟨9999, 25⟩ := ⟨by decide, by decide⟩
  obtain ⟨hcursor, hscreen⟩ := hsums hsheet.1 hsheet.2
  have hrows : 1 ≤ behind.visibleRows := by decide
  have hcols : 1 ≤ behind.visibleCols := by decide
  obtain ⟨hscrollsRow, hscrollsCol, -⟩ := hscrolls behind hrows hcols
  exact ⟨⟨by decide, by decide, hrow⟩, ⟨hsheet.1, hsheet.2, hlast⟩, hcursor _ hlast,
    hscreen 65535 65535, ⟨hrows, hcols⟩, by decide, hscrollsRow, hscrollsCol⟩

end Editor

end Worksheet
