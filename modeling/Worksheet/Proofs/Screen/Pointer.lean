import Mathlib
import Worksheet.Proofs.Editor.Cursor
import Worksheet.Proofs.Editor.Viewport

/-!
# The cells under the pointer

Drawing and pointing find the cells of the screen in two ways: a draw counts the columns that fit as
a whole, and a press divides its distance from the first cell.  `Editor.Drawn` is what a draw leaves
of an editor, and `cellAt?_eq_some_iff` says which points a press takes for which cell.

The two agree about rows.  About columns they differ where a screen has room for a part of one more
column: the blank strip to the right of the last column drawn counts as a cell, and a press on it
scrolls.  `pointer_painted_iff` says when there is no such strip.
-/

namespace Worksheet

/-! ### Coordinates -/

namespace Layout

variable {a b : UInt16}

lemma toNat_saturatingAdd (h : a.toNat + b.toNat < UInt16.size) :
    (saturatingAdd a b).toNat = a.toNat + b.toNat := by
  rw [saturatingAdd, if_pos h, UInt16.toNat_add, Nat.mod_eq_of_lt h]

lemma toNat_saturatingSub : (saturatingSub a b).toNat = a.toNat - b.toNat := by
  unfold saturatingSub
  split
  · next h => exact UInt16.toNat_sub_of_le _ _ h
  · next h =>
    rw [UInt16.le_iff_toNat_le] at h
    rw [Nat.sub_eq_zero_of_le (by omega)]
    rfl

/-- The last of `b` coordinates from `a` on. -/
lemma toNat_saturatingAdd_sub_one (h : a.toNat + (b.toNat - 1) < UInt16.size) :
    (saturatingAdd a (saturatingSub b 1)).toNat = a.toNat + (b.toNat - 1) := by
  have hsub : (saturatingSub b 1).toNat = b.toNat - 1 := toNat_saturatingSub
  rw [toNat_saturatingAdd (by rwa [hsub]), hsub]

variable {height : ℕ}

/-- A screen of nine lines has room for everything. -/
lemma gridHeight_of_le (h : 9 ≤ height) : gridHeight height = height - 4 := by
  simp only [gridHeight, barHeight, statusHeight, minGridHeight]
  omega

lemma gridTop_of_le (h : 9 ≤ height) : gridTop height = 3 := by
  simp only [gridTop, gridHeight_of_le h, barHeight]
  omega

lemma visibleRows_of_le (h : 9 ≤ height) : visibleRows height = height - 7 := by
  simp only [visibleRows, gridHeight_of_le h]
  omega

/-- A screen with room for one column shows as many as fit. -/
lemma visibleCols_of_le {width columnWidth : ℕ} (h : columnWidth + 8 ≤ width) :
    visibleCols width columnWidth = (width - 7) / (columnWidth + 1) := by
  have hone : 1 ≤ (width - 7) / (columnWidth + 1) :=
    (Nat.one_le_div_iff columnWidth.succ_pos).mpr (by omega)
  exact max_eq_left hone

end Layout

namespace Editor

open Layout

variable {e : Editor} {width height x y : UInt16} {p : Position}

lemma toNat_columnWidth {columnWidth : ℕ} (h : columnWidth ≤ 40) :
    (UInt16.ofNat columnWidth).toNat = columnWidth :=
  UInt16.toNat_ofNat_of_lt' (by rw [UInt16.size]; omega)

lemma toNat_stride {columnWidth : ℕ} (h : columnWidth ≤ 40) :
    (stride columnWidth).toNat = columnWidth + 1 := by
  rw [stride, UInt16.toNat_add, toNat_columnWidth h]
  exact Nat.mod_eq_of_lt (by simp [gapWidth]; omega)

lemma toNat_grid_y (h : 9 ≤ height.toNat) : (Layout.grid width height).y.toNat = 3 := by
  rw [Layout.grid, gridTop_of_le h]
  rfl

lemma toNat_grid_height (h : 9 ≤ height.toNat) :
    (Layout.grid width height).height.toNat = height.toNat - 4 := by
  have hlt := height.toNat_lt
  rw [Layout.grid, gridHeight_of_le h]
  exact UInt16.toNat_ofNat_of_lt' (by rw [UInt16.size]; omega)

lemma toNat_firstCellX : (firstCellX (Layout.grid width height)).toNat = 7 := rfl

lemma toNat_firstCellY (h : 9 ≤ height.toNat) :
    (firstCellY (Layout.grid width height)).toNat = 5 := by
  rw [firstCellY, Layout.grid, gridTop_of_le h]
  rfl

/-- The distance from the first column of the cells. -/
lemma toNat_sub_firstCellX (h : 7 ≤ x.toNat) :
    (x - firstCellX (Layout.grid width height)).toNat = x.toNat - 7 := by
  rw [UInt16.toNat_sub_of_le _ _ (by rwa [UInt16.le_iff_toNat_le]), toNat_firstCellX]

/-- The distance from the first line of the cells. -/
lemma toNat_sub_firstCellY (hheight : 9 ≤ height.toNat) (h : 5 ≤ y.toNat) :
    (y - firstCellY (Layout.grid width height)).toNat = y.toNat - 5 := by
  have hfirst : (firstCellY (Layout.grid width height)).toNat = 5 := toNat_firstCellY hheight
  rw [UInt16.toNat_sub_of_le _ _ (by rwa [UInt16.le_iff_toNat_le, hfirst]), hfirst]

/-- The column of the right border. -/
lemma toNat_rightBorder :
    (saturatingAdd (Layout.grid width height).x
      (saturatingSub (Layout.grid width height).width 1)).toNat = width.toNat - 1 := by
  have hlt := width.toNat_lt
  rw [toNat_saturatingAdd_sub_one (by simp [Layout.grid, UInt16.size]; omega)]
  simp [Layout.grid]

/-- The line of the lower border. -/
lemma toNat_lowerBorder (h : 9 ≤ height.toNat) :
    (saturatingAdd (Layout.grid width height).y
      (saturatingSub (Layout.grid width height).height 1)).toNat = height.toNat - 2 := by
  have hlt := height.toNat_lt
  have htop : (Layout.grid width height).y.toNat = 3 := toNat_grid_y h
  have hsize : (Layout.grid width height).height.toNat = height.toNat - 4 := toNat_grid_height h
  rw [toNat_saturatingAdd_sub_one (by rw [htop, hsize, UInt16.size]; omega), htop, hsize]
  omega

/-- A point is taken for a cell that is offered for editing if it lies on it: some lines and columns
of cells after the first one shown, not in a gap, and before the border. -/
theorem cellAt?_eq_some_iff (hwidth : e.columnWidth ≤ 40) (hheight : 9 ≤ height.toNat) :
    e.cellAt? (Layout.grid width height) x y = some p ↔
      e.document.Contains p ∧ ∃ i j k, k < e.columnWidth ∧
        (y.toNat = 5 + i ∧ y.toNat + 2 < height.toNat) ∧
        (x.toNat = 7 + j * (e.columnWidth + 1) + k ∧ x.toNat + 1 < width.toNat) ∧
        p = ⟨e.viewport.row + i, e.viewport.col + j⟩ := by
  simp only [cellAt?, Option.ite_none_left_eq_some, Option.some.injEq, not_or,
    UInt16.lt_iff_toNat_lt, UInt16.le_iff_toNat_le, Nat.not_le, Nat.not_lt, toNat_firstCellX,
    toNat_firstCellY hheight, toNat_rightBorder, toNat_lowerBorder hheight, UInt16.toNat_mod,
    UInt16.toNat_div, toNat_stride hwidth, toNat_columnWidth hwidth]
  constructor
  · rintro ⟨⟨hyfirst, hylast, hxlast⟩, ⟨hrow, hxfirst⟩, hgap, hcol, rfl⟩
    rw [toNat_sub_firstCellX hxfirst] at hgap
    refine ⟨⟨hrow, hcol⟩, y.toNat - 5, (x.toNat - 7) / (e.columnWidth + 1),
      (x.toNat - 7) % (e.columnWidth + 1), hgap, ?_, ?_, ?_⟩
    · omega
    · have hdiv := Nat.div_add_mod' (x.toNat - 7) (e.columnWidth + 1)
      omega
    · rw [toNat_sub_firstCellX hxfirst, toNat_sub_firstCellY hheight hyfirst]
  · rintro ⟨⟨hrow, hcol⟩, i, j, k, hk, ⟨hyi, hylast⟩, ⟨hxj, hxlast⟩, rfl⟩
    have hinside : k + (e.columnWidth + 1) * j = x.toNat - 7 := by
      rw [Nat.mul_comm]
      omega
    obtain ⟨hdiv, hmod⟩ :=
      (Nat.div_mod_unique e.columnWidth.succ_pos).mpr ⟨hinside, Nat.lt_succ_of_lt hk⟩
    have hi : y.toNat - 5 = i := by omega
    have hxfirst : 7 ≤ x.toNat := by omega
    have hyfirst : 5 ≤ y.toNat := by omega
    rw [toNat_sub_firstCellX hxfirst, toNat_sub_firstCellY hheight hyfirst, hmod, hdiv, hi]
    exact ⟨⟨hyfirst, by omega, by omega⟩, ⟨hrow, hxfirst⟩, hk, hcol, rfl⟩

/-! ### What a draw leaves -/

/-- A cell is drawn if its row and its column are among those shown. -/
def Paints (e : Editor) (p : Position) : Prop := p.row ∈ e.shownRows ∧ p.col ∈ e.shownCols

instance (e : Editor) (p : Position) : Decidable (e.Paints p) :=
  inferInstanceAs (Decidable (p.row ∈ e.shownRows ∧ p.col ∈ e.shownCols))

lemma mem_shown {offset visible count n : ℕ} :
    n ∈ shown offset visible count ↔ offset ≤ n ∧ n < offset + visible ∧ n < count := by
  rw [shown, List.mem_map]
  constructor
  · rintro ⟨i, hi, rfl⟩
    rw [List.mem_range] at hi
    omega
  · rintro ⟨hfirst, hlast, hcount⟩
    exact ⟨n - offset, List.mem_range.mpr (by omega), by omega⟩

lemma paints_iff :
    e.Paints p ↔ e.document.Contains p ∧ InView p.row e.viewport.row e.visibleRows ∧
      InView p.col e.viewport.col e.visibleCols := by
  rw [Paints, shownRows, shownCols, mem_shown, mem_shown, Document.Contains, InView, InView]
  tauto

/-- An editor as a draw on a screen leaves it, on which there is room for the whole layout and for a
column of cells. -/
structure Drawn (e : Editor) (width height : UInt16) : Prop where
  le_columnWidth : 3 ≤ e.columnWidth
  columnWidth_le : e.columnWidth ≤ 40
  le_width : e.columnWidth + 8 ≤ width.toNat
  le_height : 9 ≤ height.toNat
  visibleRows : e.visibleRows = height.toNat - 7
  visibleCols : e.visibleCols = (width.toNat - 7) / (e.columnWidth + 1)
  viewport_row_le : e.viewport.row ≤ e.cursor.row
  viewport_col_le : e.viewport.col ≤ e.cursor.col
  contains : e.document.Contains e.cursor

lemma Acts.columnWidth {e' : Editor} (hacts : e.Acts e') : e'.columnWidth = e.columnWidth := by
  rcases hacts.layout with ⟨-, -, hwidth⟩ | ⟨width, height, rfl⟩
  · exact hwidth
  · rfl

lemma columnWidth_steps (e : Editor) (events : List Event) :
    (e.steps events).columnWidth = e.columnWidth :=
  steps_induction (P := fun e' => e'.columnWidth = e.columnWidth)
    (fun h hacts => hacts.columnWidth.trans h) rfl events

/-- A session that ends with a draw. -/
lemma drawn_steps {rows cols : ℕ} {d : Document} (h : Document.ofSize rows cols = .ok d)
    {columnWidth : ℕ} (hcolumn : 3 ≤ columnWidth ∧ columnWidth ≤ 40) (events : List Event)
    (hwidth : columnWidth + 8 ≤ width.toNat) (hheight : 9 ≤ height.toNat) :
    ((ofDocument d columnWidth).steps (events ++ [.draw width height])).Drawn width height := by
  have hcontains := contains_steps h columnWidth events
  have hcolumns := columnWidth_steps (ofDocument d columnWidth) events
  rw [steps_append]
  set e := (ofDocument d columnWidth).steps events
  change e.columnWidth = columnWidth at hcolumns
  change (e.resized width.toNat height.toNat).Drawn width height
  have hresized : (e.resized width.toNat height.toNat).columnWidth = columnWidth := hcolumns
  exact
    { le_columnWidth := hresized ▸ hcolumn.1
      columnWidth_le := hresized ▸ hcolumn.2
      le_width := hresized ▸ hwidth
      le_height := hheight
      visibleRows := visibleRows_of_le hheight
      visibleCols := visibleCols_of_le (hcolumns ▸ hwidth)
      viewport_row_le := scrollTo_le
      viewport_col_le := scrollTo_le
      contains := hcontains }

/-! ### Presses -/

/-- No strip to the right of the columns shown is wide enough to begin another one, or there is no
other one. -/
def FillsWidth (e : Editor) (width : UInt16) : Prop :=
  (width.toNat - 7) % (e.columnWidth + 1) < 2 ∨ e.document.cols ≤ e.viewport.col + e.visibleCols

instance (e : Editor) (width : UInt16) : Decidable (e.FillsWidth width) :=
  inferInstanceAs (Decidable ((width.toNat - 7) % (e.columnWidth + 1) < 2 ∨
    e.document.cols ≤ e.viewport.col + e.visibleCols))

namespace Drawn

/-- A press on a screen that is filled is taken for a cell that is drawn. -/
lemma paints_of_cellAt? (h : e.Drawn width height) (hfills : e.FillsWidth width)
    (hp : e.cellAt? (Layout.grid width height) x y = some p) : e.Paints p := by
  obtain ⟨hcontains, i, j, k, hk, ⟨hy, hylast⟩, ⟨hx, hxlast⟩, rfl⟩ :=
    (cellAt?_eq_some_iff h.columnWidth_le h.le_height).mp hp
  have hrow : i < e.visibleRows := by
    rw [h.visibleRows]
    omega
  have hcol : e.viewport.col + j < e.viewport.col + e.visibleCols := by
    rcases hfills with hrest | hcols
    · have hwidth := Nat.div_add_mod' (width.toNat - 7) (e.columnWidth + 1)
      rw [← h.visibleCols] at hwidth
      -- `j` columns and a part of the next one end before the border, so `j` whole ones do
      have hlt : j * (e.columnWidth + 1) < e.visibleCols * (e.columnWidth + 1) := by omega
      exact Nat.add_lt_add_left (Nat.lt_of_mul_lt_mul_right hlt) _
    · exact hcontains.2.trans_le hcols
  exact paints_iff.mpr ⟨hcontains, ⟨Nat.le_add_right _ _, Nat.add_lt_add_left hrow _⟩,
    Nat.le_add_right _ _, hcol⟩

/-- On any other screen a press to the right of the last column drawn is taken for the next one. -/
lemma exists_cellAt?_next (h : e.Drawn width height) (hfills : ¬ e.FillsWidth width) :
    ∃ x y, e.cellAt? (Layout.grid width height) x y =
      some ⟨e.viewport.row, e.viewport.col + e.visibleCols⟩ := by
  unfold FillsWidth at hfills
  push Not at hfills
  obtain ⟨hrest, hcols⟩ := hfills
  have hwidth := Nat.div_add_mod' (width.toNat - 7) (e.columnWidth + 1)
  rw [← h.visibleCols] at hwidth
  have hsize := width.toNat_lt
  have hx : (UInt16.ofNat (7 + e.visibleCols * (e.columnWidth + 1))).toNat =
      7 + e.visibleCols * (e.columnWidth + 1) :=
    UInt16.toNat_ofNat_of_lt' (by rw [UInt16.size]; omega)
  have hle := h.le_width
  have hheight := h.le_height
  have hcolumn := h.le_columnWidth
  refine ⟨UInt16.ofNat (7 + e.visibleCols * (e.columnWidth + 1)), 5, ?_⟩
  rw [cellAt?_eq_some_iff h.columnWidth_le h.le_height]
  refine ⟨⟨h.viewport_row_le.trans_lt h.contains.1, hcols⟩, 0, e.visibleCols, 0, by omega, ?_, ?_,
    rfl⟩
  · exact ⟨rfl, by change 5 + 2 < _; omega⟩
  · rw [hx]
    omega

/-- Only a jump to a cell that is not drawn scrolls. -/
lemma viewport_moveTo_eq_iff (h : e.Drawn width height) (hp : e.document.Contains p) :
    (e.moveTo p).viewport = e.viewport ↔ e.Paints p := by
  have hheight := h.le_height
  have hrows : 1 ≤ e.visibleRows := by
    rw [h.visibleRows]
    omega
  have hcols : 1 ≤ e.visibleCols := by
    rw [h.visibleCols, Nat.one_le_div_iff e.columnWidth.succ_pos]
    have := h.le_width
    omega
  change (⟨scrollTo p.row e.viewport.row e.visibleRows,
    scrollTo p.col e.viewport.col e.visibleCols⟩ : Position) =
      ⟨e.viewport.row, e.viewport.col⟩ ↔ _
  rw [Position.mk.injEq, paints_iff, scrollTo_eq_self_iff hrows, scrollTo_eq_self_iff hcols]
  simp only [hp, true_and]

/-- The presses are taken for cells that are drawn exactly if the screen is filled. -/
lemma forall_paints_iff (h : e.Drawn width height) :
    (∀ x y p, e.cellAt? (Layout.grid width height) x y = some p → e.Paints p) ↔
      e.FillsWidth width := by
  constructor
  · intro hall
    by_contra hfills
    obtain ⟨x, y, hp⟩ := h.exists_cellAt?_next hfills
    have hpaints := paints_iff.mp (hall x y _ hp)
    exact absurd hpaints.2.2.2 (lt_irrefl _)
  · intro hfills x y p hp
    exact h.paints_of_cellAt? hfills hp

/-- In normal mode, no press scrolls exactly if the screen is filled. -/
lemma forall_viewport_point_iff (h : e.Drawn width height) (hmode : e.mode = .normal) :
    (∀ event : PointerEvent, event.action = .press .left →
      (e.point width height event).viewport = e.viewport) ↔ e.FillsWidth width := by
  rw [← h.forall_paints_iff]
  constructor
  · intro hall x y p hp
    have hpoint := hall ⟨.press .left, x, y⟩ rfl
    rw [point_of_normal rfl hmode, hp, Option.elim_some] at hpoint
    exact (h.viewport_moveTo_eq_iff (contains_of_cellAt? hp)).mp hpoint
  · intro hall event hpress
    rw [point_of_normal hpress hmode]
    cases hp : e.cellAt? (Layout.grid width height) event.x event.y with
    | none => rfl
    | some p => exact (h.viewport_moveTo_eq_iff (contains_of_cellAt? hp)).mpr (hall _ _ p hp)

end Drawn

/-- After a draw, a press is always taken for a cell that was drawn, and in normal mode never
scrolls, exactly if the grid fills the screen. -/
theorem pointer_painted_iff {rows cols : ℕ} {d : Document} (h : Document.ofSize rows cols = .ok d)
    {columnWidth : ℕ} (hcolumn : 3 ≤ columnWidth ∧ columnWidth ≤ 40) (events : List Event)
    (hwidth : columnWidth + 8 ≤ width.toNat) (hheight : 9 ≤ height.toNat) :
    let e := (ofDocument d columnWidth).steps (events ++ [.draw width height])
    ((∀ x y p, e.cellAt? (Layout.grid width height) x y = some p → e.Paints p) ↔
      e.FillsWidth width) ∧
    (e.mode = .normal →
      ((∀ event : PointerEvent, event.action = .press .left →
        (e.point width height event).viewport = e.viewport) ↔ e.FillsWidth width)) := by
  intro e
  have hdrawn : e.Drawn width height := drawn_steps h hcolumn events hwidth hheight
  exact ⟨hdrawn.forall_paints_iff, hdrawn.forall_viewport_point_iff⟩

/-- Six columns of ten leave a strip of seven on a screen of eighty, but there is no seventh. -/
theorem pointer_painted_of_last_column :
    let e := (ofDocument { Document.blank with rows := 30, cols := 6 } 10).steps
      [.key { key := .endKey }, .key (.ofChar 'j'), .draw 80 24]
    (∀ x y p, e.cellAt? (Layout.grid 80 24) x y = some p → e.Paints p) ∧
      ∀ event : PointerEvent, event.action = .press .left →
        (e.point 80 24 event).viewport = e.viewport := by
  have hsize : Document.ofSize 30 6 = .ok { Document.blank with rows := 30, cols := 6 } :=
    Document.ofSize_eq_ok_iff.mpr ⟨by decide, by decide, rfl⟩
  have hcolumn : 3 ≤ 10 ∧ 10 ≤ 40 := by decide
  have hwidth : 10 + 8 ≤ (80 : UInt16).toNat := by decide
  have hheight : 9 ≤ (24 : UInt16).toNat := by decide
  obtain ⟨hpaints, hpress⟩ := pointer_painted_iff hsize hcolumn
    [.key { key := .endKey }, .key (.ofChar 'j')] hwidth hheight
  exact ⟨hpaints.mpr (by decide), (hpress rfl).mpr (by decide)⟩

/-- One column of three leaves a strip of two on a screen of thirteen.  A press there goes to the
second column, which was not drawn, and scrolls. -/
theorem pointer_painted_not_on_strip :
    Document.ofSize 6 6 = .ok .blank ∧
      let e := (ofDocument .blank 3).steps [.draw 13 9]
      e.cellAt? (Layout.grid 13 9) 11 5 = some ⟨0, 1⟩ ∧ ¬ e.Paints ⟨0, 1⟩ ∧
        e.mode = .normal ∧ e.viewport = ⟨0, 0⟩ ∧
        (e.point 13 9 ⟨.press .left, 11, 5⟩).viewport = ⟨0, 1⟩ :=
  ⟨rfl, by decide, by decide, rfl, rfl, by decide⟩

end Editor

end Worksheet
