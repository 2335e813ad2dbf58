import Worksheet.Proofs.Screen.Pointer

/-!
# The cells on the screen

Where a draw puts a cell, and what a press there is taken for.  A line of the grid is read as the
part before a cell, a gap, the cell, and the part behind it; `Drawn.glyphAt?_eq` follows a cell from
there through the border and the lines above the grid to its place on the screen.  There the pointer
finds it (`Drawn.cellAt?_eq_some`), and nothing on the `Frame` around the cells.
-/

namespace Worksheet

namespace Glyph

variable {under : Bool} {style : Style} {gs gs' : List Glyph} {k : ℕ}

/-- What is behind some glyphs has no part in how they are shown. -/
lemma getElem?_visible_append (h : k < gs.length) :
    (visible under (gs ++ gs'))[k]? = (visible under gs)[k]? := by
  induction gs generalizing under k with
  | nil => exact absurd h (Nat.not_lt_zero k)
  | cons g gs ih =>
    cases k with
    | zero => rfl
    | succ k => exact ih (Nat.lt_of_succ_lt_succ h)

/-- Nothing lies under a space: what is behind it is shown as at the start of a line. -/
lemma getElem?_visible_space :
    (visible under (gs ++ ⟨[' '], style⟩ :: gs'))[gs.length + 1 + k]? =
      (visible false gs')[k]? := by
  induction gs generalizing under with
  | nil =>
    have hspace : decide (2 ≤ Text.columns [' ']) = false := by decide
    have hnext : (visible under (⟨[' '], style⟩ :: gs'))[k + 1]? = (visible false gs')[k]? := by
      rw [visible, hspace, List.getElem?_cons_succ]
    rwa [List.nil_append, List.length_nil, Nat.zero_add, Nat.add_comm]
  | cons g gs ih =>
    rw [List.cons_append, visible, List.length_cons,
      show gs.length + 1 + 1 + k = gs.length + 1 + k + 1 by omega, List.getElem?_cons_succ]
    exact ih

end Glyph

namespace Editor

open Layout

variable {e : Editor} {width height x y : UInt16} {p : Position}

/-! ### Where a draw puts a cell -/

/-- What the screen shows at a point. -/
def glyphAt? (e : Editor) (width height x y : UInt16) : Option Glyph :=
  ((e.render width.toNat height.toNat)[y.toNat]?).bind (·[x.toNat]?)

/-- A cell as it is shown, one glyph for each of its columns. -/
def cellGlyphs (e : Editor) (p : Position) : List Glyph :=
  Glyph.visible false
    (inColumn (e.cellStyle p) e.columnWidth (e.document.display p).toList)

@[simp] lemma length_inColumn (style : Style) (size : ℕ) (cs : List Char) :
    (inColumn style size cs).length = size := Glyph.length_ofCell ..

/-- The indices shown come in order, so an index is behind those between it and the offset. -/
lemma shown_eq_append {offset visible count n : ℕ} (h : n ∈ shown offset visible count) :
    ∃ before after, shown offset visible count = before ++ n :: after ∧
      before.length = n - offset := by
  obtain ⟨hfirst, hlast, hcount⟩ := mem_shown.mp h
  have hlt : n - offset < (shown offset visible count).length := by
    simp only [shown, List.length_map, List.length_range]
    omega
  have hget : (shown offset visible count)[n - offset] = n := by
    simp only [shown, List.getElem_map, List.getElem_range]
    omega
  refine ⟨(shown offset visible count).take (n - offset),
    (shown offset visible count).drop (n - offset + 1), ?_, List.length_take_of_le hlt.le⟩
  have hsplit := List.take_append_drop (n - offset) (shown offset visible count)
  rw [List.drop_eq_getElem_cons hlt, hget] at hsplit
  exact hsplit.symm

lemma getElem?_shown {offset visible count n : ℕ} (h : n ∈ shown offset visible count) :
    (shown offset visible count)[n - offset]? = some n := by
  obtain ⟨before, after, heq, hlength⟩ := shown_eq_append h
  rw [heq, ← hlength, List.getElem?_append_right le_rfl, Nat.sub_self]
  rfl

/-- A line of the grid holds every column shown, at its distance from the first one. -/
lemma gridLine_eq_append (number : List Glyph) {cell : ℕ → List Glyph} {col : ℕ}
    (hcell : ∀ c, (cell c).length = e.columnWidth) (hcol : col ∈ e.shownCols) :
    ∃ before after, e.gridLine number cell = before ++ ⟨[' '], {}⟩ :: (cell col ++ after) ∧
      before.length = number.length + (col - e.viewport.col) * (e.columnWidth + 1) := by
  obtain ⟨before, after, heq, hlength⟩ := shown_eq_append hcol
  let block (c : ℕ) := Glyph.blanks {} gapWidth ++ cell c
  have hblock (c : ℕ) : (block c).length = e.columnWidth + 1 := by
    rw [List.length_append, Glyph.length_blanks, hcell, gapWidth, Nat.add_comm]
  refine ⟨number ++ before.flatMap block, after.flatMap block, ?_, ?_⟩
  · change number ++ e.shownCols.flatMap block = _
    rw [shownCols, heq, List.flatMap_append, List.flatMap_cons, ← List.append_assoc]
    rfl
  · simp only [List.length_append, List.length_flatMap, hblock, List.map_const',
      List.sum_replicate, smul_eq_mul, hlength]

lemma rowLine_eq_append (row : ℕ) {col : ℕ} (hcol : col ∈ e.shownCols) :
    ∃ before after, e.rowLine row = before ++ ⟨[' '], {}⟩ ::
        (inColumn (e.cellStyle ⟨row, col⟩) e.columnWidth
          (e.document.display ⟨row, col⟩).toList ++ after) ∧
      before.length = 5 + (col - e.viewport.col) * (e.columnWidth + 1) := by
  obtain ⟨before, after, hline, hbefore⟩ := gridLine_eq_append
    (inColumn (headerStyle (row == e.cursor.row)) rowNumberWidth (Text.digits (row + 1)))
    (fun c => length_inColumn (e.cellStyle ⟨row, c⟩) e.columnWidth
      (e.document.display ⟨row, c⟩).toList) hcol
  rw [length_inColumn] at hbefore
  exact ⟨before, after, hline, hbefore⟩

/-- The border of a box moves what it holds by one column, and cuts nothing that fits. -/
lemma boxLine_append (style : Style) (after : List Glyph) {size : ℕ} {inside : List Glyph}
    (h : inside.length + 2 ≤ size) :
    ∃ after', boxLine style size (inside ++ after) = ⟨['│'], style⟩ :: (inside ++ after') := by
  have htake : (inside ++ after).take (size - 2) =
      inside ++ after.take (size - 2 - inside.length) := by
    rw [List.take_append, List.take_of_length_le (by omega)]
  simp only [boxLine, htake, List.append_assoc]
  exact ⟨_, rfl⟩

/-- The rows shown stand below the border and the header line, as far as there are lines. -/
lemma getElem?_gridLines (size : ℕ) {lines i row : ℕ} (hrow : e.shownRows[i]? = some row)
    (hlines : i + 3 < lines) :
    (e.gridLines size lines)[i + 2]? = some (boxLine {} size (e.rowLine row)) := by
  obtain ⟨hlt, hget⟩ := List.getElem?_eq_some_iff.mp hrow
  have hinside : ((e.headerLine :: e.shownRows.map e.rowLine).take (lines - 2))[i + 1]? =
      some (e.rowLine row) := by
    rw [List.getElem?_take_of_lt (by omega), List.getElem?_cons_succ, List.getElem?_map, hrow]
    rfl
  have hlength := (List.getElem?_eq_some_iff.mp hinside).1
  rw [gridLines, List.getElem?_cons_succ,
    List.getElem?_append_left (by
      rw [List.length_map, List.length_append]
      omega),
    List.getElem?_map, List.getElem?_append_left hlength, hinside]
  rfl

namespace Drawn

/-- The last column of a cell that is drawn is before the border. -/
lemma col_room (h : e.Drawn width height) (hp : e.Paints p) :
    7 + (p.col - e.viewport.col + 1) * (e.columnWidth + 1) ≤ width.toNat := by
  obtain ⟨-, -, hfirst, hlast⟩ := paints_iff.mp hp
  have hwidth := Nat.div_add_mod' (width.toNat - 7) (e.columnWidth + 1)
  rw [← h.visibleCols] at hwidth
  have hle : (p.col - e.viewport.col + 1) * (e.columnWidth + 1) ≤
      e.visibleCols * (e.columnWidth + 1) := Nat.mul_le_mul_right _ (by omega)
  have hroom := h.le_width
  omega

/-- The line of a cell that is drawn is before the border and the status line. -/
lemma row_room (h : e.Drawn width height) (hp : e.Paints p) :
    5 + (p.row - e.viewport.row) + 2 < height.toNat := by
  obtain ⟨-, ⟨hfirst, hlast⟩, -⟩ := paints_iff.mp hp
  have hrows := h.visibleRows
  have hroom := h.le_height
  omega

/-- The line of a row that is drawn, below the formula bar, the border and the header line. -/
lemma getElem?_render (h : e.Drawn width height) (hp : e.Paints p) :
    (e.render width.toNat height.toNat)[5 + (p.row - e.viewport.row)]? =
      some (Glyph.visible false (boxLine {} width.toNat (e.rowLine p.row))) := by
  have hlines := h.row_room hp
  have hgrid : (e.gridLines width.toNat (gridHeight height.toNat))[p.row - e.viewport.row + 2]? =
      some (boxLine {} width.toNat (e.rowLine p.row)) := by
    refine getElem?_gridLines _ (getElem?_shown hp.1) ?_
    rw [gridHeight_of_le h.le_height]
    omega
  have hbar : (e.bar width.toNat).length = 3 := rfl
  have hindex : 5 + (p.row - e.viewport.row) - 3 = p.row - e.viewport.row + 2 := by omega
  rw [render, List.getElem?_map, List.append_assoc,
    List.getElem?_append_right (by rw [hbar]; omega), hbar, hindex,
    List.getElem?_append_left (List.getElem?_eq_some_iff.mp hgrid).1, hgrid]
  rfl

/-- Where a cell that is drawn stands on the screen. -/
lemma glyphAt?_eq (h : e.Drawn width height) (hp : e.Paints p) {k : ℕ} (hk : k < e.columnWidth)
    (hx : x.toNat = 7 + (p.col - e.viewport.col) * (e.columnWidth + 1) + k)
    (hy : y.toNat = 5 + (p.row - e.viewport.row)) :
    e.glyphAt? width height x y = (e.cellGlyphs p)[k]? := by
  have hcolumns := h.col_room hp
  rw [Nat.succ_mul] at hcolumns
  obtain ⟨before, after, hline, hbefore⟩ := rowLine_eq_append p.row hp.2
  set cell := inColumn (e.cellStyle p) e.columnWidth (e.document.display p).toList
  have hcell : cell.length = e.columnWidth := length_inColumn ..
  -- the whole cell is inside the border, which puts one glyph before it
  obtain ⟨after', hbox⟩ : ∃ after', boxLine {} width.toNat (e.rowLine p.row) =
      (⟨['│'], {}⟩ :: before) ++ ⟨[' '], {}⟩ :: (cell ++ after') := by
    have hfits : (before ++ ⟨[' '], {}⟩ :: cell).length + 2 ≤ width.toNat := by
      rw [List.length_append, List.length_cons, hcell]
      omega
    obtain ⟨after', hbox⟩ := boxLine_append {} after hfits
    refine ⟨after', ?_⟩
    rw [List.append_assoc, List.append_assoc, List.cons_append, List.cons_append] at hbox
    rw [hline, List.cons_append]
    exact hbox
  have hindex : x.toNat = (⟨['│'], {}⟩ :: before : List Glyph).length + 1 + k := by
    rw [List.length_cons]
    omega
  rw [glyphAt?, hy, h.getElem?_render hp, Option.bind_some, hbox, hindex,
    Glyph.getElem?_visible_space, Glyph.getElem?_visible_append (hk.trans_eq hcell.symm)]
  rfl

/-- Every part of a cell that is drawn is a point of the screen. -/
lemma exists_point (h : e.Drawn width height) (hp : e.Paints p) {k : ℕ} (hk : k < e.columnWidth) :
    ∃ x y : UInt16, x.toNat = 7 + (p.col - e.viewport.col) * (e.columnWidth + 1) + k ∧
      y.toNat = 5 + (p.row - e.viewport.row) := by
  have hcolumns := h.col_room hp
  have hlines := h.row_room hp
  have hwidth := width.toNat_lt
  have hheight := height.toNat_lt
  rw [Nat.succ_mul] at hcolumns
  exact ⟨UInt16.ofNat _, UInt16.ofNat _,
    UInt16.toNat_ofNat_of_lt' (by rw [UInt16.size]; omega),
    UInt16.toNat_ofNat_of_lt' (by rw [UInt16.size]; omega)⟩

/-- A press on a cell that is drawn is taken for it. -/
lemma cellAt?_eq_some (h : e.Drawn width height) (hp : e.Paints p) {k : ℕ}
    (hk : k < e.columnWidth)
    (hx : x.toNat = 7 + (p.col - e.viewport.col) * (e.columnWidth + 1) + k)
    (hy : y.toNat = 5 + (p.row - e.viewport.row)) :
    e.cellAt? (Layout.grid width height) x y = some p := by
  have hcolumns := h.col_room hp
  have hlines := h.row_room hp
  rw [Nat.succ_mul] at hcolumns
  obtain ⟨hcontains, ⟨hrow, -⟩, hcol, -⟩ := paints_iff.mp hp
  rw [cellAt?_eq_some_iff h.columnWidth_le h.le_height]
  refine ⟨hcontains, p.row - e.viewport.row, p.col - e.viewport.col, k, hk, ⟨hy, ?_⟩, ⟨hx, ?_⟩, ?_⟩
  · omega
  · omega
  · rw [Nat.add_sub_cancel' hrow, Nat.add_sub_cancel' hcol]

end Drawn

/-! ### What is around the cells -/

/-- The points of the grid that belong to no cell: its border, the line of column letters, the row
numbers, and the gaps, one before each column. -/
inductive Frame (columnWidth : ℕ) (grid : Rect) (x y : UInt16) : Prop
  | left (h : x = grid.x)
  | right (h : x.toNat + 1 = grid.x.toNat + grid.width.toNat)
  | top (h : y = grid.y)
  | bottom (h : y.toNat + 1 = grid.y.toNat + grid.height.toNat)
  | header (h : y.toNat = grid.y.toNat + 1)
  | number (hfirst : grid.x.toNat < x.toNat) (hlast : x.toNat ≤ grid.x.toNat + rowNumberWidth)
  | gap (j : ℕ) (h : x.toNat = grid.x.toNat + 6 + j * (columnWidth + 1))

/-- A press on the frame is taken for no cell. -/
lemma Frame.cellAt?_eq_none (hframe : Frame e.columnWidth (Layout.grid width height) x y)
    (hwidth : e.columnWidth ≤ 40) (hheight : 9 ≤ height.toNat) :
    e.cellAt? (Layout.grid width height) x y = none := by
  rw [Option.eq_none_iff_forall_ne_some]
  intro p hp
  obtain ⟨-, i, j, k, hk, ⟨hy, hylast⟩, ⟨hx, hxlast⟩, -⟩ :=
    (cellAt?_eq_some_iff hwidth hheight).mp hp
  have hgridx : (Layout.grid width height).x.toNat = 0 := rfl
  have hgridwidth : (Layout.grid width height).width.toNat = width.toNat := rfl
  have hgridy : (Layout.grid width height).y.toNat = 3 := toNat_grid_y hheight
  have hgridheight : (Layout.grid width height).height.toNat = height.toNat - 4 :=
    toNat_grid_height hheight
  cases hframe with
  | left h =>
    rw [h, hgridx] at hx
    omega
  | right h => omega
  | top h =>
    rw [h, hgridy] at hy
    omega
  | bottom h => omega
  | header h => omega
  | number hfirst hlast =>
    rw [rowNumberWidth] at hlast
    omega
  | gap j' h =>
    -- a gap is at a multiple of the stride, and no part of a cell is
    have hmod : (x.toNat - 6) % (e.columnWidth + 1) = k + 1 := by
      rw [show x.toNat - 6 = k + 1 + j * (e.columnWidth + 1) by omega, Nat.add_mul_mod_self_right,
        Nat.mod_eq_of_lt (by omega)]
    rw [show x.toNat - 6 = j' * (e.columnWidth + 1) by omega, Nat.mul_mod_left] at hmod
    omega

/-- After a draw, every part of a cell that was drawn can be pressed, and is taken for that cell.
The border, the column letters, the row numbers and the gaps are taken for none. -/
theorem pointer_on_drawn {rows cols : ℕ} {d : Document} (h : Document.ofSize rows cols = .ok d)
    {columnWidth : ℕ} (hcolumn : 3 ≤ columnWidth ∧ columnWidth ≤ 40) (events : List Event)
    (hwidth : columnWidth + 8 ≤ width.toNat) (hheight : 9 ≤ height.toNat) :
    let e := (ofDocument d columnWidth).steps (events ++ [.draw width height])
    let grid := Layout.grid width height
    (∀ p, e.Paints p → ∀ k < columnWidth, ∃ x y : UInt16,
      x.toNat = grid.x.toNat + 7 + (p.col - e.viewport.col) * (columnWidth + 1) + k ∧
      y.toNat = grid.y.toNat + 2 + (p.row - e.viewport.row) ∧
      e.glyphAt? width height x y = (e.cellGlyphs p)[k]? ∧
      e.cellAt? grid x y = some p) ∧
    ∀ x y, Frame columnWidth grid x y → e.cellAt? grid x y = none := by
  intro e grid
  have hdrawn : e.Drawn width height := drawn_steps h hcolumn events hwidth hheight
  have hcolumns : e.columnWidth = columnWidth := columnWidth_steps (ofDocument d columnWidth) _
  have hgridx : grid.x.toNat = 0 := rfl
  have hgridy : grid.y.toNat = 3 := toNat_grid_y hheight
  rw [hgridx, hgridy, ← hcolumns]
  constructor
  · intro p hp k hk
    obtain ⟨x, y, hx, hy⟩ := hdrawn.exists_point hp hk
    exact ⟨x, y, hx, hy, hdrawn.glyphAt?_eq hp hk hx hy, hdrawn.cellAt?_eq_some hp hk hx hy⟩
  · intro x y hframe
    exact hframe.cellAt?_eq_none hdrawn.columnWidth_le hheight

/-- The last cell drawn on a screen of thirty columns that was scrolled to the right, and the gap
before it. -/
theorem pointer_on_last_column :
    let e := (ofDocument { Document.blank with rows := 30, cols := 6 } 10).steps
      [.key { key := .endKey }, .key (.ofChar 'j'), .draw 30 12]
    e.Paints ⟨1, 5⟩ ∧
      (∃ x y : UInt16, x.toNat = 27 ∧ y.toNat = 6 ∧
        e.glyphAt? 30 12 x y = (e.cellGlyphs ⟨1, 5⟩)[9]? ∧
        e.cellAt? (Layout.grid 30 12) x y = some ⟨1, 5⟩) ∧
      e.cellAt? (Layout.grid 30 12) 17 6 = none := by
  have hsize : Document.ofSize 30 6 = .ok { Document.blank with rows := 30, cols := 6 } :=
    Document.ofSize_eq_ok_iff.mpr ⟨by decide, by decide, rfl⟩
  have hcolumn : 3 ≤ 10 ∧ 10 ≤ 40 := by decide
  have hwidth : 10 + 8 ≤ (30 : UInt16).toNat := by decide
  have hheight : 9 ≤ (12 : UInt16).toNat := by decide
  obtain ⟨hcells, hframe⟩ := pointer_on_drawn hsize hcolumn
    [.key { key := .endKey }, .key (.ofChar 'j')] hwidth hheight
  refine ⟨by decide, ?_, hframe 17 6 (.gap 1 (by decide))⟩
  exact hcells ⟨1, 5⟩ (by decide) 9 (by decide)

end Editor

end Worksheet
