import Mathlib
import Worksheet.Proofs.Screen.Pointer

/-!
# The shape of a screen

A draw fills the screen exactly: there are as many lines as the screen is high, and each of them has
as many glyphs as the screen is wide (`render_rectangle`).  Texts of any length are set in a fixed
number of columns, boxes cut and fill up what they hold, and the grid is filled up with empty lines
if the sheet has too few rows.

A screen with fewer than nine lines has no room for the three parts at their least heights, and one
with fewer than two columns none for the sides of a box.
-/

namespace Worksheet.Editor

open Glyph

variable {style : Style} {width height : ℕ}

/-! ### Boxes -/

lemma length_boxTop (hwidth : 2 ≤ width) (title : List Char) :
    (boxTop style width title).length = width := by
  simp only [boxTop, ofChars, List.length_map, List.length_cons, List.length_append,
    List.length_take, List.length_replicate, List.length_nil]
  omega

lemma length_boxBottom (hwidth : 2 ≤ width) : (boxBottom style width).length = width := by
  simp only [boxBottom, ofChars, List.length_map, List.length_cons, List.length_append,
    List.length_replicate, List.length_nil]
  omega

/-- What is too long for a box is cut, and what is too short is filled up. -/
lemma length_boxLine (hwidth : 2 ≤ width) (inside : List Glyph) :
    (boxLine style width inside).length = width := by
  simp only [boxLine, List.length_cons, List.length_append, List.length_take, length_blanks,
    List.length_nil]
  omega

/-! ### The parts of a screen -/

lemma length_of_mem_bar (hwidth : 2 ≤ width) (e : Editor) {line : List Glyph}
    (h : line ∈ e.bar width) : line.length = width := by
  simp only [bar, List.mem_cons, List.not_mem_nil, or_false] at h
  rcases h with rfl | rfl | rfl
  · exact length_boxTop hwidth _
  · exact length_boxLine hwidth _
  · exact length_boxBottom hwidth

lemma length_gridLines (e : Editor) (hheight : 2 ≤ height) :
    (e.gridLines width height).length = height := by
  simp only [gridLines, List.length_cons, List.length_append, List.length_map, List.length_take,
    List.length_replicate, List.length_nil]
  omega

lemma length_of_mem_gridLines (hwidth : 2 ≤ width) (e : Editor) {line : List Glyph}
    (h : line ∈ e.gridLines width height) : line.length = width := by
  simp only [gridLines, List.mem_cons, List.mem_append, List.mem_map, List.not_mem_nil,
    or_false] at h
  rcases h with rfl | ⟨inside, -, rfl⟩ | rfl
  · exact length_boxTop hwidth _
  · exact length_boxLine hwidth inside
  · exact length_boxBottom hwidth

/-- A draw fills the screen: it has as many lines as the screen, all as long as the screen is wide,
whatever texts they show and wherever the sheet has been scrolled to. -/
theorem render_rectangle (e : Editor) (hwidth : 2 ≤ width) (hheight : 9 ≤ height) :
    (e.render width height).length = height ∧
      ∀ line ∈ e.render width height, line.length = width := by
  have hgrid : Layout.gridHeight height = height - 4 :=
    Layout.gridHeight_of_le hheight
  constructor
  · have hbar : (e.bar width).length = 3 := rfl
    rw [render, List.length_map, List.length_append, List.length_append, hbar,
      length_gridLines e (by omega), hgrid, List.length_singleton]
    omega
  · intro line hline
    obtain ⟨glyphs, hglyphs, rfl⟩ := List.mem_map.mp hline
    rw [length_visible]
    simp only [List.mem_append, List.mem_singleton] at hglyphs
    rcases hglyphs with (hbar | hgridLine) | rfl
    · exact length_of_mem_bar hwidth e hbar
    · exact length_of_mem_gridLines hwidth e hgridLine
    · exact length_ofLine _ _ _

end Worksheet.Editor
