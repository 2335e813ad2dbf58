/-!
# Cell positions

A position is a pair of zero-based row and column indices.  Positions are ordered row by row, and
within a row from left to right; every listing of cells uses this order.
-/

namespace Worksheet

/-- The place of a cell, counted from zero. -/
structure Position where
  /-- The row, from the top. -/
  row : Nat
  /-- The column, from the left. -/
  col : Nat
deriving DecidableEq, Repr, Inhabited

namespace Position

/-- Row-major order: an earlier row, or the same row and a column further left. -/
instance : LT Position where
  lt p q := p.row < q.row ∨ p.row = q.row ∧ p.col < q.col

instance (p q : Position) : Decidable (p < q) :=
  inferInstanceAs (Decidable (p.row < q.row ∨ p.row = q.row ∧ p.col < q.col))

instance : LE Position where
  le p q := p < q ∨ p = q

instance (p q : Position) : Decidable (p ≤ q) :=
  inferInstanceAs (Decidable (p < q ∨ p = q))

/-- One position precedes another in an earlier row, or further left in the same row. -/
theorem lt_iff {p q : Position} :
    p < q ↔ p.row < q.row ∨ p.row = q.row ∧ p.col < q.col := Iff.rfl

/-- The order with equality. -/
theorem le_iff {p q : Position} : p ≤ q ↔ p < q ∨ p = q := Iff.rfl

/-- No position precedes itself. -/
theorem lt_irrefl (p : Position) : ¬ p < p := by simp [lt_iff]

/-- The order is transitive. -/
theorem le_trans {p q r : Position} (hpq : p ≤ q) (hqr : q ≤ r) : p ≤ r := by
  rcases hpq with hpq | rfl
  · rcases hqr with hqr | rfl
    · refine Or.inl ?_
      rw [lt_iff] at *
      omega
    · exact Or.inl hpq
  · exact hqr

/-- Any two positions are comparable. -/
theorem le_total (p q : Position) : p ≤ q ∨ q ≤ p := by
  obtain ⟨r, c⟩ := p
  obtain ⟨r', c'⟩ := q
  simp only [le_iff, lt_iff, Position.mk.injEq]
  omega

end Position

end Worksheet
