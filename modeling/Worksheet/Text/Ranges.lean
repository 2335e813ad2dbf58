/-!
# Ranges of code points

A property of characters is written down as the ranges of the code points that have it.  The ranges
are in ascending order and apart, so a search may stop at the first range behind the code point;
`contains_iff` says that it still finds every range.
-/

namespace Worksheet.Text

/-- Whether ranges are in order and apart, and all at or above a bound. -/
def Ranges.ascendFrom : Nat → List (Nat × Nat) → Bool
  | _, [] => true
  | low, (first, last) :: rest =>
    low ≤ first && first ≤ last && ascendFrom (last + 1) rest

/-- Ranges of code points, each with both of its ends. -/
structure Ranges where
  /-- The ranges. -/
  toList : List (Nat × Nat)
  /-- They are in order and apart. -/
  ascend : Ranges.ascendFrom 0 toList = true := by decide +kernel

namespace Ranges

/-- Looks for a range with a code point in it, up to the first range behind it. -/
def search (n : Nat) : List (Nat × Nat) → Bool
  | [] => false
  | (first, last) :: rest => first ≤ n && (n ≤ last || search n rest)

/-- Whether a code point is in one of the ranges. -/
def contains (r : Ranges) (n : Nat) : Bool := search n r.toList

/-- Ranges in order lie at or above their bound. -/
theorem le_of_ascendFrom {low : Nat} {l : List (Nat × Nat)} (h : ascendFrom low l = true)
    {p : Nat × Nat} (hp : p ∈ l) : low ≤ p.1 := by
  induction l generalizing low with
  | nil => simp at hp
  | cons q l ih =>
    simp only [ascendFrom, Bool.and_eq_true, decide_eq_true_eq] at h
    rcases List.mem_cons.1 hp with rfl | hp
    · exact h.1.1
    · have := ih h.2 hp
      omega

/-- The search finds a code point exactly if one of the ranges holds it. -/
theorem search_iff {low n : Nat} {l : List (Nat × Nat)} (h : ascendFrom low l = true) :
    search n l = true ↔ ∃ p ∈ l, p.1 ≤ n ∧ n ≤ p.2 := by
  induction l generalizing low with
  | nil => simp [search]
  | cons q l ih =>
    have hl : ascendFrom (q.2 + 1) l = true := by
      simp only [ascendFrom, Bool.and_eq_true] at h
      exact h.2
    have hq : q.1 ≤ q.2 := by
      simp only [ascendFrom, Bool.and_eq_true, decide_eq_true_eq] at h
      exact h.1.2
    simp only [search, Bool.and_eq_true, Bool.or_eq_true, decide_eq_true_eq, List.mem_cons,
      exists_eq_or_imp, ih hl]
    constructor
    · rintro ⟨h1, h2 | h2⟩
      · exact Or.inl ⟨h1, h2⟩
      · exact Or.inr h2
    · rintro (⟨h1, h2⟩ | ⟨p, hp, h1, h2⟩)
      · exact ⟨h1, Or.inl h2⟩
      · have := le_of_ascendFrom hl hp
        exact ⟨by omega, Or.inr ⟨p, hp, h1, h2⟩⟩

/-- A code point is contained exactly if one of the ranges holds it. -/
theorem contains_iff (r : Ranges) (n : Nat) :
    r.contains n = true ↔ ∃ p ∈ r.toList, p.1 ≤ n ∧ n ≤ p.2 :=
  search_iff r.ascend

end Ranges

end Worksheet.Text
