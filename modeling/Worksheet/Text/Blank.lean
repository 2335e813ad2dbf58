/-!
# Blank characters and words

`isBlank` is the Unicode property White_Space.  `trim` drops blanks from both ends of a text and
`words` lists its maximal runs of other characters.
-/

namespace Worksheet.Text

/-- The Unicode property White_Space. -/
def isBlank (c : Char) : Bool :=
  let n := c.toNat
  (0x09 ≤ n && n ≤ 0x0d) || n == 0x20 || n == 0x85 || n == 0xa0 || n == 0x1680 ||
    (0x2000 ≤ n && n ≤ 0x200a) || n == 0x2028 || n == 0x2029 || n == 0x202f || n == 0x205f ||
    n == 0x3000

/-- A text without the blanks at its two ends. -/
def trim (cs : List Char) : List Char :=
  ((cs.dropWhile isBlank).reverse.dropWhile isBlank).reverse

/-- The maximal runs of characters that are not blank, in order. -/
def words (cs : List Char) : List (List Char) :=
  match h : cs.dropWhile isBlank with
  | [] => []
  | c :: rest =>
    have hrest : rest.length < cs.length := by
      have hle := (List.dropWhile_sublist (l := cs) isBlank).length_le
      rw [h, List.length_cons] at hle
      omega
    (c :: rest.takeWhile fun d => !isBlank d) :: words (rest.dropWhile fun d => !isBlank d)
termination_by cs.length
decreasing_by
  exact Nat.lt_of_le_of_lt (List.dropWhile_sublist _).length_le hrest

end Worksheet.Text
