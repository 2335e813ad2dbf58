import Worksheet.Text.Cluster
import Worksheet.Text.Width

/-!
# Styled text

A screen is made of lines, and a line of glyphs, one for each screen column.  `ofLine` and `ofCell`
set a text in a number of columns: it is cut between two clusters, or filled up with spaces, to
exactly that many glyphs.  They differ in what they do with a cluster that has no column of its
own: a line leaves it out, and a cell shows it with the cluster before, or the first one after.
What lies under a cluster of several columns is not `visible`.
-/

namespace Worksheet

/-- The colours in use. -/
inductive Color where
  | black
  | white
  | darkGray
  | yellow
  | cyan
  | red
deriving DecidableEq, Repr

/-- How a glyph looks; a colour left open is that of the terminal. -/
structure Style where
  /-- The colour of the character. -/
  foreground : Option Color := none
  /-- The colour behind the character. -/
  background : Option Color := none
  /-- Whether the character is bold. -/
  bold : Bool := false
deriving DecidableEq, Repr

/-- What one screen column shows. -/
structure Glyph where
  /-- The characters: a cluster, or a space where nothing is shown. -/
  symbol : List Char
  /-- How it looks. -/
  style : Style := {}
deriving DecidableEq, Repr

namespace Glyph

open Text

/-- So many spaces of a style. -/
def blanks (style : Style) (n : Nat) : List Glyph := List.replicate n ⟨[' '], style⟩

/-- The glyphs of characters that take one column each. -/
def ofChars (style : Style) (cs : List Char) : List Glyph := cs.map fun c => ⟨[c], style⟩

/-- A cluster with what is written in its glyphs beside it. -/
structure Piece where
  /-- What is written in front of it, in its first column. -/
  lead : List Char := []
  /-- The cluster. -/
  cluster : List Char
  /-- What is written behind it, in its last column. -/
  trail : List Char := []
deriving DecidableEq, Repr

/-- The number of columns of a piece, which is that of its cluster. -/
def Piece.columns (p : Piece) : Nat := Text.columns p.cluster

/-- The glyphs of a piece, one for each of its columns.  The first shows the cluster, and the others
are spaces in the style `rest`. -/
def ofPiece (style rest : Style) (p : Piece) : List Glyph :=
  match p.columns with
  | 0 => []
  | 1 => [⟨p.lead ++ p.cluster ++ p.trail, style⟩]
  | n + 2 => ⟨p.lead ++ p.cluster, style⟩ :: (blanks rest n ++ [⟨' ' :: p.trail, rest⟩])

/-- The glyphs of what leads a cluster that does not fit: it stands in place of the first space. -/
def ofLead (style : Style) : Nat → List Char → List Glyph
  | n, [] => blanks style n
  | 0, _ => []
  | n + 1, lead => ⟨lead, style⟩ :: blanks style n

/-- Pieces in `n` columns.  A cluster that does not fit is left out, with all that follows. -/
def fit (style rest : Style) : Nat → List Piece → List Glyph
  | n, [] => blanks style n
  | n, p :: ps =>
    if p.columns ≤ n then ofPiece style rest p ++ fit style rest (n - p.columns) ps
    else ofLead style n p.lead

/-- A text in `n` columns of a line.  A cluster is left out if it has no column, or more than
there are. -/
def ofLine (style : Style) (n : Nat) (cs : List Char) : List Glyph :=
  let shown := (clusters cs).filter fun k => decide (0 < columns k ∧ columns k ≤ n)
  fit style style n (shown.map fun k => { cluster := k })

/-- Makes pieces of a first one and the clusters behind it: a cluster without a column trails the
one before. -/
def Piece.followed (p : Piece) : List (List Char) → List Piece
  | [] => [p]
  | k :: ks =>
    if Text.columns k = 0 then Piece.followed { p with trail := p.trail ++ k } ks
    else p :: Piece.followed { cluster := k } ks

/-- Makes pieces of clusters: those without a column at the start lead the first with one. -/
def Piece.ofClusters (ks : List (List Char)) : List Piece :=
  let lead := (ks.takeWhile fun k => Text.columns k == 0).flatten
  match ks.dropWhile fun k => Text.columns k == 0 with
  | [] => []
  | k :: ks => Piece.followed { lead, cluster := k } ks

/-- A text in the `n` columns of a cell.  A text without a column is not shown. -/
def ofCell (style : Style) (n : Nat) (cs : List Char) : List Glyph :=
  if columns cs = 0 then blanks style n else fit style {} n (Piece.ofClusters (clusters cs))

/-- What a screen shows of a line: the glyph behind one of several columns lies under it, empty
and without a style.  `under` says whether the first does. -/
def visible (under : Bool) : List Glyph → List Glyph
  | [] => []
  | g :: gs => (if under then ⟨[' '], {}⟩ else g) :: visible (decide (2 ≤ columns g.symbol)) gs

@[simp] theorem length_blanks (style : Style) (n : Nat) : (blanks style n).length = n := by
  simp [blanks]

/-- A piece has a glyph for each of its columns. -/
@[simp] theorem length_ofPiece (style rest : Style) (p : Piece) :
    (ofPiece style rest p).length = p.columns := by
  unfold ofPiece
  split <;> simp_all

@[simp] theorem length_ofLead (style : Style) (n : Nat) (lead : List Char) :
    (ofLead style n lead).length = n := by
  unfold ofLead
  split <;> simp

/-- Pieces fill exactly the columns they are set in. -/
@[simp] theorem length_fit (style rest : Style) (n : Nat) (ps : List Piece) :
    (fit style rest n ps).length = n := by
  induction ps generalizing n with
  | nil => simp [fit]
  | cons p ps ih =>
    simp only [fit]
    split
    · simp only [List.length_append, length_ofPiece, ih]
      omega
    · simp

/-- A text in a line fills exactly its columns. -/
@[simp] theorem length_ofLine (style : Style) (n : Nat) (cs : List Char) :
    (ofLine style n cs).length = n := length_fit ..

/-- A text in a cell fills exactly its columns. -/
@[simp] theorem length_ofCell (style : Style) (n : Nat) (cs : List Char) :
    (ofCell style n cs).length = n := by
  unfold ofCell
  split <;> simp

/-- A screen shows every glyph or a space in its place. -/
@[simp] theorem length_visible (under : Bool) (gs : List Glyph) :
    (visible under gs).length = gs.length := by
  induction gs generalizing under with
  | nil => rfl
  | cons g gs ih => simp [visible, ih]

end Glyph

/-- The first line of a text.  A line feed ends it, with a carriage return before it or not. -/
def firstLine (cs : List Char) : List Char :=
  let line := cs.takeWhile (· != '\n')
  if line.length < cs.length ∧ line.getLast? = some '\r' then line.dropLast else line

end Worksheet
