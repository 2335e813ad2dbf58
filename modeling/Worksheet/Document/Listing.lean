import Worksheet.Cell.Key
import Worksheet.Document.Basic

/-!
# Listings of the stored cells

A grid keeps its entries in no particular order; a listing puts them into one.  `entries` is
row-major, `snapshot` is sorted by the text of the keys.  A snapshot has one text for each key: if
two cells had the same key, one of them would replace the other.
-/

namespace Worksheet

/-- The stored cells in row-major order. -/
def Grid.entries (g : Grid) : List (Position × Value) :=
  g.cells.mergeSort fun a b => decide (a.1 ≤ b.1)

namespace Document

/-- The stored cells in row-major order, inside the current size or not. -/
def entries (d : Document) : List (Position × Value) := d.grid.entries

/-- The entries of a list without those that are replaced: of neighbours with the same key, only the
last one is left. -/
def lastOfEach : List (String × String) → List (String × String)
  | a :: b :: rest => if a.1 = b.1 then lastOfEach (b :: rest) else a :: lastOfEach (b :: rest)
  | entries => entries

/-- The texts that the stored cells show, by key, with the keys sorted as texts. -/
def snapshot (d : Document) : List (String × String) :=
  lastOfEach <|
    (d.grid.cells.map fun e => (e.1.key, e.2.display)).mergeSort fun a b => decide (a.1 ≤ b.1)

end Document

end Worksheet
