import Mathlib
import Worksheet.Proofs.Cell.Key
import Worksheet.Proofs.Document.Listing

/-!
# Snapshots lose nothing

A snapshot keeps one text for each key, and a cell whose key were already there would replace
another one.  That this never happens is owed to the keys alone: no two cells have the same one
(`Position.key_injective`), so of the sorted texts nothing is taken away (`snapshot_eq`).

`keys_exact_snapshot_lossless` collects what this is worth: the texts that are read as keys, the
cells that they are read as, and the snapshot in which every stored cell is found under its key.
-/

namespace Worksheet

/-- The texts that the stored cells of a grid show, by key, in the order in which the grid keeps
them. -/
def Grid.shown (g : Grid) : List (String × String) := g.cells.map fun e => (e.1.key, e.2.display)

/-- No key occurs twice, since no position does. -/
lemma Grid.nodup_shown (g : Grid) : (g.shown.map Prod.fst).Nodup := by
  have hkeys : g.shown.map Prod.fst = (g.cells.map Prod.fst).map Position.key := by
    rw [Grid.shown, List.map_map, List.map_map]
    rfl
  rw [hkeys]
  exact g.nodup.map Position.key_injective

namespace Document

variable {d : Document}

/-- Where no key occurs twice, nothing is replaced. -/
lemma lastOfEach_eq_self {entries : List (String × String)} (h : (entries.map Prod.fst).Nodup) :
    lastOfEach entries = entries := by
  fun_induction lastOfEach entries with
  | case1 a b rest hkey ih =>
    have hne : a.1 ∉ b.1 :: rest.map Prod.fst := (List.nodup_cons.mp h).1
    exact absurd (hkey ▸ List.mem_cons_self) hne
  | case2 a b rest hkey ih => rw [ih (List.nodup_cons.mp h).2]
  | case3 entries hshort => rfl

/-- A snapshot is the texts of all stored cells, sorted by their keys. -/
theorem snapshot_eq (d : Document) :
    d.snapshot = d.grid.shown.mergeSort fun a b => decide (a.1 ≤ b.1) := by
  have hperm := (List.mergeSort_perm d.grid.shown fun a b => decide (a.1 ≤ b.1)).map Prod.fst
  exact lastOfEach_eq_self (hperm.nodup_iff.mpr d.grid.nodup_shown)

/-- The keys of a snapshot are sorted as texts, and none of them occurs twice. -/
theorem pairwise_snapshot (d : Document) : d.snapshot.Pairwise fun a b => a.1 < b.1 := by
  have hsorted : d.snapshot.Pairwise fun a b => a.1 ≤ b.1 ∧ a.1 ≠ b.1 := by
    rw [snapshot_eq]
    exact pairwise_mergeSort_keys (r := (· ≤ ·)) le_trans le_total d.grid.nodup_shown
  refine hsorted.imp ?_
  rintro a b ⟨hle, hne⟩
  exact lt_of_le_of_ne hle hne

/-- A snapshot has one entry for each stored cell. -/
theorem length_snapshot (d : Document) : d.snapshot.length = d.grid.size := by
  rw [snapshot_eq, List.length_mergeSort, Grid.shown, List.length_map, Grid.size]

/-- The entries of a snapshot are the stored cells, with the texts that they show. -/
theorem mem_snapshot_iff {entry : String × String} :
    entry ∈ d.snapshot ↔ ∃ p v, d.get? p = some v ∧ entry = (p.key, v.display) := by
  rw [snapshot_eq, List.mem_mergeSort, Grid.shown, List.mem_map]
  constructor
  · rintro ⟨e, he, rfl⟩
    exact ⟨e.1, e.2, Grid.get?_eq_some_iff.mpr he, rfl⟩
  · rintro ⟨p, v, hv, rfl⟩
    exact ⟨(p, v), Grid.get?_eq_some_iff.mp hv, rfl⟩

/-- A stored cell is found in a snapshot under its key. -/
lemma lookup_snapshot {p : Position} {v : Value} (hv : d.get? p = some v) :
    d.snapshot.lookup p.key = some v.display := by
  have hnodup : (d.snapshot.map Prod.fst).Nodup := by
    refine List.pairwise_map.mpr (d.pairwise_snapshot.imp ?_)
    intro a b hlt
    exact hlt.ne
  exact (lookup_eq_some_iff_mem hnodup).mpr (mem_snapshot_iff.mpr ⟨p, v, hv, rfl⟩)

/-- Documents in which the same values are stored have the same snapshot. -/
theorem snapshot_congr {d d' : Document} (hlook : d.get? = d'.get?) : d.snapshot = d'.snapshot := by
  refine eq_of_pairwise_keys (r := (· < ·)) (fun hab hba => lt_asymm hab hba) d.pairwise_snapshot
    d'.pairwise_snapshot ?_
  intro entry
  rw [mem_snapshot_iff, mem_snapshot_iff, hlook]

/-- The key of a cell with machine words for its indices is read as that cell.  The texts that are
read are two runs of digits around a hyphen with machine words for their values, which are the
indices of the cell; and the key of that cell is the text without the zeros in front of its runs.

So a snapshot has as many entries as there are stored cells, no key twice among them, and every
stored cell has the text that it shows under its key. -/
theorem keys_exact_snapshot_lossless :
    (∀ p : Position, p.row < 2 ^ 64 → p.col < 2 ^ 64 → Position.ofKey? p.key = some p) ∧
    (∀ key p, Position.ofKey? key = some p ↔ ∃ row col, Position.IsKey key row col ∧
      p = ⟨Text.placeValue 10 Text.digitWeight row, Text.placeValue 10 Text.digitWeight col⟩) ∧
    (∀ key row col p, Position.IsKey key row col → Position.ofKey? key = some p →
      p.key.toList = Text.withoutZeros row ++ '-' :: Text.withoutZeros col) ∧
    ∀ d : Document, d.snapshot.length = d.grid.size ∧
      (d.snapshot.Pairwise fun a b => a.1 < b.1) ∧
      ∀ p v, d.get? p = some v → d.snapshot.lookup p.key = some v.display := by
  refine ⟨?_, fun key p => Position.ofKey?_eq_some_iff, ?_, ?_⟩
  · intro p hrow hcol
    rw [Position.ofKey?, Position.toList_key]
    exact Position.ofKeyChars?_keyChars ⟨hrow, hcol⟩
  · intro key row col p hkey hp
    rw [Position.toList_key, hkey.keyChars_eq hp]
  · intro d
    exact ⟨d.length_snapshot, d.pairwise_snapshot, fun p v hv => lookup_snapshot hv⟩

/-- A text with zeros in front of both runs, one of which has nothing else, is read as its cell,
whose key is the text without them.  The texts of the two cells with the indices one and eleven,
whose digits are the same ones, are found under different keys. -/
theorem keys_exact_snapshot_lossless_of_zeros :
    Position.IsKey "007-00" ['0', '0', '7'] ['0', '0'] ∧
      Position.ofKey? "007-00" = some ⟨7, 0⟩ ∧ (⟨7, 0⟩ : Position).key.toList = ['7', '-', '0'] ∧
      Position.ofKey? (⟨7, 0⟩ : Position).key = some ⟨7, 0⟩ ∧
      let d := ((blank.enter ⟨1, 11⟩ "right").1.enter ⟨11, 1⟩ "left").1
      d.get? ⟨11, 1⟩ = some (.text "left") ∧ d.snapshot.length = 2 ∧
        d.snapshot.lookup (⟨11, 1⟩ : Position).key = some "left" := by
  obtain ⟨hread, hexact, hkey, hsnapshot⟩ := keys_exact_snapshot_lossless
  have hrow : Text.IsWordRun ['0', '0', '7'] := ⟨by decide, List.all_eq_true.mp rfl, by decide⟩
  have hcol : Text.IsWordRun ['0', '0'] := ⟨by decide, List.all_eq_true.mp rfl, by decide⟩
  have hzeros : Position.IsKey "007-00" ['0', '0', '7'] ['0', '0'] := ⟨by decide, hrow, hcol⟩
  have hp : Position.ofKey? "007-00" = some ⟨7, 0⟩ :=
    (hexact _ _).mpr ⟨_, _, hzeros, by decide⟩
  refine ⟨hzeros, hp, ?_, hread _ (by decide) (by decide), ?_⟩
  · rw [hkey _ _ _ _ hzeros hp]
    decide
  · intro d
    obtain ⟨hlength, -, hlookup⟩ := hsnapshot d
    have hget : d.get? ⟨11, 1⟩ = some (.text "left") := by decide
    exact ⟨hget, hlength, hlookup _ _ hget⟩

end Document

end Worksheet
