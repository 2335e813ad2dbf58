import Mathlib

/-!
# Lists of keys and values

A grid keeps its cells, and a settings file its values, as a list in which no key occurs twice.  A
key is then looked up with its one value (`lookup_eq_some_iff_mem`).  A listing is such a list
sorted by its keys: they increase strictly (`pairwise_mergeSort_keys`), so there is only one listing
of the same entries (`eq_of_pairwise_keys`).
-/

namespace Worksheet

variable {α β : Type*}

/-- With no key twice, a key is looked up with each of its values. -/
lemma lookup_eq_some_iff_mem [BEq α] [LawfulBEq α] {l : List (α × β)}
    (hnodup : (l.map Prod.fst).Nodup) {a : α} {b : β} : l.lookup a = some b ↔ (a, b) ∈ l := by
  constructor
  · intro h
    obtain ⟨before, after, rfl, -⟩ := List.lookup_eq_some_iff.mp h
    simp
  · intro h
    obtain ⟨before, after, rfl⟩ := List.append_of_mem h
    refine List.lookup_eq_some_iff.mpr ⟨before, after, rfl, ?_⟩
    intro e he
    rw [List.map_append, List.map_cons] at hnodup
    have hne := (List.nodup_append.mp hnodup).2.2 e.1 (List.mem_map_of_mem he) a List.mem_cons_self
    simpa using hne.symm

/-- With no key twice, sorting by the keys puts every key before larger ones. -/
lemma pairwise_mergeSort_keys {r : α → α → Prop} [DecidableRel r]
    (htrans : ∀ {a b c}, r a b → r b c → r a c) (htotal : ∀ a b, r a b ∨ r b a)
    {l : List (α × β)} (hnodup : (l.map Prod.fst).Nodup) :
    (l.mergeSort fun a b => decide (r a.1 b.1)).Pairwise fun a b => r a.1 b.1 ∧ a.1 ≠ b.1 := by
  have hsorted : (l.mergeSort fun a b => decide (r a.1 b.1)).Pairwise fun a b => r a.1 b.1 := by
    refine (List.pairwise_mergeSort ?_ ?_ l).imp of_decide_eq_true
    · intro a b c hab hbc
      exact decide_eq_true (htrans (of_decide_eq_true hab) (of_decide_eq_true hbc))
    · intro a b
      simpa using htotal a.1 b.1
  have hdistinct : (l.mergeSort fun a b => decide (r a.1 b.1)).Pairwise fun a b => a.1 ≠ b.1 := by
    have hperm := (List.mergeSort_perm l fun a b => decide (r a.1 b.1)).map Prod.fst
    exact List.pairwise_map.mp (hperm.nodup_iff.mpr hnodup)
  exact hsorted.and hdistinct

/-- Two lists with the same entries are the same if their keys increase strictly. -/
lemma eq_of_pairwise_keys {r : α → α → Prop} (hasymm : ∀ {a b}, r a b → ¬ r b a)
    {l l' : List (α × β)} (hl : l.Pairwise fun a b => r a.1 b.1)
    (hl' : l'.Pairwise fun a b => r a.1 b.1) (hmem : ∀ e, e ∈ l ↔ e ∈ l') : l = l' := by
  have : Std.Antisymm fun a b : α × β => r a.1 b.1 := ⟨fun _ _ hab hba => absurd hba (hasymm hab)⟩
  have : Std.Irrefl fun a b : α × β => r a.1 b.1 := ⟨fun _ haa => hasymm haa haa⟩
  exact hl.eq_of_mem_iff hl' hmem

end Worksheet
