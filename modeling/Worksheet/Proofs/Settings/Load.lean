import Mathlib
import Worksheet.Document.Failure
import Worksheet.Settings.Basic
import Worksheet.Proofs.Lookup

/-!
# What a settings file decides

A file either holds settings (`File.Holds`), and then each count is the value of its key or the
default (`Settings.count_of_ofPairs?`), or it does not, and then the default settings are used
(`Settings.load_of_not_holds`).

The column width is always in its range (`Settings.columnWidth_load_range`), but no count is
compared with the range of its direction.  `File.Oversteps` says that a file that holds settings has
a count out of range, and `Settings.exists_not_allows_load_iff` that these are the files whose
settings have one.
-/

namespace Worksheet

/-- The key of a count in a settings file. -/
def Axis.key : Axis → List Char
  | .row => "rows".toList
  | .column => "cols".toList

/-- A file holds the settings that keys and values give. -/
def File.Holds (f : File) (pairs : List (List Char × ℤ)) : Prop :=
  ∃ bytes text, f = .content bytes ∧ String.fromUTF8? bytes = some text ∧
    Toml.pairs? text.toList = some pairs ∧ (Settings.ofPairs? pairs).isSome

/-- A file holds settings, one of which is a count that its direction does not allow. -/
def File.Oversteps (f : File) : Prop :=
  ∃ pairs, f.Holds pairs ∧ ∃ (a : Axis) (n : ℤ), (a.key, n) ∈ pairs ∧ ¬ (1 ≤ n ∧ n ≤ a.limit)

lemma File.Holds.unique {f : File} {pairs pairs' : List (List Char × ℤ)} (h : f.Holds pairs)
    (h' : f.Holds pairs') : pairs = pairs' := by
  obtain ⟨bytes, text, rfl, htext, hpairs, -⟩ := h
  obtain ⟨bytes', text', hbytes, htext', hpairs', -⟩ := h'
  rw [File.content.injEq] at hbytes
  subst hbytes
  obtain rfl : text = text' := Option.some.inj (htext.symm.trans htext')
  exact Option.some.inj (hpairs.symm.trans hpairs')

namespace Settings

/-- The count in a direction. -/
def count (s : Settings) : Axis → ℕ
  | .row => s.rows
  | .column => s.cols

variable {s : Settings} {source : Source} {f : File} {pairs : List (List Char × ℤ)}

/-! ### Keys and values -/

/-- What keys and values that give settings are like, and which settings they give. -/
lemma ofPairs?_eq_some (h : ofPairs? pairs = some s) :
    (pairs.map Prod.fst).Nodup ∧ (∀ p ∈ pairs, 0 ≤ p.2) ∧
      s = ⟨(pairs.lookup "rows".toList).elim 6 Int.toNat,
        (pairs.lookup "cols".toList).elim 6 Int.toNat,
        clampWidth ((pairs.lookup "column_width".toList).elim 10 Int.toNat)⟩ := by
  unfold ofPairs? at h
  split at h
  · next hpairs =>
    refine ⟨hpairs.2, fun p hp => ?_, (Option.some.inj h).symm⟩
    have hall := List.all_eq_true.mp hpairs.1 p hp
    simpa using (Bool.and_eq_true_iff.mp hall).2
  · cases h

/-- A count is the value of its key, or else six. -/
lemma count_of_ofPairs? (h : ofPairs? pairs = some s) (a : Axis) :
    s.count a = (pairs.lookup a.key).elim 6 Int.toNat := by
  obtain ⟨-, -, rfl⟩ := ofPairs?_eq_some h
  cases a <;> rfl

/-- A count is not allowed exactly if the file says so, since the default is allowed. -/
lemma not_allows_count_iff (h : ofPairs? pairs = some s) (a : Axis) :
    ¬ a.Allows (s.count a) ↔ ∃ n : ℤ, (a.key, n) ∈ pairs ∧ ¬ (1 ≤ n ∧ n ≤ a.limit) := by
  obtain ⟨hnodup, hnonneg, -⟩ := ofPairs?_eq_some h
  have hvalue : ∀ n : ℤ, (a.key, n) ∈ pairs → (a.Allows (s.count a) ↔ 1 ≤ n ∧ n ≤ a.limit) := by
    intro n hn
    have hn0 : 0 ≤ n := hnonneg _ hn
    rw [count_of_ofPairs? h, (lookup_eq_some_iff_mem hnodup).mpr hn, Option.elim_some, Axis.Allows]
    omega
  constructor
  · intro hnot
    cases hlook : pairs.lookup a.key with
    | none =>
      rw [count_of_ofPairs? h, hlook] at hnot
      exact absurd (by cases a <;> decide) hnot
    | some n =>
      have hn : (a.key, n) ∈ pairs := (lookup_eq_some_iff_mem hnodup).mp hlook
      exact ⟨n, hn, fun hrange => hnot ((hvalue n hn).mpr hrange)⟩
  · rintro ⟨n, hn, hrange⟩ hallows
    exact hrange ((hvalue n hn).mp hallows)

lemma clampWidth_range (n : ℕ) : minColumnWidth ≤ clampWidth n ∧ clampWidth n ≤ maxColumnWidth :=
  ⟨le_max_left _ _, max_le (by decide) (min_le_right _ _)⟩

/-! ### Files -/

/-- A file that holds settings is loaded without a warning. -/
lemma load_of_holds (source : Source) (h : f.Holds pairs) :
    ∃ s, ofPairs? pairs = some s ∧ load source f = (s, []) := by
  obtain ⟨bytes, text, rfl, htext, hpairs, hsome⟩ := h
  obtain ⟨s, hs⟩ := Option.isSome_iff_exists.mp hsome
  refine ⟨s, hs, ?_⟩
  simp only [load, htext, ofChars?, hpairs, Option.bind_some, hs]

/-- Any other file is answered with the default settings. -/
theorem load_of_not_holds (h : ¬ ∃ pairs, f.Holds pairs) : (load source f).1 = {} := by
  cases f with
  | missing => rfl
  | unreadable => rfl
  | content bytes =>
    cases htext : String.fromUTF8? bytes with
    | none => simp only [load, htext]
    | some text =>
      cases hset : ofChars? text.toList with
      | none => simp only [load, htext, hset]
      | some s =>
        obtain ⟨pairs, hpairs, hs⟩ := Option.bind_eq_some_iff.mp hset
        exact absurd ⟨pairs, bytes, text, rfl, htext, hpairs, Option.isSome_of_eq_some hs⟩ h

/-- Whatever a file holds, the column width is in the allowed range. -/
theorem columnWidth_load_range (source : Source) (f : File) :
    minColumnWidth ≤ (load source f).1.columnWidth ∧
      (load source f).1.columnWidth ≤ maxColumnWidth := by
  by_cases hholds : ∃ pairs, f.Holds pairs
  · obtain ⟨pairs, hpairs⟩ := hholds
    obtain ⟨s, hs, hload⟩ := load_of_holds source hpairs
    obtain ⟨-, -, rfl⟩ := ofPairs?_eq_some hs
    rw [hload]
    exact clampWidth_range _
  · rw [load_of_not_holds hholds]
    decide

/-- The settings that are loaded have a count out of range exactly for a file that oversteps. -/
theorem exists_not_allows_load_iff :
    (∃ a : Axis, ¬ a.Allows ((load source f).1.count a)) ↔ f.Oversteps := by
  by_cases hholds : ∃ pairs, f.Holds pairs
  · obtain ⟨pairs, hpairs⟩ := hholds
    obtain ⟨s, hs, hload⟩ := load_of_holds source hpairs
    rw [hload]
    simp only [not_allows_count_iff hs]
    constructor
    · rintro ⟨a, n, hn⟩
      exact ⟨pairs, hpairs, a, n, hn⟩
    · rintro ⟨pairs', hpairs', a, n, hn⟩
      have heq : pairs' = pairs := hpairs'.unique hpairs
      exact ⟨a, n, heq ▸ hn⟩
  · rw [load_of_not_holds hholds]
    constructor
    · rintro ⟨a, hnot⟩
      exact absurd (by cases a <;> decide) hnot
    · rintro ⟨pairs, hpairs, -⟩
      exact absurd ⟨pairs, hpairs⟩ hholds

end Settings

end Worksheet
