import Mathlib
import Worksheet.Formula.Evaluate
import Worksheet.Proofs.Formula.Cut
import Worksheet.Proofs.Formula.Reference
import Worksheet.Proofs.Number.Kind

/-!
# The meaning of a formula

Every text is a formula, so its meaning has to be given for all of them.  The rules below say what
a formula with the sides `l` and `r` around an operator means over a grid, without cutting or
searching anything: `Lookup.Reads` is the value at the first reference of a side, `Value.Counts` the
number in a value, `Lookup.Counts` the number that a side stands for, `Operator.Yields` the
arithmetic of each operator on doubles, `Operator.Combines` the order of the checks around it and
`Lookup.Means` the copy of a cell and the computation.

`evaluate_eq_iff` is the main statement: evaluation gives exactly the results that the rules allow.
The mark in front and all that follows the next operator do not occur in the rules.
-/

namespace Worksheet

/-! ### The rules -/

/-- The first reference of a text reads a value: what is stored in the cell that it names, and the
empty value if it names no cell or nothing is stored there. -/
def Lookup.Reads (look : Lookup) (cs : List Char) (v : Value) : Prop :=
  ∃ r : Reference, r.IsFirstIn cs ∧
    ((∃ p, r.Names p ∧ look p = some v) ∨ ((∀ p, r.Names p → look p = none) ∧ v = .empty))

/-- A value counts as a number, or as none. -/
inductive Value.Counts : Value → Option Float → Prop
  | number (x : Float) : Counts (.number x) (some x)
  /-- A text is read as a number, as far as one can be read from its start. -/
  | text (s : String) : Counts (.text s) (Numeral.read? s.toList)
  | empty : Counts .empty none
  | fault (f : Fault) : Counts (.fault f) none

/-- A side of a formula stands for a number, or for none. -/
inductive Lookup.Counts (look : Lookup) (cs : List Char) : Option Float → Prop
  /-- A side that refers stands for the number in the cell. -/
  | cell {v : Value} {n : Option Float} (h : look.Reads cs v) (hv : v.Counts n) :
      Counts look cs n
  /-- A side that does not is read as a number itself. -/
  | literal (h : ¬ Refers cs) : Counts look cs (Numeral.read? cs)

/-- The sum, difference, product or quotient of two doubles. -/
inductive Operator.Yields (x y : Float) : Operator → Float → Prop
  | add : Yields x y .add (x + y)
  | sub : Yields x y .sub (x - y)
  | mul : Yields x y .mul (x * y)
  | div : Yields x y .div (x / y)

/-- An operator combines the numbers of two sides into a result. -/
inductive Operator.Combines (o : Operator) :
    Option Float → Option Float → Except Fault Value → Prop
  /-- Both sides have to be numbers. -/
  | missing {a b : Option Float} (h : a = none ∨ b = none) : Combines o a b (.error .invalid)
  /-- Both numbers have to be finite. -/
  | infinite {x y : Float} (h : x.isFinite = false ∨ y.isFinite = false) :
      Combines o (some x) (some y) (.error .invalid)
  /-- Only then a divisor is compared with the two zeros. -/
  | zeroDivisor {x y : Float} (hx : x.isFinite = true) (hy : y.isFinite = true) (ho : o = .div)
      (hzero : y = 0 ∨ y = -0) : Combines o (some x) (some y) (.error .divisionByZero)
  /-- A result has to be finite. -/
  | overflow {x y z : Float} (hx : x.isFinite = true) (hy : y.isFinite = true)
      (hdiv : ¬ (o = .div ∧ (y = 0 ∨ y = -0))) (hz : o.Yields x y z) (h : z.isFinite = false) :
      Combines o (some x) (some y) (.error .invalid)
  | number {x y z : Float} (hx : x.isFinite = true) (hy : y.isFinite = true)
      (hdiv : ¬ (o = .div ∧ (y = 0 ∨ y = -0))) (hz : o.Yields x y z) (h : z.isFinite = true) :
      Combines o (some x) (some y) (.ok (.number z))

/-- What a formula with two sides means. -/
inductive Lookup.Means (look : Lookup) (l : List Char) (o : Operator) (r : List Char) :
    Except Fault Value → Prop
  /-- If the left side alone refers, its value is copied as it is. -/
  | copy {v : Value} (hl : look.Reads l v) (hr : ¬ Refers r) : Means look l o r (.ok v)
  /-- In all other cases the numbers of the two sides are combined. -/
  | compute {a b : Option Float} {result : Except Fault Value} (h : Refers l → Refers r)
      (ha : look.Counts l a) (hb : look.Counts r b) (hab : o.Combines a b result) :
      Means look l o r result

/-! ### One side -/

/-- The value of a reference in a text is the one that it reads. -/
lemma Lookup.fetch_eq_iff {look : Lookup} {r : Reference} {cs : List Char}
    (h : r.IsFirstIn cs) {v : Value} :
    look.fetch r = v ↔
      (∃ p, r.Names p ∧ look p = some v) ∨ ((∀ p, r.Names p → look p = none) ∧ v = .empty) := by
  have hnames := fun p => Reference.position?_eq_some_iff h (p := p)
  unfold Lookup.fetch
  cases hp : r.position? with
  | none =>
    have hno : ∀ p, ¬ r.Names p := by
      intro p hr
      rw [(hnames p).mpr hr] at hp
      cases hp
    constructor
    · rintro rfl
      exact Or.inr ⟨fun p hr => absurd hr (hno p), rfl⟩
    · rintro (⟨p, hr, -⟩ | ⟨-, rfl⟩)
      · exact absurd hr (hno p)
      · rfl
  | some p =>
    have hr : r.Names p := (hnames p).mp hp
    have huniq : ∀ q, r.Names q → q = p := by
      intro q hq
      rw [← hnames q, hp] at hq
      exact (Option.some.inj hq).symm
    rw [Option.bind_some]
    cases hlook : look p with
    | none =>
      constructor
      · rintro rfl
        exact Or.inr ⟨fun q hq => huniq q hq ▸ hlook, rfl⟩
      · rintro (⟨q, hq, hv⟩ | ⟨-, rfl⟩)
        · rw [huniq q hq, hlook] at hv
          cases hv
        · rfl
    | some w =>
      constructor
      · rintro rfl
        exact Or.inl ⟨p, hr, hlook⟩
      · rintro (⟨q, hq, hv⟩ | ⟨hnone, -⟩)
        · rw [huniq q hq, hlook] at hv
          exact Option.some.inj hv
        · rw [hnone p hr] at hlook
          cases hlook

/-- The first reference of a text reads the value that is fetched for it. -/
lemma Lookup.reads_iff {look : Lookup} {cs : List Char} {v : Value} :
    look.Reads cs v ↔ ∃ r, Reference.find? cs = some r ∧ look.fetch r = v := by
  constructor
  · rintro ⟨r, hr, h⟩
    exact ⟨r, Reference.find?_eq_some_iff.mpr hr, (Lookup.fetch_eq_iff hr).mpr h⟩
  · rintro ⟨r, hr, h⟩
    have hfirst := Reference.find?_eq_some_iff.mp hr
    exact ⟨r, hfirst, (Lookup.fetch_eq_iff hfirst).mp h⟩

/-- A text that refers has a first reference. -/
lemma Refers.exists_find? {cs : List Char} (h : Refers cs) :
    ∃ r, Reference.find? cs = some r := by
  cases hr : Reference.find? cs with
  | none => exact absurd h (Reference.find?_eq_none_iff.mp hr)
  | some r => exact ⟨r, rfl⟩

/-- A text with a first reference refers. -/
lemma Reference.refers_of_find? {cs : List Char} {r : Reference} (h : find? cs = some r) :
    Refers cs := by
  by_contra hcs
  rw [find?_eq_none_iff.mpr hcs] at h
  cases h

/-- A value counts as the number that is read from it. -/
lemma Value.counts_iff {v : Value} {n : Option Float} : v.Counts n ↔ v.number? = n := by
  constructor
  · rintro (_ | _ | _ | _) <;> rfl
  · rintro rfl
    cases v with
    | empty => exact .empty
    | text s => exact .text s
    | number x => exact .number x
    | fault f => exact .fault f

/-- A side stands for the number that the evaluator takes from it. -/
lemma Lookup.counts_iff {look : Lookup} {cs : List Char} {n : Option Float} :
    look.Counts cs n ↔ (Operand.ofChars cs).number? look = n := by
  constructor
  · rintro (⟨hv, hn⟩ | hcs)
    · obtain ⟨r, hr, rfl⟩ := Lookup.reads_iff.mp hv
      rw [Operand.ofChars, hr, Operand.number?, Value.counts_iff.mp hn]
    · rw [Operand.ofChars, Reference.find?_eq_none_iff.mpr hcs, Operand.number?]
  · rintro rfl
    cases hr : Reference.find? cs with
    | none =>
      rw [Operand.ofChars, hr, Operand.number?]
      exact .literal (Reference.find?_eq_none_iff.mp hr)
    | some r =>
      rw [Operand.ofChars, hr, Operand.number?]
      exact .cell (Lookup.reads_iff.mpr ⟨r, hr, rfl⟩) (Value.counts_iff.mpr rfl)

/-! ### Both sides -/

/-- An operator yields the one double that it computes. -/
lemma Operator.yields_iff {o : Operator} {x y z : Float} :
    o.Yields x y z ↔ o.apply x y = z := by
  constructor
  · rintro (_ | _ | _ | _) <;> rfl
  · rintro rfl
    cases o with
    | add => exact .add
    | sub => exact .sub
    | mul => exact .mul
    | div => exact .div

/-- The arithmetic of an operator follows its rules. -/
lemma Operator.combines_compute (o : Operator) (x y : Float) :
    o.Combines (some x) (some y) (o.compute x y) := by
  unfold Operator.compute
  by_cases hfinite : x.isFinite = true ∧ y.isFinite = true
  · obtain ⟨hx, hy⟩ := hfinite
    rw [hx, hy]
    by_cases hdiv : o = .div ∧ (y = 0 ∨ y = -0)
    · have hzero : (o == .div && y == 0) = true := by
        rw [Bool.and_eq_true, beq_iff_eq, Binary64.beq_zero_iff]
        exact hdiv
      simpa [hzero] using .zeroDivisor hx hy hdiv.1 hdiv.2
    · have hnonzero : (o == .div && y == 0) = false := by
        rw [Bool.eq_false_iff, Ne, Bool.and_eq_true, beq_iff_eq, Binary64.beq_zero_iff]
        exact hdiv
      have hyields : o.Yields x y (o.apply x y) := Operator.yields_iff.mpr rfl
      cases hresult : (o.apply x y).isFinite with
      | false => simpa [hnonzero, hresult] using .overflow hx hy hdiv hyields hresult
      | true => simpa [hnonzero, hresult] using .number hx hy hdiv hyields hresult
  · have hinfinite : x.isFinite = false ∨ y.isFinite = false := by
      rw [← Bool.not_eq_true, ← Bool.not_eq_true, ← not_and_or]
      exact hfinite
    have hbad : (!(x.isFinite && y.isFinite)) = true := by
      rcases hinfinite with h | h <;> simp [h]
    rw [if_pos hbad]
    exact .infinite hinfinite

/-- The rules of the arithmetic allow one result. -/
lemma Operator.Combines.unique {o : Operator} {a b : Option Float} {s t : Except Fault Value}
    (hs : o.Combines a b s) (ht : o.Combines a b t) : s = t := by
  cases hs <;> cases ht <;> simp_all [Operator.yields_iff]

namespace Formula

variable {look : Lookup} {l r : List Char} {o : Operator}

/-- If the left side alone refers, the value that it reads is the result. -/
lemma result_copy {ref : Reference} (hl : Reference.find? l = some ref) (hr : ¬ Refers r) :
    result look ⟨l, some (o, r)⟩ = .ok (look.fetch ref) := by
  simp only [result, Operand.ofChars, hl, Reference.find?_eq_none_iff.mpr hr]

/-- In all other cases the result combines the numbers of the two sides. -/
lemma combines_result (h : Refers l → Refers r) :
    o.Combines ((Operand.ofChars l).number? look) ((Operand.ofChars r).number? look)
      (result look ⟨l, some (o, r)⟩) := by
  simp only [result]
  split
  · next ref cs hl hr =>
    -- only here the left side refers and the right one does not
    have hplain : ¬ Refers r := by
      intro hrefers
      obtain ⟨ref', href'⟩ := hrefers.exists_find?
      simp only [Operand.ofChars, href', reduceCtorEq] at hr
    have hrefers : Refers l := by
      by_contra hno
      simp only [Operand.ofChars, Reference.find?_eq_none_iff.mpr hno, reduceCtorEq] at hl
    exact absurd (h hrefers) hplain
  · cases (Operand.ofChars l).number? look with
    | none => exact .missing (Or.inl rfl)
    | some x =>
      cases (Operand.ofChars r).number? look with
      | none => exact .missing (Or.inr rfl)
      | some y => exact o.combines_compute x y

/-- The result of a formula with two sides is its meaning. -/
lemma result_eq_iff {res : Except Fault Value} :
    result look ⟨l, some (o, r)⟩ = res ↔ look.Means l o r res := by
  by_cases hcopy : Refers l ∧ ¬ Refers r
  · obtain ⟨hl, hr⟩ := hcopy
    obtain ⟨ref, href⟩ := hl.exists_find?
    rw [result_copy href hr]
    constructor
    · rintro rfl
      exact .copy (Lookup.reads_iff.mpr ⟨ref, href, rfl⟩) hr
    · rintro (⟨hv, -⟩ | ⟨h, -, -, -⟩)
      · obtain ⟨ref', href', rfl⟩ := Lookup.reads_iff.mp hv
        rw [href] at href'
        rw [Option.some.inj href']
      · exact absurd (h hl) hr
  · have hcompute : Refers l → Refers r := by
      intro hl
      by_contra hr
      exact hcopy ⟨hl, hr⟩
    constructor
    · rintro rfl
      exact .compute hcompute (Lookup.counts_iff.mpr rfl) (Lookup.counts_iff.mpr rfl)
        (combines_result hcompute)
    · rintro (⟨hv, hr⟩ | ⟨-, ha, hb, hab⟩)
      · obtain ⟨ref, href, -⟩ := Lookup.reads_iff.mp hv
        exact absurd ⟨Reference.refers_of_find? href, hr⟩ hcopy
      · rw [← Lookup.counts_iff.mp ha, ← Lookup.counts_iff.mp hb] at hab
        exact (combines_result hcompute).unique hab

/-- The result of a formula without an operator is the value of its reference. -/
lemma result_none_eq_iff {res : Except Fault Value} :
    result look ⟨l, none⟩ = res ↔
      (∃ v, look.Reads l v ∧ res = .ok v) ∨ (¬ Refers l ∧ res = .error .invalid) := by
  cases hl : Reference.find? l with
  | none =>
    have hno : ¬ Refers l := Reference.find?_eq_none_iff.mp hl
    have hreads : ∀ v, ¬ look.Reads l v := by
      intro v hv
      obtain ⟨ref, href, -⟩ := Lookup.reads_iff.mp hv
      rw [hl] at href
      cases href
    simp only [result, Operand.ofChars, hl, hreads, false_and, exists_false, false_or, hno,
      not_false_eq_true, true_and]
    exact eq_comm
  | some ref =>
    have hrefers : Refers l := Reference.refers_of_find? hl
    simp only [result, Operand.ofChars, hl, Lookup.reads_iff, Option.some.injEq, hrefers,
      not_true_eq_false, false_and, or_false]
    constructor
    · rintro rfl
      exact ⟨_, ⟨ref, rfl, rfl⟩, rfl⟩
    · rintro ⟨v, ⟨ref', rfl, rfl⟩, rfl⟩
      rfl

/-- Evaluation gives every formula the results that its meaning allows, and no other: a formula
around the character of an operator, whatever follows the next operator character, and a formula
without one. -/
theorem evaluate_eq_iff (look : Lookup) (mark : Char) {l r tail : List Char} {c : Char}
    {o : Operator} (hc : (c, o) ∈ [('+', Operator.add), ('-', .sub), ('*', .mul), ('/', .div)])
    (hl : ∀ c ∈ l, c ∉ ['+', '-', '*', '/']) (hr : ∀ c ∈ r, c ∉ ['+', '-', '*', '/'])
    (htail : ∀ c ∈ tail.head?, c ∈ ['+', '-', '*', '/']) (res : Except Fault Value) :
    (evaluate look (mark :: (l ++ c :: (r ++ tail))) = res ↔ look.Means l o r res) ∧
      (evaluate look (mark :: l) = res ↔
        (∃ v, look.Reads l v ∧ res = .ok v) ∨ (¬ Refers l ∧ res = .error .invalid)) := by
  constructor
  · rw [evaluate, List.tail_cons, ← Operator.toChar_of_mem hc, ofBody_append o hl hr htail]
    exact result_eq_iff
  · rw [evaluate, List.tail_cons, ofBody_of_plain hl]
    exact result_none_eq_iff

/-- The first reference of `A1` is the whole of it, so a lookup reads the first cell there. -/
lemma reads_first_cell {v : Value} (h : look ⟨0, 0⟩ = some v) : look.Reads ['A', '1'] v := by
  refine ⟨⟨'A', ['1']⟩, ⟨[], 'A', [], rfl, rfl, rfl, List.cons_ne_nil _ _, ?_, ?_,
    not_refers_singleton 'A'⟩, Or.inl ⟨⟨0, 0⟩, ⟨rfl, rfl, by decide⟩, h⟩⟩ <;> simp

/-- One character is no reference, so it stands for the number that it reads as. -/
lemma counts_singleton {d : Char} {n : Option Float} (h : Numeral.read? [d] = n) :
    look.Counts [d] n :=
  h ▸ .literal (not_refers_singleton d)

/-- In `=A1*-5` the right side ends at the second operator and is empty, so the first cell is
copied.  In `=7/2*3` it ends there too, and what is computed is the quotient alone. -/
theorem evaluate_copies_or_divides :
    ('*', Operator.mul) ∈ [('+', Operator.add), ('-', .sub), ('*', .mul), ('/', .div)] ∧
      ('/', Operator.div) ∈ [('+', Operator.add), ('-', .sub), ('*', .mul), ('/', .div)] ∧
      (∀ c ∈ ['A', '1'], c ∉ ['+', '-', '*', '/']) ∧
      (∀ c ∈ ([] : List Char), c ∉ ['+', '-', '*', '/']) ∧
      (∀ c ∈ ['-', '5'].head?, c ∈ ['+', '-', '*', '/']) ∧
      (∀ c ∈ ['7'], c ∉ ['+', '-', '*', '/']) ∧ (∀ c ∈ ['2'], c ∉ ['+', '-', '*', '/']) ∧
      (∀ c ∈ ['*', '3'].head?, c ∈ ['+', '-', '*', '/']) ∧
      evaluate (fun _ => some (.text "10")) ['=', 'A', '1', '*', '-', '5'] =
        .ok (.text "10") ∧
      evaluate (fun _ => none) ['=', '7', '/', '2', '*', '3'] = .ok (.number 3.5) := by
  have hmul : ('*', Operator.mul) ∈
      [('+', Operator.add), ('-', .sub), ('*', .mul), ('/', .div)] := by simp
  have hdiv : ('/', Operator.div) ∈
      [('+', Operator.add), ('-', .sub), ('*', .mul), ('/', .div)] := by simp
  have hl : ∀ c ∈ ['A', '1'], c ∉ ['+', '-', '*', '/'] := by simp
  have hr : ∀ c ∈ ([] : List Char), c ∉ ['+', '-', '*', '/'] := by simp
  have htail : ∀ c ∈ ['-', '5'].head?, c ∈ ['+', '-', '*', '/'] := by simp
  have hseven : ∀ c ∈ ['7'], c ∉ ['+', '-', '*', '/'] := by simp
  have htwo : ∀ c ∈ ['2'], c ∉ ['+', '-', '*', '/'] := by simp
  have hthree : ∀ c ∈ ['*', '3'].head?, c ∈ ['+', '-', '*', '/'] := by simp
  refine ⟨hmul, hdiv, hl, hr, htail, hseven, htwo, hthree, ?_, ?_⟩
  · exact (evaluate_eq_iff (fun _ => some (.text "10")) '=' hmul hl hr htail _).1.mpr
      (.copy (reads_first_cell rfl) not_refers_nil)
  · apply (evaluate_eq_iff (fun _ => none) '=' hdiv hseven htwo hthree _).1.mpr
    have hquotient : Operator.Yields 7 2 .div 3.5 := by
      have h : (7 : Float) / 2 = 3.5 := by decide +kernel
      exact h ▸ .div
    have hcombines : Operator.Combines .div (some 7) (some 2) (.ok (.number 3.5)) :=
      .number (by decide +kernel) (by decide +kernel) (by decide +kernel) hquotient
        (by decide +kernel)
    exact .compute (fun h => absurd h (not_refers_singleton '7'))
      (counts_singleton (by decide +kernel)) (counts_singleton (by decide +kernel)) hcombines

end Formula

end Worksheet
