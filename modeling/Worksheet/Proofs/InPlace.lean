import Mathlib

/-!
# Computations in place

A computation in place works on a state that is there only once.  It reads and overwrites parts of
it, and it may fail; a failure takes nothing back of what has been written before.  `outcome` is
what such a computation tells together with the state that it leaves, after a failure too, and the
lemmas say how it comes about, step by step.
-/

namespace Worksheet

/-- A computation that overwrites the parts of a state and may fail. -/
abbrev InPlace (σ ε α : Type) := ExceptT ε (StateM σ) α

namespace InPlace

variable {σ ε α β : Type} {s : σ}

/-- What a computation tells, and the state that it leaves. -/
def outcome (x : InPlace σ ε α) (s : σ) : Except ε α × σ := x.run.run s

lemma outcome_pure (a : α) : (pure a : InPlace σ ε α).outcome s = (.ok a, s) := rfl

lemma outcome_throw (e : ε) : (throw e : InPlace σ ε α).outcome s = (.error e, s) := rfl

lemma outcome_get : (get : InPlace σ ε σ).outcome s = (.ok s, s) := rfl

lemma outcome_modify (f : σ → σ) :
    (modify f : InPlace σ ε PUnit).outcome s = (.ok ⟨⟩, f s) := rfl

/-- A computation goes on from the state that its first part leaves, unless that has failed. -/
lemma outcome_bind (x : InPlace σ ε α) (f : α → InPlace σ ε β) :
    (x >>= f).outcome s =
      match x.outcome s with
      | (.ok a, s') => (f a).outcome s'
      | (.error e, s') => (.error e, s') := by
  change (ExceptT.bindCont f (x s).1 : StateM σ (Except ε β)) (x s).2 =
    match x s with
    | (.ok a, s') => f a s'
    | (.error e, s') => (.error e, s')
  rcases x s with ⟨a | e, s'⟩ <;> rfl

end InPlace

end Worksheet
