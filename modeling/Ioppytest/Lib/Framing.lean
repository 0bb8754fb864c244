import Ioppytest.Lib.Raising

/-!
# Computations on a part of the state

A computation that only touches a part of the state does there what it would do alone: it returns or
raises the same, and leaves the rest as it was. How a part lies in the whole is a function from states
to states, and what a computation leaves alone is one too. The rules follow the steps that a
computation is made of.
-/

namespace Framing

open Raising

variable {ε σ τ α : Type}

/-- A result on a part, seen from the whole. -/
def within (embed : σ → τ) : EStateM.Result ε σ α → EStateM.Result ε τ α
  | .ok value state => .ok value (embed state)
  | .error exception state => .error exception (embed state)

/-- A part of a state changes within the whole. -/
@[simp] theorem finalState_within (embed : σ → τ) (result : EStateM.Result ε σ α) :
    finalState (within embed result) = embed (finalState result) := by
  cases result <;> rfl

/-- The whole raises what its part raises. -/
@[simp] theorem raised_within (embed : σ → τ) (result : EStateM.Result ε σ α) :
    raised (within embed result) = raised result := by
  cases result <;> rfl

/-- The computation on the whole does what the one on the part does. -/
def Framed (embed : σ → τ) (whole : EStateM ε τ α) (part : EStateM ε σ α) (state : σ) : Prop :=
  whole.run (embed state) = within embed (part.run state)

variable {embed : σ → τ} {state : σ} {β : Type}

/-- Nothing is done. -/
theorem framed_pure (value : α) :
    Framed embed (pure value : EStateM ε τ α) (pure value) state := rfl

/-- Changing the part is changing the whole. -/
theorem framed_modify {change : τ → τ} {small : σ → σ}
    (same : change (embed state) = embed (small state)) :
    Framed embed (modify change : EStateM ε τ Unit) (modify small) state := by
  unfold Framed
  simp only [EStateM.run_modify, same, within]

/-- Reading the state first. -/
theorem Framed.get {whole : τ → EStateM ε τ α} {part : σ → EStateM ε σ α}
    (framed : Framed embed (whole (embed state)) (part state) state) :
    Framed embed (do whole (← MonadState.get)) (do part (← MonadState.get)) state := framed

/-- One after the other; the first part may raise. -/
theorem Framed.bind {whole : EStateM ε τ α} {part : EStateM ε σ α} {further : α → EStateM ε τ β}
    {rest : α → EStateM ε σ β} (first : Framed embed whole part state)
    (framed : ∀ value state, Framed embed (further value) (rest value) state) :
    Framed embed (whole >>= further) (part >>= rest) state := by
  unfold Framed at first ⊢
  rw [EStateM.run_bind, EStateM.run_bind, first]
  cases part.run state with
  | ok value after => exact framed value after
  | error exception after => rfl

/-- A check is made that may raise. -/
theorem framed_lift (check : Except ε α) :
    Framed embed (Raising.lift check) (Raising.lift check) state := by
  cases check <;> rfl

/-- A value is read that must be there. -/
theorem framed_expect (exception : ε) (value : Option α) :
    Framed embed (expect exception value) (expect exception value) state := by
  cases value <;> rfl

section Leaves

variable {γ : Type} {observe : σ → γ}

/-- A computation leaves what is observed of the state as it is, whether it returns or raises. -/
def Leaves (observe : σ → γ) (body : EStateM ε σ α) : Prop :=
  ∀ state, observe (finalState (body.run state)) = observe state

/-- Nothing is done. -/
theorem leaves_pure (value : α) : Leaves observe (pure value : EStateM ε σ α) := fun _ => rfl

/-- The state is read. -/
theorem leaves_get : Leaves observe (get : EStateM ε σ σ) := fun _ => rfl

/-- Something else is changed. -/
theorem leaves_modify {change : σ → σ} (same : ∀ state, observe (change state) = observe state) :
    Leaves observe (modify change : EStateM ε σ Unit) := same

/-- A check is made that may raise. -/
theorem leaves_lift (check : Except ε α) : Leaves observe (Raising.lift check) := by
  cases check <;> exact fun _ => rfl

/-- A value is read that must be there. -/
theorem leaves_expect (exception : ε) (value : Option α) :
    Leaves observe (expect exception value) := by
  cases value <;> exact fun _ => rfl

/-- One after the other; the first part may raise. -/
theorem Leaves.bind {first : EStateM ε σ α} {rest : α → EStateM ε σ β}
    (leaves : Leaves observe first) (further : ∀ value, Leaves observe (rest value)) :
    Leaves observe (first >>= rest) := by
  intro state
  have before := leaves state
  rw [EStateM.run_bind]
  cases result : first.run state with
  | ok value after =>
    rw [result] at before
    exact (further value after).trans before
  | error exception after =>
    rw [result] at before
    exact before

end Leaves

end Framing
