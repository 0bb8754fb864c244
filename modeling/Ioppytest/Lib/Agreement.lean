import Ioppytest.Lib.Raising

/-!
# Computations that agree

A computation that can end in more ways agrees with another one where it ends in the same way: it
returns what the other one returns, raises what it raises, and leaves behind the same state. The
rules follow the steps that both are made of, with what holds of the state afterwards.
-/

namespace Agreement

open Raising

variable {ε δ σ α : Type}

/-- A result whose exception is one of another kind. -/
def renamed (rename : ε → δ) : EStateM.Result ε σ α → EStateM.Result δ σ α
  | .ok value state => .ok value state
  | .error exception state => .error (rename exception) state

/-- A computation whose exceptions are of another kind. -/
def raisingAs (rename : ε → δ) (body : EStateM ε σ α) : EStateM δ σ α := fun state =>
  renamed rename (body.run state)

/-- Renaming the exceptions of a run. -/
@[simp] theorem run_raisingAs (rename : ε → δ) (body : EStateM ε σ α) (state : σ) :
    (raisingAs rename body).run state = renamed rename (body.run state) := rfl

/-- The first computation ends like the second one, in a state with a property. -/
structure Agrees (rename : ε → δ) (first : EStateM δ σ Unit) (second : EStateM ε σ Unit)
    (state : σ) (after : σ → Prop) : Prop where
  /-- They end in the same way. -/
  same : first.run state = renamed rename (second.run state)
  /-- The state has the property, whether they return or raise. -/
  ends : after (finalState (second.run state))

variable {rename : ε → δ} {state : σ} {between after : σ → Prop}

/-- Nothing is done. -/
theorem agrees_pure (holds : after state) : Agrees rename (pure ()) (pure ()) state after :=
  ⟨rfl, holds⟩

/-- Reading the state first. -/
theorem Agrees.get {first : σ → EStateM δ σ Unit} {second : σ → EStateM ε σ Unit}
    (agrees : Agrees rename (first state) (second state) state after) :
    Agrees rename (do first (← MonadState.get)) (do second (← MonadState.get)) state after :=
  ⟨agrees.same, agrees.ends⟩

/-- Changing the state first. -/
theorem Agrees.changed {change : σ → σ} {first : EStateM δ σ Unit} {second : EStateM ε σ Unit}
    (agrees : Agrees rename first second (change state) after) :
    Agrees rename (do modify change; first) (do modify change; second) state after :=
  ⟨agrees.same, agrees.ends⟩

/-- The same is computed first. -/
theorem Agrees.computed {body : EStateM ε σ α} {first : α → EStateM δ σ Unit}
    {second : α → EStateM ε σ Unit}
    (agrees : match body.run state with
      | .ok value state => Agrees rename (first value) (second value) state after
      | .error _ state => after state) :
    Agrees rename (do first (← raisingAs rename body)) (do second (← body)) state after := by
  constructor
  · rw [EStateM.run_bind, EStateM.run_bind, run_raisingAs]
    cases result : body.run state with
    | ok value state =>
      rw [result] at agrees
      exact agrees.same
    | error exception state => rfl
  · rw [EStateM.run_bind]
    cases result : body.run state with
    | ok value state =>
      rw [result] at agrees
      exact agrees.ends
    | error exception state =>
      rw [result] at agrees
      exact agrees

/-- A check is made first that may raise. -/
theorem Agrees.lift {check : Except ε α} {first : α → EStateM δ σ Unit}
    {second : α → EStateM ε σ Unit} (holds : after state)
    (agrees : ∀ value, Agrees rename (first value) (second value) state after) :
    Agrees rename (do first (← raisingAs rename (Raising.lift check)))
      (do second (← Raising.lift check)) state after := by
  apply Agrees.computed
  cases check with
  | ok value => exact agrees value
  | error exception => exact holds

/-- A value is read first that must be there. -/
theorem Agrees.expect {exception : ε} {value : Option α} {first : α → EStateM δ σ Unit}
    {second : α → EStateM ε σ Unit} (holds : after state)
    (agrees : ∀ value, Agrees rename (first value) (second value) state after) :
    Agrees rename (do first (← raisingAs rename (Raising.expect exception value)))
      (do second (← Raising.expect exception value)) state after := by
  apply Agrees.computed
  cases value with
  | some value => exact agrees value
  | none => exact holds

/-- One after the other; the first part may raise. -/
theorem Agrees.seq {first rest : EStateM δ σ Unit} {second further : EStateM ε σ Unit}
    (agrees : Agrees rename first second state between)
    (weaken : ∀ state, between state → after state)
    (next : ∀ state, between state → Agrees rename rest further state after) :
    Agrees rename (do first; rest) (do second; further) state after := by
  obtain ⟨same, ends⟩ := agrees
  constructor
  · rw [run_seq, run_seq, same]
    cases result : second.run state with
    | ok value state =>
      rw [result] at ends
      exact (next state ends).same
    | error exception state => rfl
  · rw [run_seq]
    cases result : second.run state with
    | ok value state =>
      rw [result] at ends
      exact (next state ends).ends
    | error exception state =>
      rw [result] at ends
      exact weaken state ends

end Agreement
