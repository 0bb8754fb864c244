import Mathlib.Logic.Basic

/-!
# Computations that raise and keep their mutations

A Python method that raises leaves behind every attribute it assigned before the raise.
`EStateM` has exactly this reading, since its errors carry the state they were raised in. This
module owns the projections of a result and the run equations that `simp` uses to execute such a
computation on a known state.
-/

namespace Raising

variable {ε σ α β : Type}

/-- The state a computation leaves behind, whether it returned or raised. -/
def finalState : EStateM.Result ε σ α → σ
  | .ok _ state => state
  | .error _ state => state

/-- The exception a computation ended with, if any. -/
def raised : EStateM.Result ε σ α → Option ε
  | .ok _ _ => none
  | .error exception _ => some exception

/-- What a value leaves behind. -/
@[simp] theorem finalState_ok (value : α) (state : σ) :
    finalState (.ok value state : EStateM.Result ε σ α) = state := rfl

/-- What an exception leaves behind. -/
@[simp] theorem finalState_error (exception : ε) (state : σ) :
    finalState (.error exception state : EStateM.Result ε σ α) = state := rfl

/-- A value is no exception. -/
@[simp] theorem raised_ok (value : α) (state : σ) :
    raised (.ok value state : EStateM.Result ε σ α) = none := rfl

/-- The exception that was raised. -/
@[simp] theorem raised_error (exception : ε) (state : σ) :
    raised (.error exception state : EStateM.Result ε σ α) = some exception := rfl

/-- Go on from the state a computation returned in; one that raised ends there. -/
def andThen (result : EStateM.Result ε σ α) (rest : σ → EStateM.Result ε σ β) :
    EStateM.Result ε σ β :=
  match result with
  | .ok _ state => rest state
  | .error exception state => .error exception state

/-- A computation that returned goes on. -/
@[simp] theorem andThen_ok (value : α) (state : σ) (rest : σ → EStateM.Result ε σ β) :
    andThen (.ok value state) rest = rest state := rfl

/-- A computation that raised does not go on. -/
@[simp] theorem andThen_error (exception : ε) (state : σ) (rest : σ → EStateM.Result ε σ β) :
    andThen (.error exception state : EStateM.Result ε σ α) rest = .error exception state := rfl

/-- Going on with nothing left to do. -/
@[simp] theorem andThen_unit (result : EStateM.Result ε σ Unit) :
    andThen result (.ok ()) = result := by
  cases result <;> rfl

/-- Returning a value raises nothing more. -/
@[simp] theorem raised_andThen_ok (result : EStateM.Result ε σ α) (value : β) :
    raised (andThen result (.ok value)) = raised result := by
  cases result <;> rfl

/-- The exception of a sequence is one of its parts. -/
theorem raised_andThen_eq_some {result : EStateM.Result ε σ α}
    {rest : σ → EStateM.Result ε σ β} {exception : ε} :
    raised (andThen result rest) = some exception ↔
      raised result = some exception ∨
        ∃ value state, result = .ok value state ∧ raised (rest state) = some exception := by
  cases result with
  | ok value state =>
    constructor
    · exact fun raises => .inr ⟨value, state, rfl, raises⟩
    · rintro (raises | ⟨_, _, same, raises⟩)
      · cases raises
      · cases same
        exact raises
  | error earlier state => simp

/-- An exception of the first part is an exception of the whole. -/
theorem raised_andThen {result : EStateM.Result ε σ α} {rest : σ → EStateM.Result ε σ β}
    {exception : ε} (raises : raised result = some exception) :
    raised (andThen result rest) = some exception :=
  raised_andThen_eq_some.mpr (.inl raises)

/-- Returning a value changes nothing more. -/
@[simp] theorem finalState_andThen_ok (result : EStateM.Result ε σ α) (value : β) :
    finalState (andThen result (.ok value)) = finalState result := by
  cases result <;> rfl

/-- A property of the state left behind that the second part keeps holds of the whole. -/
theorem finalState_andThen {property : σ → Prop} {result : EStateM.Result ε σ α}
    {rest : σ → EStateM.Result ε σ β} (first : property (finalState result))
    (kept : ∀ state, property state → property (finalState (rest state))) :
    property (finalState (andThen result rest)) := by
  cases result with
  | ok value state => exact kept state first
  | error exception state => exact first

/-- A reflexive relation that the second part establishes holds between the states before and after
it. -/
theorem finalState_related {relation : σ → σ → Prop} {result : EStateM.Result ε σ α}
    {rest : σ → EStateM.Result ε σ β} (same : ∀ state, relation state state)
    (further : ∀ state, relation state (finalState (rest state))) :
    relation (finalState result) (finalState (andThen result rest)) := by
  cases result with
  | ok value state => exact further state
  | error exception state => exact same state

/-- Going on twice is going on with both. -/
theorem andThen_assoc {γ : Type} (result : EStateM.Result ε σ α)
    (second : σ → EStateM.Result ε σ β) (third : σ → EStateM.Result ε σ γ) :
    andThen (andThen result second) third = andThen result fun state =>
      andThen (second state) third := by
  cases result <;> rfl

/-- Going on returns exactly when both parts do. -/
theorem andThen_eq_ok {result : EStateM.Result ε σ α} {rest : σ → EStateM.Result ε σ β}
    {value : β} {after : σ} :
    andThen result rest = .ok value after ↔
      ∃ first state, result = .ok first state ∧ rest state = .ok value after := by
  cases result with
  | ok first state => exact ⟨fun ok => ⟨first, state, rfl, ok⟩, fun ⟨_, _, same, ok⟩ => by
      cases same
      exact ok⟩
  | error exception state => simp

/-- A sequence runs its first part and goes on from there. -/
theorem run_seq (first : EStateM ε σ α) (second : EStateM ε σ β) (state : σ) :
    (do let _ ← first; second : EStateM ε σ β).run state =
      andThen (first.run state) second.run := by
  rw [EStateM.run_bind]
  cases first.run state <;> rfl

/-- Mapping changes the value that a computation returns. -/
@[simp] theorem run_map (change : α → β) (body : EStateM ε σ α) (state : σ) :
    (change <$> body).run state =
      match body.run state with
      | .ok value after => .ok (change value) after
      | .error exception after => .error exception after := by
  change EStateM.map change body state = _
  unfold EStateM.map EStateM.run
  cases body state <;> rfl

/-- Raising keeps the state it was raised in. -/
@[simp] theorem run_throw (exception : ε) (state : σ) :
    (throw exception : EStateM ε σ α).run state = .error exception state := rfl

/-- A branch is run by running the chosen side. -/
@[simp] theorem run_ite (condition : Prop) [Decidable condition] (first second : EStateM ε σ α)
    (state : σ) :
    (if condition then first else second).run state =
      if condition then first.run state else second.run state := by
  split <;> rfl

/-- A handler runs in the state the exception was raised in, mutations included. -/
@[simp] theorem run_tryCatch (body : EStateM ε σ α) (handler : ε → EStateM ε σ α) (state : σ) :
    (tryCatch body handler).run state =
      match body.run state with
      | .ok value after => .ok value after
      | .error exception after => (handler exception).run after := by
  change EStateM.tryCatch body handler state = _
  unfold EStateM.tryCatch EStateM.run
  cases body state <;> rfl

/-- Raise the error of a pure check, or go on with its value. -/
def lift : Except ε α → EStateM ε σ α
  | .ok value => pure value
  | .error exception => throw exception

/-- A check that succeeds. -/
@[simp] theorem run_lift_ok (value : α) (state : σ) :
    (lift (.ok value) : EStateM ε σ α).run state = .ok value state := rfl

/-- A check that fails. -/
@[simp] theorem run_lift_error (exception : ε) (state : σ) :
    (lift (.error exception) : EStateM ε σ α).run state = .error exception state := rfl

/-- Read a value that must be there, raising the given exception when it is not. -/
def expect (exception : ε) : Option α → EStateM ε σ α
  | some value => pure value
  | none => throw exception

/-- A value that is there. -/
@[simp] theorem run_expect_some (exception : ε) (value : α) (state : σ) :
    (expect exception (some value) : EStateM ε σ α).run state = .ok value state := rfl

/-- A value that is missing. -/
@[simp] theorem run_expect_none (exception : ε) (state : σ) :
    (expect exception none : EStateM ε σ α).run state = .error exception state := rfl

end Raising
