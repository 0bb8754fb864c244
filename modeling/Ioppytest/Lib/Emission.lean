import Ioppytest.Lib.Raising
import Mathlib.Data.List.Basic

/-!
# What a computation sends

A computation that raises may have sent messages before. What one sends is described by a relation
between the state that it is run in, its outcome, the messages and the state that it leaves; the rules
follow the ways in which computations are composed. A computation that leaves an observation of the
state alone is silent for it.
-/

namespace Raising

variable {ε σ α β μ ω : Type}

/-- What a computation ended with. -/
def outcome : EStateM.Result ε σ α → Except ε α
  | .ok value _ => .ok value
  | .error exception _ => .error exception

/-- The outcome of a computation as a value. -/
def attempt (body : EStateM ε σ α) : EStateM ε σ (Except ε α) := fun state =>
  match body.run state with
  | .ok value after => .ok (.ok value) after
  | .error exception after => .ok (.error exception) after

/-- An attempt leaves the state that the computation leaves. -/
theorem finalState_attempt (body : EStateM ε σ α) (state : σ) :
    finalState ((attempt body).run state) = finalState (body.run state) := by
  change finalState (attempt body state) = _
  unfold attempt
  cases body.run state <;> rfl

/-- An attempt returns the outcome of the computation. -/
theorem outcome_attempt (body : EStateM ε σ α) (state : σ) :
    outcome ((attempt body).run state) = .ok (outcome (body.run state)) := by
  change outcome (attempt body state) = _
  unfold attempt
  cases body.run state <;> rfl

/-- In every state a computation sends what is allowed there for its outcome and the state that it
leaves. -/
def Sends (sent : σ → List μ) (body : EStateM ε σ α)
    (allowed : σ → Except ε α → List μ → σ → Prop) : Prop :=
  ∀ state, ∃ messages, sent (finalState (body.run state)) = sent state ++ messages ∧
    allowed state (outcome (body.run state)) messages (finalState (body.run state))

/-- A computation leaves an observation of the state alone. -/
def Silent (observed : σ → ω) (body : EStateM ε σ α) : Prop :=
  ∀ state, observed (finalState (body.run state)) = observed state

namespace Sends

variable {sent : σ → List μ} {allowed : σ → Except ε β → List μ → σ → Prop}

/-- More may be allowed. -/
theorem mono {body : EStateM ε σ α} {first second : σ → Except ε α → List μ → σ → Prop}
    (sends : Sends sent body first)
    (weaker : ∀ before result messages after, first before result messages after →
      second before result messages after) :
    Sends sent body second := by
  intro state
  obtain ⟨messages, grown, accepted⟩ := sends state
  exact ⟨messages, grown, weaker _ _ _ _ accepted⟩

/-- Returning a value. -/
theorem value {value : β} (accepted : ∀ state, allowed state (.ok value) [] state) :
    Sends sent (pure value : EStateM ε σ β) allowed :=
  fun state => ⟨[], (List.append_nil (sent state)).symm, accepted state⟩

/-- Raising an exception. -/
theorem raise {exception : ε} (accepted : ∀ state, allowed state (.error exception) [] state) :
    Sends sent (throw exception : EStateM ε σ β) allowed :=
  fun state => ⟨[], (List.append_nil (sent state)).symm, accepted state⟩

/-- Changing the state. -/
theorem change {change : σ → σ} {allowed : σ → Except ε Unit → List μ → σ → Prop} {messages : List μ}
    (sends : ∀ state, sent (change state) = sent state ++ messages)
    (accepted : ∀ state, allowed state (.ok ()) messages (change state)) :
    Sends sent (modify change : EStateM ε σ Unit) allowed :=
  fun state => ⟨messages, sends state, accepted state⟩

/-- One computation and then another one. -/
theorem seq {first : EStateM ε σ α} {rest : α → EStateM ε σ β}
    {head : σ → Except ε α → List μ → σ → Prop} (sends : Sends sent first head)
    (tail : α → σ → Except ε β → List μ → σ → Prop)
    (rests : ∀ value, Sends sent (rest value) (tail value))
    (raises : ∀ before exception messages after, head before (.error exception) messages after →
      allowed before (.error exception) messages after)
    (returns : ∀ before value earlier between result later after,
      head before (.ok value) earlier between → tail value between result later after →
        allowed before result (earlier ++ later) after) :
    Sends sent (first >>= rest) allowed := by
  intro state
  obtain ⟨earlier, grown, accepted⟩ := sends state
  rw [EStateM.run_bind]
  cases run : first.run state with
  | error exception between =>
    rw [run] at grown accepted
    exact ⟨earlier, grown, raises state exception earlier between accepted⟩
  | ok value between =>
    rw [run] at grown accepted
    obtain ⟨later, further, finished⟩ := rests value between
    have both : sent (finalState ((rest value).run between)) = sent state ++ (earlier ++ later) := by
      rw [further, ← List.append_assoc]
      exact congrArg (· ++ later) grown
    exact ⟨earlier ++ later, both, returns state value earlier between _ later _ accepted finished⟩

/-- The outcome as a value. -/
theorem attempted {body : EStateM ε σ α} {inner : σ → Except ε α → List μ → σ → Prop}
    (sends : Sends sent body inner) :
    Sends sent (attempt body) fun before result messages after =>
      ∃ value, result = .ok value ∧ inner before value messages after := by
  intro state
  obtain ⟨messages, grown, accepted⟩ := sends state
  rw [finalState_attempt, outcome_attempt]
  exact ⟨messages, grown, _, rfl, accepted⟩

end Sends

namespace Silent

variable {observed : σ → ω}

/-- A computation that sends nothing. -/
theorem sends {sent : σ → List μ} {body : EStateM ε σ α} (silent : Silent sent body) :
    Sends sent body fun _ _ messages _ => messages = [] :=
  fun state => ⟨[], (silent state).trans (List.append_nil _).symm, rfl⟩

/-- After a computation that sends nothing, where the state before does not matter. -/
theorem andThen {sent : σ → List μ} {allowed : Except ε β → List μ → σ → Prop}
    {first : EStateM ε σ α} {rest : α → EStateM ε σ β} (silent : Silent sent first)
    (tail : ∀ value, Sends sent (rest value) fun _ => allowed)
    (raises : ∀ exception after, allowed (.error exception) [] after) :
    Sends sent (first >>= rest) fun _ => allowed := by
  refine Sends.seq silent.sends _ tail ?_ ?_
  · rintro _ exception _ after rfl
    exact raises exception after
  · rintro _ value _ _ result later after rfl finished
    exact finished

/-- Returning a value. -/
theorem value (value : α) : Silent observed (pure value : EStateM ε σ α) := fun _ => rfl

/-- A pure check. -/
theorem check (checked : Except ε α) : Silent observed (Raising.lift checked) := by
  intro state
  cases checked <;> rfl

/-- A value that must be there. -/
theorem needed (exception : ε) (found : Option α) :
    Silent observed (expect exception found : EStateM ε σ α) := by
  intro state
  cases found <;> rfl

/-- A change of the state that is not observed. -/
theorem change {change : σ → σ} (same : ∀ state, observed (change state) = observed state) :
    Silent observed (modify change : EStateM ε σ Unit) := same

/-- One after the other. -/
theorem seq {first : EStateM ε σ α} {rest : α → EStateM ε σ β} (head : Silent observed first)
    (tail : ∀ value, Silent observed (rest value)) : Silent observed (first >>= rest) := by
  intro state
  have before := head state
  rw [EStateM.run_bind]
  cases run : first.run state with
  | error exception between =>
    rw [run] at before
    exact before
  | ok value between =>
    rw [run] at before
    exact (tail value between).trans before

/-- One for each of a list. -/
theorem each {body : α → EStateM ε σ Unit} (silent : ∀ item, Silent observed (body item))
    (items : List α) : Silent observed (items.forM body) := by
  induction items with
  | nil => exact value ()
  | cons item rest ih => exact (silent item).seq fun _ => ih

/-- The outcome as a value. -/
theorem attempted {body : EStateM ε σ α} (silent : Silent observed body) :
    Silent observed (attempt body) := by
  intro state
  rw [finalState_attempt]
  exact silent state

end Silent

end Raising
