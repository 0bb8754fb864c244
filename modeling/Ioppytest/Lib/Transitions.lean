import Ioppytest.Lib.Raising

/-!
# Table-driven state machines with nested triggers

A machine is a table of states, each with callbacks run on entry and on exit, and a table of
transitions, each with conditions and callbacks run before and after the change of state. A
trigger looks up the transitions of the current state and runs the first whose conditions hold:
its `before` callbacks, the `on_exit` callbacks of the source, the change of state, the `on_enter`
callbacks of the destination, its `after` callbacks. A callback may fire further triggers; they
run at once, nested in the callback that fired them, and an exception leaves the machine in the
state it had reached.

The nesting is bounded by a depth, as the call stack of an interpreter is: a trigger at depth zero
raises the recursion error. The rules below execute one trigger at a known state.
-/

namespace Transitions

open Raising

variable {S T C P A ε σ : Type}

/-- One entry of the table of states. -/
structure StateSpec (C : Type) where
  /-- Callbacks run after the machine has moved to the state. -/
  onEnter : List C := []
  /-- Callbacks run before the machine leaves the state. -/
  onExit : List C := []
  /-- A trigger without a transition from this state is ignored instead of raising. -/
  ignoreInvalidTriggers : Bool := false

/-- The states a transition starts from: every state (`*`) or the listed ones. -/
inductive Source (S : Type) where
  | all
  | states (names : List S)

/-- The state a transition leads to; `same` (`=`) is an external self-transition, which leaves
the state and enters it again. -/
inductive Dest (S : Type) where
  | same
  | state (name : S)

/-- One entry of the table of transitions. -/
structure Transition (S T C P : Type) where
  /-- The trigger the transition answers to. -/
  trigger : T
  /-- Where it starts. -/
  source : Source S
  /-- Where it leads. -/
  dest : Dest S
  /-- Predicates that must hold. -/
  conditions : List P := []
  /-- Predicates that must not hold. -/
  unlessConditions : List P := []
  /-- Callbacks run before the source is left. -/
  before : List C := []
  /-- Callbacks run once the destination has been entered. -/
  after : List C := []

/-- What can be fired: a trigger of the table, or the automatic `to_<state>` of a state. -/
inductive Trigger (S T : Type) where
  | event (name : T)
  | to (state : S)

/-- The two tables. -/
structure Machine (S T C P : Type) where
  /-- Table of states. -/
  states : S → StateSpec C
  /-- Table of transitions, in order of preference. -/
  transitions : List (Transition S T C P)

/-- A transition resolved at a source state. -/
structure Edge (S C P : Type) where
  /-- State entered. -/
  dest : S
  /-- Predicates with the truth value each must have. -/
  conditions : List (P × Bool)
  /-- Callbacks before the change of state. -/
  before : List C
  /-- Callbacks after it. -/
  after : List C

/-- Whether a transition starts from a state. -/
def Source.covers [DecidableEq S] (state : S) : Source S → Bool
  | .all => true
  | .states names => names.contains state

/-- The edge of a transition at one of its sources. -/
def Transition.edge (source : S) (transition : Transition S T C P) : Edge S C P where
  dest :=
    match transition.dest with
    | .same => source
    | .state name => name
  conditions := transition.conditions.map (·, true) ++ transition.unlessConditions.map (·, false)
  before := transition.before
  after := transition.after

/-- The edges of a trigger at a state, in the order of the table. -/
def Machine.edges [DecidableEq S] [DecidableEq T] (machine : Machine S T C P) :
    Trigger S T → S → List (Edge S C P)
  | .event name, source =>
    (machine.transitions.filter fun transition =>
      transition.trigger == name && transition.source.covers source).map (·.edge source)
  | .to state, _ => [⟨state, [], [], []⟩]

/-- The object whose state the machine drives, with its callbacks. A callback receives the means
to fire nested triggers and the argument of the trigger that runs it. -/
structure Model (S T C P A ε σ : Type) where
  /-- Current state. -/
  state : σ → S
  /-- Change of state. -/
  setState : S → σ → σ
  /-- Callbacks by name. -/
  callback : (Trigger S T → A → EStateM ε σ Bool) → C → A → EStateM ε σ Unit
  /-- Conditions by name. -/
  condition : P → A → EStateM ε σ Bool
  /-- Raised for a trigger without a transition from the current state. -/
  machineError : Trigger S T → S → ε
  /-- Raised when triggers nest too deeply. -/
  recursionError : ε

section Engine

variable (machine : Machine S T C P) (model : Model S T C P A ε σ)

/-- Run callbacks in order. -/
def callbacks (fire : Trigger S T → A → EStateM ε σ Bool) : List C → A → EStateM ε σ Unit
  | [], _ => pure ()
  | name :: rest, args => do
    model.callback fire name args
    callbacks fire rest args

/-- Check conditions in order, stopping at the first that fails. -/
def check : List (P × Bool) → A → EStateM ε σ Bool
  | [], _ => pure true
  | (name, target) :: rest, args => do
    if (← model.condition name args) = target then check rest args else pure false

/-- Leave the source, change the state and enter the destination. -/
def changeState (fire : Trigger S T → A → EStateM ε σ Bool) (source dest : S) (args : A) :
    EStateM ε σ Unit := do
  callbacks model fire (machine.states source).onExit args
  modify (model.setState dest)
  callbacks model fire (machine.states dest).onEnter args

/-- Run one edge; the result says whether its conditions held. -/
def execute (fire : Trigger S T → A → EStateM ε σ Bool) (source : S) (edge : Edge S C P)
    (args : A) : EStateM ε σ Bool := do
  if ← check model edge.conditions args then
    callbacks model fire edge.before args
    changeState machine model fire source edge.dest args
    callbacks model fire edge.after args
    pure true
  else pure false

/-- Run the first edge whose conditions hold. -/
def process (fire : Trigger S T → A → EStateM ε σ Bool) (source : S) :
    List (Edge S C P) → A → EStateM ε σ Bool
  | [], _ => pure false
  | edge :: rest, args => do
    if ← execute machine model fire source edge args then pure true
    else process fire source rest args

/-- Fire a trigger, at a bound on the depth of nested triggers. -/
def trigger [DecidableEq S] [DecidableEq T] : Nat → Trigger S T → A → EStateM ε σ Bool
  | 0, _, _ => throw model.recursionError
  | depth + 1, fired, args => do
    let source := model.state (← get)
    match machine.edges fired source with
    | [] =>
      if (machine.states source).ignoreInvalidTriggers then pure false
      else throw (model.machineError fired source)
    | edge :: rest => process machine model (trigger depth) source (edge :: rest) args

variable {machine model}

/-- A trigger without a transition from the current state raises and changes nothing. -/
theorem trigger_invalid [DecidableEq S] [DecidableEq T] {depth : Nat} {fired : Trigger S T}
    {args : A} {before : σ} {source : S} (at_source : model.state before = source)
    (none_match : machine.edges fired source = [])
    (strict : (machine.states source).ignoreInvalidTriggers = false) :
    (trigger machine model (depth + 1) fired args).run before =
      .error (model.machineError fired source) before := by
  subst at_source
  simp [trigger, none_match, strict]

/-- A state may ignore the triggers it has no transition for. -/
theorem trigger_ignored [DecidableEq S] [DecidableEq T] {depth : Nat} {fired : Trigger S T}
    {args : A} {before : σ} {source : S} (at_source : model.state before = source)
    (none_match : machine.edges fired source = [])
    (lenient : (machine.states source).ignoreInvalidTriggers = true) :
    (trigger machine model (depth + 1) fired args).run before = .ok false before := by
  subst at_source
  simp [trigger, none_match, lenient]

/-- A trigger with a transition from the current state runs the edges found there. -/
theorem trigger_edges [DecidableEq S] [DecidableEq T] {depth : Nat} {fired : Trigger S T}
    {args : A} {before : σ} {source : S} {edge : Edge S C P} {rest : List (Edge S C P)}
    (at_source : model.state before = source)
    (found : machine.edges fired source = edge :: rest) :
    (trigger machine model (depth + 1) fired args).run before =
      (process machine model (trigger machine model depth) source (edge :: rest) args).run
        before := by
  subst at_source
  simp [trigger, found]

/-- Without callbacks nothing happens. -/
@[simp] theorem callbacks_nil {fire : Trigger S T → A → EStateM ε σ Bool} {args : A} :
    (callbacks model fire [] args).run = .ok () := rfl

/-- Callbacks run one after the other. -/
@[simp] theorem callbacks_cons {fire : Trigger S T → A → EStateM ε σ Bool} {name : C}
    {rest : List C} {args : A} {state : σ} :
    (callbacks model fire (name :: rest) args).run state =
      andThen ((model.callback fire name args).run state) (callbacks model fire rest args).run :=
  run_seq _ _ _

/-- The course of an edge whose conditions hold. -/
def follow (machine : Machine S T C P) (model : Model S T C P A ε σ)
    (fire : Trigger S T → A → EStateM ε σ Bool) (source : S) (edge : Edge S C P) (args : A)
    (state : σ) : EStateM.Result ε σ Bool :=
  andThen ((callbacks model fire edge.before args).run state) fun state =>
  andThen ((callbacks model fire (machine.states source).onExit args).run state) fun state =>
  andThen ((callbacks model fire (machine.states edge.dest).onEnter args).run
    (model.setState edge.dest state)) fun state =>
  andThen ((callbacks model fire edge.after args).run state) fun state => .ok true state

/-- An edge whose conditions hold is followed. -/
theorem execute_run {fire : Trigger S T → A → EStateM ε σ Bool} {source : S}
    {edge : Edge S C P} {args : A} {state : σ}
    (holds : (check model edge.conditions args).run state = .ok true state) :
    (execute machine model fire source edge args).run state =
      follow machine model fire source edge args state := by
  simp only [execute, EStateM.run_bind, holds, ↓reduceIte, follow, changeState]
  cases (callbacks model fire edge.before args).run state with
  | error exception state => rfl
  | ok _ state =>
    simp only [andThen_ok]
    cases (callbacks model fire (machine.states source).onExit args).run state with
    | error exception state => rfl
    | ok _ state =>
      simp only [andThen_ok, EStateM.run_modify]
      cases (callbacks model fire (machine.states edge.dest).onEnter args).run
        (model.setState edge.dest state) with
      | error exception state => rfl
      | ok _ state =>
        simp only [andThen_ok]
        cases (callbacks model fire edge.after args).run state <;> rfl

/-- An edge whose conditions fail does nothing. -/
theorem execute_refused {fire : Trigger S T → A → EStateM ε σ Bool} {source : S}
    {edge : Edge S C P} {args : A} {state : σ}
    (fails : (check model edge.conditions args).run state = .ok false state) :
    (execute machine model fire source edge args).run state = .ok false state := by
  simp only [execute, EStateM.run_bind, fails, Bool.false_eq_true, ↓reduceIte, EStateM.run_pure]

/-- A condition that raises ends the trigger. -/
theorem execute_raises {fire : Trigger S T → A → EStateM ε σ Bool} {source : S}
    {edge : Edge S C P} {args : A} {exception : ε} {state : σ}
    (raises : (check model edge.conditions args).run state = .error exception state) :
    (execute machine model fire source edge args).run state = .error exception state := by
  simp only [execute, EStateM.run_bind, raises]

/-- Following an edge returns true if it returns. -/
theorem follow_true {fire : Trigger S T → A → EStateM ε σ Bool} {source : S}
    {edge : Edge S C P} {args : A} {state after : σ} {value : Bool}
    (returned : follow machine model fire source edge args state = .ok value after) :
    value = true := by
  simp only [follow, andThen_eq_ok] at returned
  obtain ⟨_, _, _, _, _, _, _, _, _, _, _, _, last⟩ := returned
  cases last
  rfl

/-- The first edge is followed when its conditions hold. -/
theorem process_holds {fire : Trigger S T → A → EStateM ε σ Bool} {source : S}
    {edge : Edge S C P} {rest : List (Edge S C P)} {args : A} {state : σ}
    (holds : (check model edge.conditions args).run state = .ok true state) :
    (process machine model fire source (edge :: rest) args).run state =
      follow machine model fire source edge args state := by
  simp only [process, EStateM.run_bind, execute_run holds]
  cases h : follow machine model fire source edge args state with
  | error exception state => rfl
  | ok value state =>
    rw [follow_true h]
    rfl

/-- The next edge is looked at when the conditions of the first one fail. -/
theorem process_fails {fire : Trigger S T → A → EStateM ε σ Bool} {source : S}
    {edge : Edge S C P} {rest : List (Edge S C P)} {args : A} {state : σ}
    (fails : (check model edge.conditions args).run state = .ok false state) :
    (process machine model fire source (edge :: rest) args).run state =
      (process machine model fire source rest args).run state := by
  simp only [process, EStateM.run_bind, execute_refused fails, Bool.false_eq_true, ↓reduceIte]

/-- A condition that raises ends the search for an edge. -/
theorem process_raises {fire : Trigger S T → A → EStateM ε σ Bool} {source : S}
    {edge : Edge S C P} {rest : List (Edge S C P)} {args : A} {exception : ε} {state : σ}
    (raises : (check model edge.conditions args).run state = .error exception state) :
    (process machine model fire source (edge :: rest) args).run state =
      .error exception state := by
  simp only [process, EStateM.run_bind, execute_raises raises]

/-- A trigger whose first edge has no conditions follows it. -/
theorem trigger_unconditional [DecidableEq S] [DecidableEq T] {depth : Nat}
    {fired : Trigger S T} {args : A} {state : σ} {source dest : S} {before after : List C}
    {rest : List (Edge S C P)} (at_source : model.state state = source)
    (found : machine.edges fired source = ⟨dest, [], before, after⟩ :: rest) :
    (trigger machine model (depth + 1) fired args).run state =
      follow machine model (trigger machine model depth) source ⟨dest, [], before, after⟩ args
        state :=
  (trigger_edges at_source found).trans (process_holds rfl)

end Engine

end Transitions
