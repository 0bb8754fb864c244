import Ioppytest.EventBus.Responders
import Ioppytest.TestCoordinator.Sessions
import Ioppytest.Lib.Runs

/-!
# The event bus

The coordinator, the components that answer its execution requests and what is under way between
them. Every request goes to the UI adaptor and to each automated IUT; requests, the UI adaptor's
pending responses and answers may be delayed and overtake each other, and nothing is duplicated or
forged. Each of them keeps a note of the step execution that it goes back to, which no component
reads.
-/

namespace Ioppytest

open Raising Coordinator

variable {td : TestDescriptions}

/-- How a session is deployed. -/
structure Deployment where
  /-- `str.upper`. -/
  upper : String → String
  /-- `str.lower`. -/
  lower : String → String
  /-- Name of the test suite. -/
  testsuiteName : String
  /-- Nodes of the automated IUTs. -/
  automated : List String
  /-- Node of a `MsgStepVerifyExecuted` that is constructed without one. -/
  verifyNode : Option String

/-- The execution of a step in one execution of its test case. -/
structure Ticket (td : TestDescriptions) where
  /-- Test case. -/
  testcase : Fin td.size
  /-- Position of the step. -/
  step : Nat
  /-- How often the test case was reinitialised before. -/
  execution : Nat
  deriving DecidableEq

/-- How far the answer to a request has come. -/
inductive Stage where
  /-- The request is on its way to the automated IUT for a node, or to the UI adaptor. -/
  | request (node : Option String) (message : Message)
  /-- It is an entry of `_pending_responses`: a user has been asked. -/
  | pending (message : Message)
  /-- The answer is on its way to the coordinator. -/
  | reply (event : Event)
  deriving DecidableEq

/-- Something under way, and the step execution that it goes back to. -/
structure Parcel (td : TestDescriptions) where
  /-- What it is. -/
  stage : Stage
  /-- The step execution that was requested. -/
  origin : Option (Ticket td)
  deriving DecidableEq

/-- The coordinator and what is under way. -/
structure EventBus (td : TestDescriptions) where
  /-- The coordinator. -/
  coordinator : Coordinator td
  /-- How often each test case was reinitialised. -/
  executions : Fin td.size → Nat
  /-- Requests, pending responses and answers. -/
  underWay : List (Parcel td)

/-- What can happen next. -/
inductive Action where
  /-- The coordinator handles an input that is not an answer on its way. -/
  | control (input : Coordinator.Input)
  /-- A request reaches its recipient. -/
  | receive (n : Nat)
  /-- A user replies to a pending request of the UI adaptor. -/
  | answer (n : Nat) (action : String) (userInput : UserInput)
  /-- An answer reaches the coordinator. -/
  | deliver (n : Nat) (services : Services)
  deriving DecidableEq

namespace Stage

/-- What becomes of a request that reaches its recipient. -/
def received : Stage → Option Stage
  | .request none message => some (.pending message)
  | .request (some node) message => (AutomatedIut.onRequest node message).map .reply
  | stage => some stage

/-- What becomes of a pending request that a user replies to: it leaves the table whatever the
reply. -/
def answered (lower : String → String) (verifyNode : Option String) (action : String)
    (userInput : UserInput) : Stage → Option Stage
  | .pending message =>
    match MessageTranslator.translateUiToTtMessage lower verifyNode message action userInput with
    | .ok event => event.map .reply
    | .error _ => none
  | stage => some stage

/-- The answer that is on its way to the coordinator. -/
def reply? : Stage → Option Event
  | .reply event => some event
  | _ => none

end Stage

namespace EventBus

/-- The step execution that the coordinator waits for. -/
def ticket (c : Coordinator td) (executions : Fin td.size → Nat) : Option (Ticket td) :=
  c.awaited.map fun (i, k) => ⟨i, k, executions i⟩

/-- The requests among messages. -/
def requests (messages : List Message) : List Message :=
  messages.filter (·.stepRequest?.isSome)

/-- A request goes to the UI adaptor and to every automated IUT. -/
def publish (d : Deployment) (origin : Option (Ticket td)) (messages : List Message) :
    List (Parcel td) :=
  (requests messages).flatMap fun message =>
    (none :: d.automated.map some).map fun node => ⟨.request node message, origin⟩

/-- Replace something under way by what becomes of it. -/
def advance (bus : EventBus td) (n : Nat) (change : Stage → Option Stage) : EventBus td :=
  { bus with
    underWay := bus.underWay.take n ++
      (bus.underWay[n]?.bind fun parcel =>
        (change parcel.stage).map (Parcel.mk · parcel.origin)).toList ++
      bus.underWay.drop (n + 1) }

/-- The coordinator handles an input, and what it asks for is published. -/
def handle (d : Deployment) (bus : EventBus td) (input : Input) : EventBus td :=
  let result := bus.coordinator.handle d.upper input
  let after := finalState result
  let executions := fun i =>
    if handled result && bus.coordinator.reinitialises i input then bus.executions i + 1
    else bus.executions i
  { coordinator := after
    executions
    underWay := bus.underWay ++
      publish d (ticket after executions) (after.bus.drop bus.coordinator.bus.length) }

/-- The input that an action gives to the coordinator. -/
def input? (bus : EventBus td) : Action → Option Input
  | .control input => some input
  | .deliver n services =>
    (bus.underWay[n]?.bind (·.stage.reply?)).map fun event => .event event services
  | _ => none

/-- What is under way once an action has taken from it. -/
def next (d : Deployment) (bus : EventBus td) : Action → EventBus td
  | .control input => bus.handle d input
  | .receive n => bus.advance n Stage.received
  | .answer n action userInput => bus.advance n (Stage.answered d.lower d.verifyNode action userInput)
  | .deliver n services =>
    match bus.input? (.deliver n services) with
    | some input => (bus.advance n fun _ => none).handle d input
    | none => bus

/-- Nothing is under way when the coordinator has been bootstrapped. -/
def initial (d : Deployment) (td : TestDescriptions) : EventBus td where
  coordinator := Coordinator.initial d.upper td d.testsuiteName
  executions _ := 0
  underWay := []

/-- The input is an answer to a stimuli or a verify step. -/
def IsAnswer : Input → Prop
  | .event (.stepStimuliExecuted _) _ => True
  | .event (.stepVerifyExecuted _ _) _ => True
  | _ => False

/-- Answers are recognised by their event. -/
instance : DecidablePred IsAnswer := fun input => by
  unfold IsAnswer
  split <;> infer_instance

/-- The input that does not come from what is under way. -/
def control? : Action → Option Input
  | .control input => some input
  | _ => none

/-- Answers are not forged, and the coordinator survives what it handles. -/
structure Honest (d : Deployment) (bus : EventBus td) (action : Action) : Prop where
  /-- Only what is under way answers a step. -/
  unforged : ∀ input ∈ control? action, ¬ IsAnswer input
  /-- `handle_control` returns. -/
  survives : ∀ input ∈ bus.input? action, Survives d.upper bus.coordinator input

/-- Honesty is decided by the answer that is given. -/
instance (d : Deployment) (bus : EventBus td) (action : Action) : Decidable (Honest d bus action) :=
  decidable_of_iff ((∀ input ∈ control? action, ¬ IsAnswer input) ∧
      ∀ input ∈ bus.input? action, Survives d.upper bus.coordinator input)
    ⟨fun ⟨unforged, survives⟩ => ⟨unforged, survives⟩,
      fun honest => ⟨honest.unforged, honest.survives⟩⟩

/-- The states that the actions which a guard allows lead to. -/
abbrev Reached (d : Deployment) (allowed : EventBus td → Action → Prop) : EventBus td → Prop :=
  Runs.Reachable (next d) allowed (initial d td)

end EventBus

end Ioppytest
