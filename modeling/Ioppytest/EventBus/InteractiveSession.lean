import Ioppytest.EventBus.AutomatedSession
import Ioppytest.UiAdaptor.Questions

/-!
# The interactive session

A session whose IUTs are operated by users. The coordinator publishes its messages, the UI adaptor
receives them in order and asks the users, and what they reply goes back to the coordinator as an
event. Nodes are configured by their agents, or the time for it expires. What the UI adaptor has
handed over when it was started sets the session up.
-/

namespace Ioppytest

open Raising Coordinator UiAdaptor

variable {td : TestDescriptions}

/-- How an interactive session is deployed. -/
structure Venue where
  /-- `str.upper`. -/
  upper : String → String
  /-- Name of the test suite. -/
  testsuiteName : String
  /-- The UI adaptor. -/
  setup : Setup
  /-- Node of a `MsgStepVerifyExecuted` that is constructed without one. -/
  verifyNode : Option String

/-- The coordinator, the UI adaptor and what is under way between them. -/
structure InteractiveSession (td : TestDescriptions) where
  /-- The coordinator. -/
  coordinator : Coordinator td
  /-- The UI adaptor. -/
  adaptor : Adaptor
  /-- Messages of the coordinator. -/
  toAdaptor : List TtMessage
  /-- Events of the UI adaptor. -/
  toCoordinator : List Event

namespace InteractiveSession

/-- What can happen next. -/
inductive Action where
  /-- The UI adaptor receives the next message of the coordinator. -/
  | receive
  /-- It receives a message of another component. -/
  | overhear (message : TtMessage)
  /-- It receives a reply of a user. -/
  | reply (reply : UiReply)
  /-- Its main thread executes the next part of its loop. -/
  | proceed (circumstances : Circumstances)
  /-- Its main thread is interrupted. -/
  | interrupt
  /-- The coordinator receives the next event of the UI adaptor. -/
  | deliver (services : Services)
  /-- An agent reports that it has configured a node. -/
  | configured (event : Event) (services : Services)
  /-- The timer of `waiting_for_iut_configuration_executed` expires. -/
  | timeout

/-- The coordinator handles an input, and the UI adaptor is to receive what it sends. -/
def handle (venue : Venue) (session : InteractiveSession td) (input : Input) :
    InteractiveSession td :=
  let after := Coordinator.next venue.upper session.coordinator input
  { session with
    coordinator := after
    toAdaptor := session.toAdaptor ++
      (after.bus.drop session.coordinator.bus.length).filterMap TtMessage.ofMessage? }

/-- The UI adaptor acts, and the coordinator is to receive what it sends. -/
def act (venue : Venue) (session : InteractiveSession td) (action : UiAdaptor.Action) :
    InteractiveSession td :=
  let after := session.adaptor.next venue.setup action
  { session with
    adaptor := after
    toCoordinator := session.toCoordinator ++
      (after.dealings.answered.drop session.adaptor.dealings.answered.length).filterMap
        (·.event? venue.verifyNode) }

/-- The session after an action; nothing is received while the queue for it is full. -/
def next (venue : Venue) (session : InteractiveSession td) : Action → InteractiveSession td
  | .receive =>
    match session.toAdaptor with
    | [] => session
    | message :: rest =>
      if session.adaptor.queueMessagesFromTt.length < Adaptor.maxsize then
        { session with toAdaptor := rest }.act venue (.fromTt message)
      else session
  | .overhear message => session.act venue (.fromTt message)
  | .reply reply => session.act venue (.fromUi reply)
  | .proceed circumstances => session.act venue (.proceed circumstances)
  | .interrupt => session.act venue .interrupt
  | .deliver services =>
    match session.toCoordinator with
    | [] => session
    | event :: rest => { session with toCoordinator := rest }.handle venue (.event event services)
  | .configured event services => session.handle venue (.event event services)
  | .timeout => session.handle venue .timeout

/-- The UI adaptor enters its main loop, and has handed over some events. -/
def initial (venue : Venue) (td : TestDescriptions) (mapping : RoleMapping)
    (events : List Event) : InteractiveSession td where
  coordinator := Coordinator.initial venue.upper td venue.testsuiteName
  adaptor := Adaptor.initial mapping []
  toAdaptor := []
  toCoordinator := events

/-- What is allowed in a session in which users press buttons and nobody asks for a test case to be
run again. -/
def Allowed (session : InteractiveSession td) : Action → Prop
  | .receive | .interrupt => True
  | .overhear message => message.type.asks = false
  | .reply reply => ∃ request ∈ session.adaptor.dealings.asked, Presses request reply
  | .proceed circumstances => session.adaptor.dealings.Fresh circumstances.correlationId
  | .deliver services => ¬ services.Unreadable
  | .configured event _ => session.coordinator.Waiting ∧ AutomatedSession.IsConfiguration event
  | .timeout => session.coordinator.state = .waitingForIutConfigurationExecuted

/-- The states of such a session. -/
abbrev Reached (venue : Venue) (td : TestDescriptions) (mapping : RoleMapping)
    (events : List Event) : InteractiveSession td → Prop :=
  Runs.Reachable (next venue) Allowed (initial venue td mapping events)

/-- All questions that the coordinator waits for the answer to. -/
def matters (venue : Venue) (session : InteractiveSession td) : List Matter :=
  session.toCoordinator.map .answered ++ session.adaptor.dealings.matters venue.verifyNode ++
    session.toAdaptor.filterMap announced?

end InteractiveSession

end Ioppytest
