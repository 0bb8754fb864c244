import Ioppytest.EventBus.Responders
import Ioppytest.EventBus.Starts
import Ioppytest.TestCoordinator.Endings

/-!
# The automated session

A session without users, as `PerformFullTest` drives it: the driver configures the session, the user
mock starts the suite and its test cases and confirms some of the verify steps, and automated IUTs
configure themselves and execute the steps of their nodes. Each message of the coordinator goes to
the components that listen for it; messages and replies may be delayed and overtake each other.
-/

namespace Ioppytest

open Raising Coordinator

variable {td : TestDescriptions}

/-- What a `UserMock` is constructed with. -/
structure UserMock where
  /-- `implemented_testcases_list`. -/
  implementedTestcasesList : Option (List String)
  /-- `iut_to_mock_verifications_for`. -/
  iutToMockVerificationsFor : List String

/-- An `AutomatedIUT`, with what its subclass declares. -/
structure AutomatedIut where
  /-- `node`. -/
  node : String
  /-- `implemented_testcases_list`. -/
  implementedTestcasesList : Option (List String)
  /-- `_execute_configuration`, by the id of the test case. -/
  executeConfiguration : String → String

namespace UserMock

/-- `handle_testing_tool_configured`. -/
def handleTestingToolConfigured : Event := .testSuiteStart

/-- `handle_verif_step_execute`. -/
def handleVerifStepExecute (mock : UserMock) (event : Message) : Option Event :=
  match event.node? with
  | some node =>
    if node ∈ mock.iutToMockVerificationsFor then
      some (.stepVerifyExecuted (some (some true)) (some node))
    else none
  | none => none

/-- `event_to_handler_map`, for the messages of the coordinator. -/
def listens : Message → Bool
  | .testCaseReady .. => true
  | .testingToolConfigured .. => true
  | .testSuiteReport .. => true
  | .testCaseVerdict .. => true
  | .stepVerifyExecute .. => true
  | _ => false

/-- `on_request`: the message that is published in reply. -/
def onRequest (startId : PyString.Attribute) (mock : UserMock) (event : Message) : Option Event :=
  match event with
  | .testCaseReady _ tc =>
    some (handleTestCaseReady startId mock.implementedTestcasesList tc.testcaseId)
  | .testingToolConfigured _ => some handleTestingToolConfigured
  | .stepVerifyExecute .. => mock.handleVerifStepExecute event
  | _ => none

end UserMock

namespace AutomatedIut

/-- `handle_configuration_execute`. -/
def handleConfigurationExecute (iut : AutomatedIut) (node testcaseId : String) : Option Event :=
  if node = iut.node then
    let ipaddr := iut.executeConfiguration testcaseId
    if ipaddr ≠ "" then some (.configurationExecuted (some node) (some (some ipaddr))) else none
  else none

/-- `event_to_handler_map`, for the messages of the coordinator. -/
def listens : Message → Bool
  | .testCaseReady .. => true
  | .stepVerifyExecute .. => true
  | .stepStimuliExecute .. => true
  | .testSuiteReport .. => true
  | .configurationExecute .. => true
  | _ => false

/-- `on_request`, for all messages that the IUT listens for. -/
def handle (iut : AutomatedIut) (event : Message) : Option Event :=
  match event with
  | .testCaseReady _ tc => handleTestCaseReady iut.implementedTestcasesList tc.testcaseId
  | .configurationExecute _ node _ tc => iut.handleConfigurationExecute node tc.testcaseId
  | _ => onRequest iut.node event

end AutomatedIut

/-- A component that takes part in an automated session. -/
inductive Party where
  | userMock (mock : UserMock)
  | automatedIut (iut : AutomatedIut)

namespace Party

/-- The messages that are delivered to a component. -/
def listens : Party → Message → Bool
  | .userMock _ => UserMock.listens
  | .automatedIut _ => AutomatedIut.listens

/-- What a component publishes on a message. -/
def onRequest (startId : PyString.Attribute) : Party → Message → Option Event
  | .userMock mock => mock.onRequest startId
  | .automatedIut iut => iut.handle

end Party

/-- How an automated session is deployed. -/
structure Crew where
  /-- `str.upper`. -/
  upper : String → String
  /-- Name of the test suite. -/
  testsuiteName : String
  /-- The id of a `MsgTestCaseStart` that is constructed without one. -/
  startId : PyString.Attribute
  /-- The session id of a `MsgSessionConfiguration` that is constructed without one. -/
  sessionId : Option String
  /-- The users of a `MsgSessionConfiguration` that is constructed without any. -/
  users : Option (List String)
  /-- The user mock. -/
  userMock : UserMock
  /-- The automated IUTs. -/
  iuts : List AutomatedIut

/-- The components of an automated session. -/
def Crew.parties (crew : Crew) : List Party := .userMock crew.userMock :: crew.iuts.map .automatedIut

/-- `default_configuration`. -/
def defaultConfiguration : SessionConfiguration := ⟨none, []⟩

/-- Something under way. -/
inductive Mail where
  /-- A message of the coordinator is on its way to a component. -/
  | sent (recipient : Party) (message : Message)
  /-- A reply is on its way to the coordinator. -/
  | reply (event : Event)

/-- It is a message of the coordinator. -/
def Mail.isSent : Mail → Bool
  | .sent .. => true
  | .reply _ => false

/-- What becomes of a message that reaches its recipient. -/
def Mail.received (crew : Crew) : Mail → Option Mail
  | .sent recipient message => (recipient.onRequest crew.startId message).map .reply
  | mail => some mail

/-- The reply that is on its way. -/
def Mail.reply? : Mail → Option Event
  | .reply event => some event
  | .sent .. => none

/-- The reply that it comes to in the end. -/
def Mail.event? (crew : Crew) : Mail → Option Event
  | .sent recipient message => recipient.onRequest crew.startId message
  | .reply event => some event

/-- The coordinator and what is under way. -/
structure AutomatedSession (td : TestDescriptions) where
  /-- The coordinator. -/
  coordinator : Coordinator td
  /-- Messages and replies. -/
  underWay : List Mail

namespace AutomatedSession

/-- What can happen next. -/
inductive Action where
  /-- A message reaches its recipient. -/
  | receive (n : Nat)
  /-- A reply reaches the coordinator. -/
  | deliver (n : Nat) (services : Services)
  /-- The timer of `waiting_for_iut_configuration_executed` expires. -/
  | timeout

/-- Messages go to all components that listen for them. -/
def publish (crew : Crew) (messages : List Message) : List Mail :=
  messages.flatMap fun message =>
    (crew.parties.filter (·.listens message)).map (.sent · message)

/-- The coordinator handles an input, and what it sends is published. -/
def handle (crew : Crew) (session : AutomatedSession td) (input : Input) : AutomatedSession td :=
  let after := Coordinator.next crew.upper session.coordinator input
  { coordinator := after
    underWay := session.underWay ++
      publish crew (after.bus.drop session.coordinator.bus.length) }

/-- What is under way changes at a place. -/
def alter (session : AutomatedSession td) (n : Nat) (change : Mail → Option Mail) :
    AutomatedSession td :=
  { session with underWay := InFlight.alter session.underWay n change }

/-- The reply that can be delivered from a place. -/
def reply? (session : AutomatedSession td) (n : Nat) : Option Event :=
  session.underWay[n]?.bind Mail.reply?

/-- The input that an action gives to the coordinator. -/
def input? (session : AutomatedSession td) : Action → Option Input
  | .receive _ => none
  | .deliver n services => (session.reply? n).map fun event => .event event services
  | .timeout => some .timeout

/-- The session after an action. -/
def next (crew : Crew) (session : AutomatedSession td) : Action → AutomatedSession td
  | .receive n => session.alter n (Mail.received crew)
  | .deliver n services =>
    match session.reply? n with
    | some event => (session.alter n fun _ => none).handle crew (.event event services)
    | none => session
  | .timeout => session.handle crew .timeout

/-- The driver has published the configuration of the session. -/
def initial (crew : Crew) (td : TestDescriptions) : AutomatedSession td where
  coordinator := Coordinator.initial crew.upper td crew.testsuiteName
  underWay :=
    [.reply (.sessionConfiguration crew.sessionId crew.users (some defaultConfiguration))]

/-- The replies that are still to reach the coordinator. -/
def upcoming (crew : Crew) (session : AutomatedSession td) : List Event :=
  session.underWay.filterMap (Mail.event? crew)

/-- What the components reply to a message, all in all. -/
def replies (crew : Crew) (message : Message) : List Event :=
  (crew.parties.filter (·.listens message)).filterMap (·.onRequest crew.startId message)

/-- The action has something to act on. -/
def Possible (session : AutomatedSession td) : Action → Prop
  | .receive n => ∃ recipient message, session.underWay[n]? = some (.sent recipient message)
  | .deliver n _ => (session.reply? n).isSome
  | .timeout => session.coordinator.state = .waitingForIutConfigurationExecuted

/-- What can happen next is decided by what is under way. -/
instance (session : AutomatedSession td) : DecidablePred session.Possible
  | .receive n => decidable_of_iff ((session.underWay[n]?.elim false Mail.isSent) = true) <| by
    cases there : session.underWay[n]? with
    | none => simp [Possible, there]
    | some mail => cases mail <;> simp [Possible, there, Mail.isSent]
  | .deliver n _ => inferInstanceAs (Decidable ((session.reply? n).isSome = true))
  | .timeout => inferInstanceAs (Decidable (_ = _))

/-- The answers of the services can be read. -/
def Readable : Action → Prop
  | .deliver _ services => ¬ services.Unreadable
  | _ => True

/-- A node is reported as configured. -/
def IsConfiguration (event : Event) : Prop :=
  ∃ node address, address ≠ "" ∧ event = .configurationExecuted (some node) (some (some address))

/-- Configuration messages are recognised by their fields. -/
instance : DecidablePred IsConfiguration
  | .configurationExecuted (some node) (some (some address)) =>
    decidable_of_iff (address ≠ "") ⟨fun nonempty => ⟨node, address, nonempty, rfl⟩,
      fun ⟨_, _, nonempty, same⟩ => by cases same; exact nonempty⟩
  | .configurationExecuted none _ => .isFalse (by rintro ⟨_, _, _, same⟩; cases same)
  | .configurationExecuted (some _) none => .isFalse (by rintro ⟨_, _, _, same⟩; cases same)
  | .configurationExecuted (some _) (some none) =>
    .isFalse (by rintro ⟨_, _, _, same⟩; cases same)
  | .sessionConfiguration .. | .agentTunStarted _ | .testCaseStart _ | .stepStimuliExecuted _
  | .stepVerifyExecuted .. | .stepCheckExecuted .. | .testCaseSelect _ | .testSuiteStart
  | .testCaseRestart | .testCaseSkip _ | .testCaseAbort =>
    .isFalse (by rintro ⟨_, _, _, same⟩; cases same)

/-- Any other reply arrives after the reports of configured nodes that are under way. -/
def Prompt (crew : Crew) (session : AutomatedSession td) : Action → Prop
  | .deliver n _ => ∀ event ∈ session.reply? n, ¬ IsConfiguration event →
      ∀ other ∈ session.upcoming crew, ¬ IsConfiguration other
  | _ => True

/-- Promptness is decided action by action. -/
instance (crew : Crew) (session : AutomatedSession td) : DecidablePred (session.Prompt crew)
  | .receive _ => inferInstanceAs (Decidable True)
  | .deliver n _ => inferInstanceAs (Decidable (∀ event ∈ session.reply? n, _))
  | .timeout => inferInstanceAs (Decidable True)

/-- What is allowed in a timely session: the services answer with what can be read, and no node is
reported late. -/
structure Allowed (crew : Crew) (session : AutomatedSession td) (action : Action) : Prop where
  /-- There is something to act on. -/
  possible : session.Possible action
  /-- The answers of the services can be read. -/
  readable : Readable action
  /-- The reports of configured nodes are not late. -/
  prompt : session.Prompt crew action

/-- The states of a timely session. -/
abbrev Reached (crew : Crew) (td : TestDescriptions) : AutomatedSession td → Prop :=
  Runs.Reachable (next crew) (Allowed crew) (initial crew td)

/-- The session is over and nothing is under way any more. -/
def Completed (session : AutomatedSession td) : Prop :=
  session.coordinator.state = .testsuiteFinished ∧ session.underWay = []

end AutomatedSession

/-- How many components answer a request for the execution of a step. -/
def Crew.responders (crew : Crew) (step : Step) : Nat :=
  match step.iut with
  | none => 0
  | some iut =>
    crew.iuts.countP (·.node = iut.node) +
      if step.type = .verify ∧ iut.node ∈ crew.userMock.iutToMockVerificationsFor then 1 else 0

/-- The deployment fits the test description: whatever an IUT executes is answered by exactly one
component, every test case has such a step, and no IUT declines a test case. -/
structure Staffed (crew : Crew) (td : TestDescriptions) : Prop where
  /-- There are test cases. -/
  nonempty : 0 < td.size
  /-- Each of them has a step that an IUT executes. -/
  executable : ∀ i, ∃ step ∈ (td.description i).sequence, step.type.isExecutable = true
  /-- Exactly one component answers. -/
  answered : ∀ i, ∀ step ∈ (td.description i).sequence, step.type.isExecutable = true →
    crew.responders step = 1
  /-- The IUTs implement all test cases. -/
  implemented : ∀ iut ∈ crew.iuts, ∀ i, declines iut.implementedTestcasesList (td.id i) = false

/-- Configuring the session deselects the test case: its id is not in upper case. -/
def Deselected (crew : Crew) (i : Fin td.size) : Prop :=
  td.id i ∉ ((List.finRange td.size).map td.id).map crew.upper

/-- The test case is not executed: it is deselected, or the user mock does not implement it. -/
def Omitted (crew : Crew) (i : Fin td.size) : Prop :=
  Deselected crew i ∨ declines crew.userMock.implementedTestcasesList (td.id i) = true

/-- The selection is a list. -/
instance (crew : Crew) (i : Fin td.size) : Decidable (Deselected crew i) :=
  inferInstanceAs (Decidable (td.id i ∉ _))

/-- The lists of the crew decide what is left out. -/
instance (crew : Crew) (i : Fin td.size) : Decidable (Omitted crew i) :=
  inferInstanceAs (Decidable (_ ∨ _))

end Ioppytest
