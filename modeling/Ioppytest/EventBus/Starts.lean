import Ioppytest.TestCoordinator.Sessions
import Ioppytest.Lib.InFlight

/-!
# Who starts the test cases

The announcement that a test case is ready goes to the user mock, to the UI adaptor and to the
automated IUTs. The user mock and the users of the UI reply with a request for starting it; they and
the automated IUTs may also reply with one for skipping it. Announcements, users and replies may be
delayed and overtake each other. Each of them keeps a note of the test case that was announced.
-/

namespace Ioppytest

open Raising Coordinator

variable {td : TestDescriptions}

/-- The test case that a message announces as ready. -/
def Message.ready? : Message → Option String
  | .testCaseReady _ tc => some tc.testcaseId
  | _ => none

/-- The test case is not among those that a component declares, if it declares any. -/
def declines (implementedTestcasesList : Option (List String)) (testcaseId : String) : Bool :=
  match implementedTestcasesList with
  | none => false
  | some ids => !ids.isEmpty && !ids.contains testcaseId

namespace UserMock

/-- `handle_test_case_ready`; `startId` is the id of a `MsgTestCaseStart` that is constructed
without one. -/
def handleTestCaseReady (startId : PyString.Attribute)
    (implementedTestcasesList : Option (List String)) (testcaseId : String) : Event :=
  if declines implementedTestcasesList testcaseId then .testCaseSkip (some (some testcaseId))
  else .testCaseStart startId

end UserMock

namespace AutomatedIut

/-- `handle_test_case_ready`. -/
def handleTestCaseReady (implementedTestcasesList : Option (List String)) (testcaseId : String) :
    Option Event :=
  if declines implementedTestcasesList testcaseId then
    some (.testCaseSkip (some (some testcaseId)))
  else none

end AutomatedIut

namespace MessageTranslator

/-- `update_state`, as far as `_current_tc` goes. -/
def updateState (currentTc : Option String) (testcaseId : String) : Option String :=
  if testcaseId = "" then currentTc else some testcaseId

/-- The fields that `_ui_request_testcase_start` asks for. -/
def uiRequestTestcaseStart : List String := ["tc_start", "tc_skip"]

/-- `get_tt_message_testcase_start`. -/
def getTtMessageTestcaseStart (currentTc : Option String) : Event := .testCaseStart (some currentTc)

/-- `get_tt_message_testcase_skip`. -/
def getTtMessageTestcaseSkip (testcaseId : String) : Event := .testCaseSkip (some (some testcaseId))

/-- `translate_ui_to_tt_message` for a reply with one field to the announcement of a test case. -/
def translateReadyReply (currentTc : Option String) (testcaseId action : String) :
    Except PyException Event :=
  if action ∈ uiRequestTestcaseStart then
    .ok (if action = "tc_start" then getTtMessageTestcaseStart currentTc
      else getTtMessageTestcaseSkip testcaseId)
  else .error .assertionError

end MessageTranslator

/-- A component that the announcement of a test case goes to. -/
inductive Recipient where
  /-- The user mock, with the test cases that it declares. -/
  | userMock (implementedTestcasesList : Option (List String))
  /-- The message translator of the UI adaptor. -/
  | messageTranslator
  /-- An automated IUT, with the test cases that it declares. -/
  | automatedIut (implementedTestcasesList : Option (List String))
  deriving DecidableEq

/-- How a session is deployed. -/
structure Participants where
  /-- `str.upper`. -/
  upper : String → String
  /-- Name of the test suite. -/
  testsuiteName : String
  /-- The id of a `MsgTestCaseStart` that is constructed without one. -/
  startId : PyString.Attribute
  /-- The components that listen for the announcement of a test case. -/
  recipients : List Recipient

/-- How far the reply to an announcement has come. -/
inductive ReadyStage where
  /-- The announcement is on its way. -/
  | ready (recipient : Recipient) (testcaseId : String)
  /-- It is an entry of `_pending_responses`: a user has been asked. -/
  | pending (testcaseId : String)
  /-- The reply is on its way to the coordinator. -/
  | reply (event : Event)
  deriving DecidableEq

namespace ReadyStage

/-- What becomes of an announcement that reaches its recipient. -/
def received (startId : PyString.Attribute) : ReadyStage → Option ReadyStage
  | .ready (.userMock ids) testcaseId =>
    some (.reply (UserMock.handleTestCaseReady startId ids testcaseId))
  | .ready .messageTranslator testcaseId => some (.pending testcaseId)
  | .ready (.automatedIut ids) testcaseId =>
    (AutomatedIut.handleTestCaseReady ids testcaseId).map .reply
  | stage => some stage

/-- What becomes of a pending announcement that a user replies to: it leaves the table whatever the
reply. -/
def answered (currentTc : Option String) (action : String) : ReadyStage → Option ReadyStage
  | .pending testcaseId =>
    match MessageTranslator.translateReadyReply currentTc testcaseId action with
    | .ok event => some (.reply event)
    | .error _ => none
  | stage => some stage

/-- The test case that the message translator is told about. -/
def shown : ReadyStage → Option String
  | .ready .messageTranslator testcaseId => some testcaseId
  | _ => none

/-- The reply that is on its way to the coordinator. -/
def reply? : ReadyStage → Option Event
  | .reply event => some event
  | _ => none

end ReadyStage

/-- Something under way, and the test case whose announcement it goes back to. -/
structure Letter where
  /-- What it is. -/
  stage : ReadyStage
  /-- The test case that was announced. -/
  origin : String
  deriving DecidableEq

/-- The same letter at another stage. -/
def Letter.become (change : ReadyStage → Option ReadyStage) (letter : Letter) : Option Letter :=
  (change letter.stage).map (Letter.mk · letter.origin)

/-- The coordinator, the message translator and what is under way. -/
structure StartBus (td : TestDescriptions) where
  /-- The coordinator. -/
  coordinator : Coordinator td
  /-- `_current_tc` of the message translator. -/
  currentTc : Option String
  /-- Announcements, pending responses and replies. -/
  underWay : List Letter

namespace StartBus

/-- What can happen next. -/
inductive Action where
  /-- The coordinator handles an input that is not a reply on its way. -/
  | control (input : Coordinator.Input)
  /-- Another message with the id of a test case reaches the message translator. -/
  | observe (testcaseId : String)
  /-- An announcement reaches its recipient. -/
  | receive (n : Nat)
  /-- A user replies to a pending request. -/
  | answer (n : Nat) (action : String)
  /-- A reply reaches the coordinator. -/
  | deliver (n : Nat) (services : Services)
  deriving DecidableEq

/-- Announcements go to all components. -/
def publish (p : Participants) (messages : List Message) : List Letter :=
  (messages.filterMap Message.ready?).flatMap fun testcaseId =>
    p.recipients.map fun recipient => ⟨.ready recipient testcaseId, testcaseId⟩

/-- The coordinator handles an input, and what it announces is published. -/
def handle (p : Participants) (bus : StartBus td) (input : Input) : StartBus td :=
  let after := finalState (bus.coordinator.handle p.upper input)
  { bus with
    coordinator := after
    underWay := bus.underWay ++ publish p (after.bus.drop bus.coordinator.bus.length) }

/-- The reply that can be delivered from a place. -/
def reply? (bus : StartBus td) (n : Nat) : Option Event :=
  bus.underWay[n]?.bind (·.stage.reply?)

/-- The input that an action gives to the coordinator. -/
def input? (bus : StartBus td) : Action → Option Input
  | .control input => some input
  | .deliver n services => (bus.reply? n).map fun event => .event event services
  | _ => none

/-- What is under way changes at a place. -/
def alter (bus : StartBus td) (n : Nat) (change : ReadyStage → Option ReadyStage) : StartBus td :=
  { bus with underWay := InFlight.alter bus.underWay n (Letter.become change) }

/-- The message translator is told about a test case. -/
def update (bus : StartBus td) (testcaseId : Option String) : StartBus td :=
  { bus with
    currentTc := testcaseId.elim bus.currentTc (MessageTranslator.updateState bus.currentTc) }

/-- The event bus after an action. -/
def next (p : Participants) (bus : StartBus td) : Action → StartBus td
  | .control input => bus.handle p input
  | .observe testcaseId => bus.update (some testcaseId)
  | .receive n =>
    (bus.update (bus.underWay[n]?.bind (·.stage.shown))).alter n (ReadyStage.received p.startId)
  | .answer n action => bus.alter n (ReadyStage.answered bus.currentTc action)
  | .deliver n services =>
    match bus.reply? n with
    | some event => (bus.alter n fun _ => none).handle p (.event event services)
    | none => bus

/-- Nothing is under way when the coordinator has been bootstrapped. -/
def initial (p : Participants) (td : TestDescriptions) : StartBus td where
  coordinator := Coordinator.initial p.upper td p.testsuiteName
  currentTc := none
  underWay := []

/-- The coordinator survives what it handles. -/
def Survived (p : Participants) (bus : StartBus td) (action : Action) : Prop :=
  ∀ input ∈ bus.input? action, Survives p.upper bus.coordinator input

/-- Survival is decided by handling the action. -/
instance (p : Participants) (bus : StartBus td) (action : Action) :
    Decidable (bus.Survived p action) :=
  inferInstanceAs (Decidable (∀ input ∈ bus.input? action, _))

/-- The states that the actions which a guard allows lead to. -/
abbrev Reached (p : Participants) (allowed : StartBus td → Action → Prop) : StartBus td → Prop :=
  Runs.Reachable (next p) allowed (initial p td)

end StartBus

end Ioppytest
