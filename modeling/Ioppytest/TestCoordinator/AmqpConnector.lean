import Ioppytest.TestCoordinator.Messages
import Ioppytest.TestCoordinator.StatesAndTransitions
import Ioppytest.Lib.OrderedDict
import Ioppytest.Lib.Raising

/-!
# Publications

`amqp_connector.CoordinatorAmqpInterface`: the state of the coordinator, its publications and the
requests it sends to the services. What has been sent is kept in order. Publishing is assumed to
succeed; building a message raises when the test case it is about is missing.
-/

namespace Ioppytest

open Raising

/-- The coordinator: the state of its machine, its test suite, what it has sent and the captures
it has saved. -/
structure Coordinator (td : TestDescriptions) where
  /-- State of the machine. -/
  state : FsmState
  /-- The test suite. -/
  testsuite : TestSuite td
  /-- Messages and requests sent so far, in order. -/
  bus : List Message
  /-- `testsuite_name`. -/
  testsuiteName : String
  /-- The files of captures in `PCAP_DIR`, by the names that the sniffer gives them. -/
  captures : OrderedDict String (List UInt8) := .empty

/-- A callback of the coordinator: it may raise, and keeps its mutations when it does. -/
abbrev Handler (td : TestDescriptions) (α : Type) : Type := EStateM PyException (Coordinator td) α

namespace Coordinator

variable {td : TestDescriptions}

/-- Send messages. -/
def send (c : Coordinator td) (messages : List Message) : Coordinator td :=
  { c with bus := c.bus ++ messages }

/-- Replace the test suite. -/
def withTestsuite (c : Coordinator td) (testsuite : TestSuite td) : Coordinator td :=
  { c with testsuite }

/-- Change the state of the machine. -/
def withState (c : Coordinator td) (state : FsmState) : Coordinator td := { c with state }

/-- Write the file of a capture, if there is one, in place of any earlier one. -/
def save (c : Coordinator td) (file : Option (String × List UInt8)) : Coordinator td :=
  { c with captures := file.elim c.captures fun (name, bytes) => c.captures.insert name bytes }

/-- Sending leaves the state. -/
@[simp] theorem send_state (c : Coordinator td) (messages : List Message) :
    (c.send messages).state = c.state := rfl

/-- Sending leaves the suite. -/
@[simp] theorem send_testsuite (c : Coordinator td) (messages : List Message) :
    (c.send messages).testsuite = c.testsuite := rfl

/-- Sending appends to the bus. -/
@[simp] theorem send_bus (c : Coordinator td) (messages : List Message) :
    (c.send messages).bus = c.bus ++ messages := rfl

/-- Sending leaves the name of the suite. -/
@[simp] theorem send_testsuiteName (c : Coordinator td) (messages : List Message) :
    (c.send messages).testsuiteName = c.testsuiteName := rfl

/-- Changing the suite leaves the state. -/
@[simp] theorem withTestsuite_state (c : Coordinator td) (ts : TestSuite td) :
    (c.withTestsuite ts).state = c.state := rfl

/-- Changing the suite. -/
@[simp] theorem withTestsuite_testsuite (c : Coordinator td) (ts : TestSuite td) :
    (c.withTestsuite ts).testsuite = ts := rfl

/-- Changing the suite sends nothing. -/
@[simp] theorem withTestsuite_bus (c : Coordinator td) (ts : TestSuite td) :
    (c.withTestsuite ts).bus = c.bus := rfl

/-- Changing the suite leaves its name. -/
@[simp] theorem withTestsuite_testsuiteName (c : Coordinator td) (ts : TestSuite td) :
    (c.withTestsuite ts).testsuiteName = c.testsuiteName := rfl

/-- Changing the state. -/
@[simp] theorem withState_state (c : Coordinator td) (state : FsmState) :
    (c.withState state).state = state := rfl

/-- Changing the state leaves the suite. -/
@[simp] theorem withState_testsuite (c : Coordinator td) (state : FsmState) :
    (c.withState state).testsuite = c.testsuite := rfl

/-- Changing the state sends nothing. -/
@[simp] theorem withState_bus (c : Coordinator td) (state : FsmState) :
    (c.withState state).bus = c.bus := rfl

/-- Changing the state leaves the name of the suite. -/
@[simp] theorem withState_testsuiteName (c : Coordinator td) (state : FsmState) :
    (c.withState state).testsuiteName = c.testsuiteName := rfl

/-- Saving a file leaves the state. -/
@[simp] theorem save_state (c : Coordinator td) (file : Option (String × List UInt8)) :
    (c.save file).state = c.state := rfl

/-- Saving a file leaves the suite. -/
@[simp] theorem save_testsuite (c : Coordinator td) (file : Option (String × List UInt8)) :
    (c.save file).testsuite = c.testsuite := rfl

/-- Saving a file sends nothing. -/
@[simp] theorem save_bus (c : Coordinator td) (file : Option (String × List UInt8)) :
    (c.save file).bus = c.bus := rfl

/-- Saving a file leaves the name of the suite. -/
@[simp] theorem save_testsuiteName (c : Coordinator td) (file : Option (String × List UInt8)) :
    (c.save file).testsuiteName = c.testsuiteName := rfl

/-- Updates of a coordinator are brought to one order: test suite, captures, state, messages. -/
@[simp] theorem withTestsuite_withTestsuite (c : Coordinator td) (first second : TestSuite td) :
    (c.withTestsuite first).withTestsuite second = c.withTestsuite second := rfl

/-- The last state counts. -/
@[simp] theorem withState_withState (c : Coordinator td) (first second : FsmState) :
    (c.withState first).withState second = c.withState second := rfl

/-- Sending twice is sending both. -/
@[simp] theorem send_send (c : Coordinator td) (first second : List Message) :
    (c.send first).send second = c.send (first ++ second) := by
  simp [send]

/-- Sending nothing. -/
@[simp] theorem send_nil (c : Coordinator td) : c.send [] = c := by
  simp [send]

/-- The state is changed last. -/
@[simp] theorem withState_withTestsuite (c : Coordinator td) (state : FsmState)
    (ts : TestSuite td) :
    (c.withState state).withTestsuite ts = (c.withTestsuite ts).withState state := rfl

/-- Messages are sent after the suite is changed. -/
@[simp] theorem send_withTestsuite (c : Coordinator td) (messages : List Message)
    (ts : TestSuite td) :
    (c.send messages).withTestsuite ts = (c.withTestsuite ts).send messages := rfl

/-- Messages are sent after the state is changed. -/
@[simp] theorem send_withState (c : Coordinator td) (messages : List Message)
    (state : FsmState) :
    (c.send messages).withState state = (c.withState state).send messages := rfl

/-- A file is saved after the suite is changed. -/
@[simp] theorem save_withTestsuite (c : Coordinator td) (file : Option (String × List UInt8))
    (ts : TestSuite td) :
    (c.save file).withTestsuite ts = (c.withTestsuite ts).save file := rfl

/-- The state is changed after a file is saved. -/
@[simp] theorem withState_save (c : Coordinator td) (state : FsmState)
    (file : Option (String × List UInt8)) :
    (c.withState state).save file = (c.save file).withState state := rfl

/-- Messages are sent after a file is saved. -/
@[simp] theorem send_save (c : Coordinator td) (messages : List Message)
    (file : Option (String × List UInt8)) :
    (c.send messages).save file = (c.save file).send messages := rfl

end Coordinator

namespace Handler

variable {td : TestDescriptions}

/-- `_publish_message`, for messages in order. -/
def publish (messages : List Message) : Handler td Unit := modify (·.send messages)

/-- The test suite. -/
def testsuite : Handler td (TestSuite td) := do return (← get).testsuite

/-- Run an operation of the test suite; one that raises has not changed it. -/
def updateTestsuite (operation : TestSuite td → Except PyException (TestSuite td)) :
    Handler td Unit := do
  let ts ← lift (operation (← get).testsuite)
  modify (·.withTestsuite ts)

/-- The current test case; an attribute of it is about to be read. -/
def currentTestcase : Handler td (Fin td.size) := do
  expect .attributeError (← get).testsuite.currentTc

end Handler

variable {td : TestDescriptions}

/-- `TestCase.to_dict(verbose=False)`. -/
def testcaseInfo (ts : TestSuite td) (i : Fin td.size) : TestCaseInfo where
  testcaseId := td.id i
  testcaseRef := (td.description i).uri
  objective := (td.description i).objective
  state := (ts.testcase i).state

/-- `TestCase.to_dict(verbose=True)`. -/
def verboseTestcaseInfo (ts : TestSuite td) (i : Fin td.size) : VerboseTestCaseInfo where
  toTestCaseInfo := testcaseInfo ts i
  preConditions := (td.description i).preConditions
  notes := (td.description i).notes

/-- `TestConfig.to_dict(verbose=True)`. -/
def configurationInfo (config : TestConfig) : ConfigurationInfo where
  configurationId := config.id
  configurationRef := config.uri
  nodes := config.nodes
  topology := config.topology
  nodesDescription := config.nodesDescription

/-- `Step.to_dict(verbose=True)`. -/
def stepInfo (step : Step) : StepInfo where
  stepId := step.id
  stepType := step.type
  stepInfo := step.description
  stepState := step.state
  iut := step.iut

/-- The configuration of a suite that has test cases. -/
def testsuiteConfiguration (ts : TestSuite td) : TestsuiteConfiguration where
  sessionId := ts.sessionId
  users := ts.sessionUsers
  configuration := ts.sessionConfiguration
  tcList := (List.finRange td.size).map (testcaseInfo ts)

/-- `get_testsuite_configuration`. -/
def getTestsuiteConfiguration (ts : TestSuite td) : Except PyException TestsuiteConfiguration :=
  if td.size = 0 then .error (.testSuiteError "No test cases found")
  else .ok (testsuiteConfiguration ts)

namespace Handler

/-- `notify_testsuite_configured`. -/
def notifyTestsuiteConfigured : Handler td Unit := do
  let configuration ← lift (getTestsuiteConfiguration (← testsuite))
  publish [.testingToolConfigured configuration]

/-- `notify_testcase_finished`. -/
def notifyTestcaseFinished : Handler td Unit := do
  let i ← currentTestcase
  publish [.testCaseFinished (testcaseInfo (← testsuite) i)]

/-- The report of the current test case, where `dict.update` refuses a missing one. -/
def currentReport : Handler td (Fin td.size × Report) := do
  let ts ← testsuite
  let report ← expect .typeError (ts.currentTc.bind fun i => (ts.testcase i).report)
  return (← currentTestcase, report)

/-- `notify_testcase_verdict`. -/
def notifyTestcaseVerdict : Handler td Unit := do
  let (i, report) ← currentReport
  publish [.testCaseVerdict report (testcaseInfo (← testsuite) i)]

/-- `notify_testcase_ready`. -/
def notifyTestcaseReady : Handler td Unit := do
  let config ← expect .attributeError (← testsuite).getCurrentTestcaseConfiguration
  let i ← currentTestcase
  publish [.testCaseReady (configurationInfo config) (verboseTestcaseInfo (← testsuite) i)]

/-- The message that asks for the execution of a step, for the steps that an IUT executes. -/
def stepExecuteMessage (step : Step) (tc : TestCaseInfo) (targetAddress : Option String) :
    List Message :=
  let description :=
    ["Please execute step: " ++ step.id, "Step description: " ++ step.description]
  match step.type with
  | .stimuli => [.stepStimuliExecute description (stepInfo step) tc targetAddress]
  | .verify => [.stepVerifyExecute description (stepInfo step) tc]
  | .check | .feature => []

/-- `notify_step_execute`. -/
def notifyStepExecute : Handler td Unit := do
  let ts ← testsuite
  let step ← expect .attributeError ts.getCurrentStep
  let _ ← expect .attributeError ts.getCurrentTestcaseConfiguration
  let i ← currentTestcase
  publish (stepExecuteMessage step (testcaseInfo ts i) ts.getCurrentStepTargetAddress)

/-- `notify_testcase_started`. -/
def notifyTestcaseStarted : Handler td Unit := do
  let i ← currentTestcase
  publish [.testCaseStarted (testcaseInfo (← testsuite) i)]

/-- `notify_tun_interfaces_start`. -/
def notifyTunInterfacesStart : Handler td Unit := do
  let ts ← testsuite
  publish (ts.addressingTable.items.map fun (node, address) =>
    .agentTunStart node address.1 address.2)

/-- `notify_testsuite_started`. -/
def notifyTestsuiteStarted : Handler td Unit := publish [.testSuiteStarted]

/-- `notify_testsuite_finished`. -/
def notifyTestsuiteFinished : Handler td Unit := do
  publish [.testSuiteReport (← testsuite).report]

/-- The messages of `notify_tescase_configuration`. -/
def configurationExecuteMessages (config : TestConfig) (tc : TestCaseInfo) : List Message :=
  config.nodesDescription.map fun desc => .configurationExecute config.id desc.node desc.message tc

/-- `notify_tescase_configuration`. -/
def notifyTescaseConfiguration : Handler td Unit := do
  let ts ← testsuite
  let i ← currentTestcase
  let config ← expect .attributeError ts.getCurrentTestcaseConfiguration
  publish (configurationExecuteMessages config (testcaseInfo ts i))

/-- `call_service_sniffer_start` for a link, followed by `call_service_router_drop_packets` when
the link is lossy. -/
def linkMessages (captureId : Option String) (link : Link) : List Message :=
  .sniffingStart captureId link.captureFilter "tun0" link.linkId ::
    if link.specialMode = some "lossy_context" then [.routingStartLossyLink 2] else []

end Handler

end Ioppytest
