import Ioppytest.Lib.Base64
import Ioppytest.TestCoordinator.AmqpConnector

/-!
# The coordinator

`coordinator.Coordinator`: the handlers that the state machine calls back, the machine itself and
the dispatch of events from the bus. Services answer through a parameter and `upper` stands for
`str.upper`; saving files is assumed to succeed, and only the captures are kept. The event
remembered by `_set_received_event` is never read, so it is not kept.
-/

namespace Ioppytest

open Raising PyString Transitions

variable {td : TestDescriptions}

namespace Handler

/-- `set_current_testcase_state`. -/
def setCurrentTestcaseState (state : TestCaseState) : Handler td Unit :=
  updateTestsuite (·.setCurrentTestcaseState state)

/-- `save_current_testcase_report_to_file`. -/
def saveCurrentTestcaseReportToFile : Handler td Unit := do
  let i ← currentTestcase
  let _ ← expect .typeError ((← testsuite).testcase i).report

/-- `configure_agent_data_plane_interfaces`. -/
def configureAgentDataPlaneInterfaces : Handler td Unit := notifyTunInterfacesStart

/-- `handle_testsuite_start`. -/
def handleTestsuiteStart (upper : String → String) : Handler td Unit :=
  updateTestsuite (·.reinit upper)

/-- The test cases that a session configuration selects: the paths of its URLs, stripped. -/
def sessionTcList (configuration : Option SessionConfiguration) :
    Except PyException (List String) :=
  match configuration.bind (·.testcases) with
  | none => .ok []
  | some urls => urls.mapM fun url =>
    match urlPath url with
    | some path => .ok (lstrip path "/tests/")
    | none => .error .valueError

/-- `handle_testsuite_config`. -/
def handleTestsuiteConfig (upper : String → String) (sessionId : Option String)
    (users : Option (List String)) (configuration : Option SessionConfiguration) :
    Handler td Unit := do
  let requested ← lift (sessionTcList configuration)
  let requested := if requested.isEmpty then (List.finRange td.size).map td.id else requested
  updateTestsuite (·.configureTestsuite upper requested sessionId users configuration)

/-- `getattr`. -/
def getattr {α : Type} : Option α → Except PyException α
  | some value => .ok value
  | none => .error .attributeError

/-- An `AttributeError` is reported with a message. -/
def reportMissing {α : Type} (message : String) : Except PyException α → Except PyException α
  | .error exception =>
    .error (if exception = .attributeError then .coordinatorError message else exception)
  | .ok value => .ok value

/-- What `handle_step_executed` changes in the suite. -/
def answer (ts : TestSuite td) : Event → Except PyException (TestSuite td)
  | .stepStimuliExecuted _ => .ok ts.finishStimuliStep
  | .stepCheckExecuted partialVerdict description =>
    reportMissing "Malformed CHECK response" do
      let partialVerdict ← getattr partialVerdict
      let _ ← getattr description
      ts.finishCheckStep partialVerdict
  | .stepVerifyExecuted verifyResponse _ =>
    reportMissing "Verify_response field needs to be provided" do
      ts.finishVerifyStep (← getattr verifyResponse)
  | _ => .ok ts

/-- `handle_step_executed`. -/
def handleStepExecuted : Option Event → Handler td Unit
  | some event => updateTestsuite (answer · event)
  | none => pure ()

/-- `handle_current_step_timeout`. -/
def handleCurrentStepTimeout : Handler td Unit := updateTestsuite (·.abortCurrentTestcase)

/-- Two attributes that both count as true; the second is read only if the first does. -/
def bothTruthy (first second : Attribute) : Except PyException (Option (String × String)) := do
  match truthy (← first.elim (.error .attributeError) .ok) with
  | none => .ok none
  | some first =>
    return (truthy (← second.elim (.error .attributeError) .ok)).map (first, ·)

/-- The address that a `MsgAgentTunStarted` announces: the re-routed one, else the IPv6 one, else
the IPv4 one. -/
def tunAddress (message : AgentTunStarted) : Except PyException (Option (String × String)) := do
  match ← bothTruthy message.reRoutePacketsPrefix message.reRoutePacketsHost with
  | some address => return some address
  | none =>
    match ← bothTruthy message.ipv6Prefix message.ipv6Host with
    | some address => return some address
    | none => bothTruthy message.ipv4Network message.ipv4Host

/-- The message of the errors for configuration messages without a node. -/
def wrongFormattedAgentMessage : String :=
  "Received a wrong formatted  agent message, update of agent source code needed?"

/-- Agent name and address of a configuration message. The address has as many parts as the
split left; `len` of a missing one raises `TypeError`. -/
def agentAndAddress : Option Event → Except PyException (Option String × List String)
  | some (.configurationExecuted node ipv6Address) =>
    match ipv6Address with
    | none => .error .attributeError
    | some address =>
      match truthy address with
      | none => .error .typeError
      | some address => .ok (node, split address "::")
  | some (.agentTunStarted message) =>
    match tunAddress message with
    | .error _ => .error (.coordinatorError wrongFormattedAgentMessage)
    | .ok none => .error .typeError
    | .ok (some address) => .ok (message.name, [address.1, address.2])
  | _ => .error .typeError

/-- The node and the address that a configuration message updates. -/
def nodeUpdate (event : Option Event) : Except PyException (String × String × String) := do
  let (agentName, iutAddress) ← agentAndAddress event
  match iutAddress with
  | [ipv6Prefix, ipv6Host] =>
    match truthy agentName with
    | some agentName => return (agentName, ipv6Prefix, ipv6Host)
    | none => .error (.coordinatorError wrongFormattedAgentMessage)
  | _ => .error (.coordinatorError "Received a wrong formatted address")

/-- `handle_iut_configuration_executed`. -/
def handleIutConfigurationExecuted (fire : Fired → Option Event → Handler td Bool)
    (event : Option Event) : Handler td Unit := do
  let (agentName, address) ← lift (nodeUpdate event)
  updateTestsuite fun ts => .ok (ts.updateNodeAddress agentName address)
  if (← testsuite).checkAllIutNodesConfigured then
    let _ ← fire (.event .allIutConfigurationExecuted) none

/-- The clean-up of the exits of `finish_testcase` that report an error. -/
def finishWithError (i : Fin td.size) (errMsg : String) : Handler td Unit := do
  let tc ← lift (((← testsuite).testcase i).generateTestcaseReport [] (some errMsg))
  updateTestsuite fun ts => .ok (ts.modify i fun _ => tc)
  saveCurrentTestcaseReportToFile
  updateTestsuite fun ts => .ok (ts.modify i (·.changeState .finished))

/-- The file that is opened for the capture in a reply of the sniffer, with what is written to it:
nothing when the capture is missing or not base64. -/
def captureFile : Option SnifferReply → Option (String × List UInt8)
  | some ⟨some (some true), some value, some (some filename), _⟩ =>
    some (filename, (value.bind b64decode).getD [])
  | _ => none

/-- The capture that a reply of the sniffer holds, or the message of the error it stands for. A
capture that is `None` or not base64 raises, and so does a file name that is `None`. -/
def captureOf : Option SnifferReply → Except PyException (Except String String)
  | none => .ok (.error
      "Failed to process packet sniffer response. Wrongly formatted response? : None")
  | some reply =>
    let malformed :=
      "Failed to process packet sniffer response. Wrongly formatted response? : " ++ reply.repr
    match reply.ok, reply.value, reply.filename with
    | some (some true), some (some value), some (some _) =>
      if b64decodes value then .ok (.ok value) else .error .valueError
    | some (some true), some _, some _ => .error .typeError
    | none, _, _ | some (some true), _, _ => .ok (.error malformed)
    | some _, _, _ => .ok (.error ("Error encountered with packet sniffer: " ++ reply.repr))

/-- Number the partial verdicts of an analysis. -/
def analysisItems (partialVerdicts : List (String × String)) : List AnalysisItem :=
  partialVerdicts.mapIdx fun k item =>
    ⟨"frame_check_[" ++ toString (k + 1) ++ "/" ++ toString partialVerdicts.length ++ "]", item.1,
      item.2⟩

/-- The analysis items that a reply of the analysis tool holds, or the message of the error it
stands for. The length of partial verdicts that are `None` cannot be taken. -/
def analysisOf : Option AnalysisReply → Except PyException (Except String (List AnalysisItem))
  | none => .ok (.error "TAT service timeout error")
  | some reply =>
    let malformed := "TAT didn't send a correctly formatted message, we got " ++ reply.repr
    match reply.ok, reply.partialVerdicts, reply.errorMessage, reply.errorCode with
    | some (some true), some (some partialVerdicts), _, _ =>
      .ok (.ok (analysisItems partialVerdicts))
    | some (some true), some none, _, _ => .error .typeError
    | none, _, _, _ | some (some true), none, _, _ => .ok (.error malformed)
    | some _, _, some errorMessage, some errorCode =>
      .ok (.error ("Error response from TAT : " ++ errorMessage.getD "None" ++ " (err.code: " ++
        errorCode.getD "None" ++ ")"))
    | some _, _, _, _ => .ok (.error malformed)

/-- `finish_testcase`. -/
def finishTestcase (services : Services) : Handler td Unit := do
  let i ← currentTestcase
  if (← lift ((← testsuite).testcase i).checkAllStepsFinished) = false then
    throw (.coordinatorError "Expected testcase to be finished.")
  updateTestsuite fun ts => .ok (ts.modify i (·.analyzing))
  publish [.sniffingStop]
  publish [.sniffingGetCapture (td.id i)]
  modify (·.save (captureFile services.getCapture))
  match ← lift (captureOf services.getCapture) with
  | .error errMsg => finishWithError i errMsg
  | .ok pcap =>
    publish [.interopTestCaseAnalyze (← get).testsuiteName (td.id i) (td.description i).uri
      (td.id i ++ ".pcap") pcap]
    match ← lift (analysisOf services.analysis) with
    | .error errMsg => finishWithError i errMsg
    | .ok items =>
      let tc ← lift (((← testsuite).testcase i).generateTestcaseReport items none)
      updateTestsuite fun ts => .ok (ts.modify i fun _ => tc)
      saveCurrentTestcaseReportToFile
      updateTestsuite fun ts => .ok (ts.modify i (·.changeState .finished))
      saveCurrentTestcaseReportToFile

/-- `handle_finish_testcase`. -/
def handleFinishTestcase (services : Services) : Handler td Unit := do
  finishTestcase services
  setCurrentTestcaseState .finished

/-- `handle_testcase_restart`. -/
def handleTestcaseRestart : Handler td Unit := do
  match truthy (← testsuite).getCurrentTestcaseId with
  | some id => updateTestsuite fun ts => .ok (ts.reinitTestcase (some id))
  | none => throw (.coordinatorError "No current testcase, no info on what TC to restart")

/-- `handle_testcase_select`: the switch itself is made by `_prepare_next_testcase`. -/
def handleTestcaseSelect : Handler td Unit :=
  updateTestsuite fun ts => .ok (ts.reinitTestcase ts.getCurrentTestcaseId)

/-- `handle_testcase_skip`. -/
def handleTestcaseSkip (event : Option Event) : Handler td Unit := do
  let testcaseIdSkip :=
    match event with
    | some (.testCaseSkip id) => id.join
    | _ => none
  let ts ← testsuite
  if ts.currentTc.isNone ∧ testcaseIdSkip.isNone then
    throw (.coordinatorError "No ongoing testcase, nor testcase_id provided to skip.")
  if ts.getCurrentTestcaseId = testcaseIdSkip ∧
      ts.getCurrentTestcaseState = some .executing then
    publish [.sniffingStop]
  updateTestsuite (·.skipTestcase testcaseIdSkip)

/-- `handle_start_testcase`. -/
def handleStartTestcase : Handler td Unit := do
  let state := (← testsuite).getCurrentTestcaseState
  if state ≠ some .ready ∧ state ≠ some .configuring then throw .assertionError
  setCurrentTestcaseState .executing
  let ts ← testsuite
  let config ← expect .attributeError ts.getCurrentTestcaseConfiguration
  publish (config.topology.flatMap (linkMessages ts.getCurrentTestcaseId))

/-- The test case that the event of `_prepare_next_testcase` asks for; an attribute that is missing
means that it asks for none. -/
def testcaseToExecute (event : Option Event) : Handler td (Option (Fin td.size)) :=
  tryCatch (do
    match event with
    | some (.testCaseSelect id) | some (.testCaseStart id) =>
      match (← testsuite).getTestcase (← expect .attributeError id) with
      | some i =>
        updateTestsuite (·.goToTestcase (td.id i))
        pure (some i)
      | none => pure none
    | some .testCaseRestart => return some (← currentTestcase)
    | _ => pure none)
    fun exception => if exception = .attributeError then pure none else throw exception

/-- `next_testcase`, run by the coordinator. -/
def nextTestcase : Handler td (Option (Fin td.size)) := do
  let (found, ts) ← lift (← testsuite).nextTestcase
  modify (·.withTestsuite ts)
  return found

/-- `_prepare_next_testcase`. -/
def prepareNextTestcase (fire : Fired → Option Event → Handler td Bool) (event : Option Event) :
    Handler td Unit := do
  let asked ← testcaseToExecute event
  let ts ← testsuite
  let chosen ←
    match asked with
    | some i => if (ts.testcase i).state = some .finished then nextTestcase else pure (some i)
    | none => nextTestcase
  match chosen with
  | some _ =>
    setCurrentTestcaseState .configuring
    let _ ← fire (.event .startConfiguration) none
  | none =>
    let _ ← fire (.event .finishTestsuite) none

/-- `_prepare_next_step`. -/
def prepareNextStep (fire : Fired → Option Event → Handler td Bool) : Handler td Unit := do
  let (step, ts) := (← testsuite).nextStep
  modify (·.withTestsuite ts)
  match step with
  | some _ =>
    setCurrentTestcaseState .executing
    let _ ← fire (.event .startNextStep) none
  | none =>
    setCurrentTestcaseState .readyForAnalysis
    let _ ← fire (.event .finishTestcase) none

/-- `handle_abort_testcase`. -/
def handleAbortTestcase : Handler td Unit := updateTestsuite (·.abortCurrentTestcase)

/-- `is_skipping_current_testcase`: for an event without the attribute, the handler of the lookup
reads a variable that was never bound. -/
def isSkippingCurrentTestcase : Option Event → Handler td Bool
  | some (.testCaseSkip (some id)) => do
    match id with
    | none => return true
    | some id => return some id = (← testsuite).getCurrentTestcaseId
  | _ => throw .unboundLocalError

/-- `handle_finish_testsuite`. -/
def handleFinishTestsuite : Handler td Unit := updateTestsuite fun ts => .ok ts.generateReport

/-- The callbacks by name. -/
def callback (upper : String → String) (services : Services)
    (fire : Fired → Option Event → Handler td Bool) (name : Callback) (event : Option Event) :
    Handler td Unit :=
  match name with
  | .bootstrap => do let _ ← fire (.event .bootstrap) event
  | .handleBootstrap => do let _ ← fire (.event .bootstrapped) none
  | .notifyTestsuiteReady => pure ()
  | .notifyTestsuiteConfigured => notifyTestsuiteConfigured
  | .notifyTestsuiteStarted => notifyTestsuiteStarted
  | .prepareNextTestcase => prepareNextTestcase fire event
  | .prepareNextStep => prepareNextStep fire
  | .notifyStepExecute => notifyStepExecute
  | .notifyTestcaseFinished => notifyTestcaseFinished
  | .saveCurrentTestcaseReportToFile => saveCurrentTestcaseReportToFile
  | .notifyTestcaseVerdict => notifyTestcaseVerdict
  | .toPreparingNextTestcase => do let _ ← fire (.to .preparingNextTestcase) event
  | .notifyTestcaseAborted => throw .attributeError
  | .handleFinishTestsuite => handleFinishTestsuite
  | .notifyTestsuiteFinished => notifyTestsuiteFinished
  | .setReceivedEvent => pure ()
  | .handleTestsuiteConfig =>
    match event with
    | some (.sessionConfiguration sessionId users configuration) =>
      handleTestsuiteConfig upper sessionId users configuration
    | _ => throw .attributeError
  | .handleTestsuiteStart => handleTestsuiteStart upper
  | .configureAgentDataPlaneInterfaces => configureAgentDataPlaneInterfaces
  | .notifyTescaseConfiguration => notifyTescaseConfiguration
  | .handleIutConfigurationExecuted => handleIutConfigurationExecuted fire event
  | .handleStartTestcase => handleStartTestcase
  | .notifyTestcaseStarted => notifyTestcaseStarted
  | .handleFinishTestcase => handleFinishTestcase services
  | .handleAbortTestcase => handleAbortTestcase
  | .handleStepExecuted => handleStepExecuted event
  | .notifyTestcaseReady => notifyTestcaseReady
  | .handleCurrentStepTimeout => handleCurrentStepTimeout
  | .handleTestcaseRestart => handleTestcaseRestart
  | .handleTestcaseSelect => handleTestcaseSelect
  | .handleTestcaseSkip => handleTestcaseSkip event

end Handler

namespace Coordinator

/-- The coordinator as the object that the machine drives. -/
def model (td : TestDescriptions) (upper : String → String) (services : Services) :
    Model FsmState TriggerName Callback Condition (Option Event) PyException (Coordinator td) where
  state c := c.state
  setState state c := c.withState state
  callback := Handler.callback upper services
  condition _ event := Handler.isSkippingCurrentTestcase event
  machineError _ _ := .machineError
  recursionError := .recursionError

/-- Fire a trigger of the coordinator at a bound on nested triggers. -/
def fire (upper : String → String) (services : Services) (depth : Nat) (fired : Fired)
    (event : Option Event) : Handler td Bool :=
  trigger machine (model td upper services) depth fired event

/-- A bound on nested triggers, far above what any event needs: `handle_bounded`. -/
def nestingLimit : Nat := 16

/-- `self.trigger`. -/
def trigger (upper : String → String) (services : Services) (name : TriggerName)
    (event : Option Event) : Handler td Bool :=
  fire upper services nestingLimit (.event name) event

/-- `control_events_triggers`. -/
def controlEventsTriggers : Event → Option TriggerName
  | .sessionConfiguration .. => some .configureTestsuite
  | .configurationExecuted .. => some .iutConfigurationExecuted
  | .agentTunStarted .. => some .iutConfigurationExecuted
  | .testCaseStart .. => some .startTestcase
  | .stepStimuliExecuted .. => some .stepExecuted
  | .stepVerifyExecuted .. => some .stepExecuted
  | .stepCheckExecuted .. => some .stepExecuted
  | .testCaseSelect .. => some .selectTestcase
  | .testSuiteStart => some .startTestsuite
  | .testCaseRestart => some .restartTestcase
  | .testCaseSkip .. => some .skipTestcase
  | .testCaseAbort => none

/-- The dispatch of an event inside `handle_control`; other events are ignored. -/
def dispatch (upper : String → String) (services : Services) (event : Event) : Handler td Bool :=
  match controlEventsTriggers event with
  | some name => trigger upper services name (some event)
  | none => pure false

/-- `Coordinator.__init__`. -/
def new (td : TestDescriptions) (testsuiteName : String) : Coordinator td where
  state := .null
  testsuite := .new td
  bus := []
  testsuiteName := testsuiteName

/-- What can happen to a running coordinator. -/
inductive Input where
  /-- An event arrives from the bus, and the services answer as given while it is handled. -/
  | event (event : Event) (services : Services)
  /-- The trigger `abort_testcase` is fired; it is not wired to the bus. -/
  | abortTestcase
  /-- The timer of `waiting_for_iut_configuration_executed` expires. -/
  | timeout
  deriving DecidableEq

/-- The services are not called. -/
def noServices : Services := ⟨none, none⟩

/-- Handle an input. The timer is cancelled when its state is left, so its expiry in another state
is not observed. -/
def handle (upper : String → String) (c : Coordinator td) : Input →
    EStateM.Result PyException (Coordinator td) Bool
  | .event event services => (dispatch upper services event).run c
  | .abortTestcase => (trigger upper noServices .abortTestcase (some .testCaseAbort)).run c
  | .timeout =>
    if c.state = .waitingForIutConfigurationExecuted then
      (trigger upper noServices .timeoutWaitingIutConfigurationExecuted none).run c
    else .ok false c

/-- The coordinator after an input. -/
def next (upper : String → String) (c : Coordinator td) (input : Input) : Coordinator td :=
  finalState (c.handle upper input)

end Coordinator

end Ioppytest
