import Ioppytest.TestCoordinator.Coordinator
import Ioppytest.TestSuite.Progress

/-!
# Reactions

What each trigger does at the states the coordinator rests in, with the nested triggers of the
transient states run to their end. Each reaction is a plain function of the coordinator, and an
equation states that the table-driven machine computes it. Nothing later unfolds the machine.
-/

namespace Ioppytest

open Raising Transitions

variable {td : TestDescriptions}

/-- The messages that announce the current step, when there is one. -/
def TestSuite.announcement (ts : TestSuite td) : Option (List Message) :=
  ts.currentTc.bind fun i => ts.getCurrentStep.map fun step =>
    Handler.stepExecuteMessage step (testcaseInfo ts i) ts.getCurrentStepTargetAddress

/-- How `finish_testcase` ends. -/
inductive FinishOutcome where
  /-- It raises before it has changed anything. -/
  | refused (exception : PyException)
  /-- It raises while the test case is analyzed. -/
  | interrupted (exception : PyException) (requests : List Message)
  /-- The test case is finished with a report. -/
  | completed (report : Report) (requests : List Message)

/-- The outcome of `finish_testcase` for a test case: `captureId` is its id and `analyze` the
request for the analysis of its capture. -/
def finishOutcome (services : Services) (captureId : String) (analyze : String → Message)
    (tc : TestCase) : FinishOutcome :=
  let requests := [.sniffingStop, .sniffingGetCapture captureId]
  match tc.checkAllStepsFinished with
  | .error exception => .refused exception
  | .ok false => .refused (.coordinatorError "Expected testcase to be finished.")
  | .ok true =>
    match Handler.captureOf services.getCapture with
    | .error exception => .interrupted exception requests
    | .ok (.error message) => .completed ⟨.error, message, []⟩ requests
    | .ok (.ok pcap) =>
      match Handler.analysisOf services.analysis with
      | .error exception => .interrupted exception (requests ++ [analyze pcap])
      | .ok (.error message) => .completed ⟨.error, message, []⟩ (requests ++ [analyze pcap])
      | .ok (.ok items) =>
        match TestCase.analysisReport tc.sequence items with
        | .error exception => .interrupted exception (requests ++ [analyze pcap])
        | .ok report => .completed report (requests ++ [analyze pcap])

/-- The file of the capture that the services answer with. -/
def Services.captureFile (services : Services) : Option (String × List UInt8) :=
  Handler.captureFile services.getCapture

/-- A test case whose analysis is completed. -/
def TestCase.reported (tc : TestCase) (report : Report) : TestCase :=
  { tc.analyzing with report := some report }.changeState .finished

namespace Coordinator

/-- The test case that is about to be executed is configured. -/
def configure (c : Coordinator td) (i : Fin td.size) : Coordinator td :=
  let ts := { c.testsuite with currentTc := some i }.modify i (·.changeState .configuring)
  ((c.withTestsuite ts).withState .waitingForIutConfigurationExecuted).send
    (Handler.configurationExecuteMessages (td.config i) (testcaseInfo ts i))

/-- The session ends with its report. -/
def conclude (c : Coordinator td) : Coordinator td :=
  ((c.withTestsuite c.testsuite.generateReport).withState .testsuiteFinished).send
    [.testSuiteReport c.testsuite.generateReport.report]

/-- The next test case is configured; without one the session ends. -/
def proceed (c : Coordinator td) : Coordinator td :=
  match c.testsuite.pending with
  | some i => c.configure i
  | none => (c.withTestsuite { c.testsuite with currentTc := none }).conclude

/-- Change one test case. -/
def modify (c : Coordinator td) (i : Fin td.size) (change : TestCase → TestCase) :
    Coordinator td :=
  c.withTestsuite (c.testsuite.modify i change)

/-- What consulting the services leaves behind: a test case that is changed, the file of a capture
and requests. -/
abbrev consulted (c : Coordinator td) (services : Services) (i : Fin td.size)
    (change : TestCase → TestCase) (requests : List Message) : Coordinator td :=
  ((c.modify i change).save services.captureFile).send requests

/-- The request for the analysis of the capture of a test case. -/
def analyzeRequest (c : Coordinator td) (i : Fin td.size) (pcap : String) : Message :=
  .interopTestCaseAnalyze c.testsuiteName (td.id i) (td.description i).uri (td.id i ++ ".pcap") pcap

/-- The end of a test case without a step left to execute. -/
def finish (services : Services) (c : Coordinator td) (i : Fin td.size) :
    EStateM.Result PyException (Coordinator td) Unit :=
  match finishOutcome services (td.id i) (c.analyzeRequest i) (c.testsuite.testcase i) with
  | .refused exception => .error exception c
  | .interrupted exception requests =>
    .error exception (c.consulted services i (·.analyzing) requests)
  | .completed report requests =>
    let reported := c.consulted services i (·.reported report) requests
    let info := testcaseInfo reported.testsuite i
    .ok () (reported.send [.testCaseFinished info, .testCaseVerdict report info]).proceed

/-- The next step of the current test case is executed; without one the test case ends. -/
def advance (services : Services) (c : Coordinator td) :
    EStateM.Result PyException (Coordinator td) Unit :=
  match c.testsuite.currentTc with
  | none => .error .attributeError (c.withState .preparingNextStep)
  | some i =>
    match (c.testsuite.testcase i).nextStep with
    | (some _, tc) =>
      let fetched := (c.modify i fun _ => tc.changeState .executing).withState
        .waitingForStepExecuted
      match fetched.testsuite.announcement with
      | some messages => .ok () (fetched.send messages)
      | none => .error .attributeError fetched
    | (none, tc) =>
      finish services ((c.modify i fun _ => tc.changeState .readyForAnalysis).withState
        .preparingNextStep) i

end Coordinator

namespace Handler

variable {c : Coordinator td} {i : Fin td.size}

/-- Publishing sends the messages. -/
@[simp] theorem publish_run (messages : List Message) :
    (publish messages).run c = .ok () (c.send messages) := rfl

/-- Reading the suite. -/
@[simp] theorem testsuite_run : testsuite.run c = .ok c.testsuite c := rfl

/-- An operation of the suite that returns. -/
theorem updateTestsuite_ok {operation : TestSuite td → Except PyException (TestSuite td)}
    {after : TestSuite td} (ok : operation c.testsuite = .ok after) :
    (updateTestsuite operation).run c = .ok () (c.withTestsuite after) := by
  simp [updateTestsuite, ok]

/-- An operation of the suite that raises. -/
theorem updateTestsuite_error {operation : TestSuite td → Except PyException (TestSuite td)}
    {exception : PyException} (error : operation c.testsuite = .error exception) :
    (updateTestsuite operation).run c = .error exception c := by
  simp [updateTestsuite, error]

/-- An operation of the suite that cannot fail. -/
@[simp] theorem updateTestsuite_run {operation : TestSuite td → TestSuite td} :
    (updateTestsuite fun ts => .ok (operation ts)).run c =
      .ok () (c.withTestsuite (operation c.testsuite)) := updateTestsuite_ok rfl

/-- The state of the current test case is changed. -/
theorem setCurrentTestcaseState_run {state : TestCaseState}
    (current : c.testsuite.currentTc = some i) :
    (setCurrentTestcaseState state).run c = .ok () (c.modify i (·.changeState state)) :=
  updateTestsuite_ok (by simp [TestSuite.setCurrentTestcaseState, current])

/-- Without a current test case there is no state to change. -/
theorem setCurrentTestcaseState_error {state : TestCaseState}
    (idle : c.testsuite.currentTc = none) :
    (setCurrentTestcaseState state).run c = .error .attributeError c :=
  updateTestsuite_error (by simp [TestSuite.setCurrentTestcaseState, idle])

/-- The configuration of a suite with test cases is announced. -/
theorem notifyTestsuiteConfigured_run (nonempty : 0 < td.size) :
    notifyTestsuiteConfigured.run c =
      .ok () (c.send [.testingToolConfigured (testsuiteConfiguration c.testsuite)]) := by
  simp [notifyTestsuiteConfigured, getTestsuiteConfiguration, Nat.ne_of_gt nonempty]

/-- A suite without test cases has no configuration. -/
theorem notifyTestsuiteConfigured_error (empty : td.size = 0) :
    notifyTestsuiteConfigured.run c =
      .error (.testSuiteError "No test cases found") c := by
  simp [notifyTestsuiteConfigured, getTestsuiteConfiguration, empty]

/-- The nodes of the current test case are asked to be configured. -/
theorem notifyTescaseConfiguration_run (current : c.testsuite.currentTc = some i) :
    notifyTescaseConfiguration.run c =
      .ok () (c.send (configurationExecuteMessages (td.config i) (testcaseInfo c.testsuite i))) := by
  simp [notifyTescaseConfiguration, currentTestcase, current,
    TestSuite.getCurrentTestcaseConfiguration, TestDescriptions.config?_eq]

/-- The end of the current test case is announced. -/
theorem notifyTestcaseFinished_run (current : c.testsuite.currentTc = some i) :
    notifyTestcaseFinished.run c = .ok () (c.send [.testCaseFinished (testcaseInfo c.testsuite i)]) := by
  simp [notifyTestcaseFinished, currentTestcase, current]

/-- A report that is there is saved. -/
theorem saveCurrentTestcaseReportToFile_run {report : Report}
    (current : c.testsuite.currentTc = some i)
    (reported : (c.testsuite.testcase i).report = some report) :
    saveCurrentTestcaseReportToFile.run c = .ok () c := by
  simp [saveCurrentTestcaseReportToFile, currentTestcase, current, reported]

/-- A report that is there is announced. -/
theorem notifyTestcaseVerdict_run {report : Report} (current : c.testsuite.currentTc = some i)
    (reported : (c.testsuite.testcase i).report = some report) :
    notifyTestcaseVerdict.run c =
      .ok () (c.send [.testCaseVerdict report (testcaseInfo c.testsuite i)]) := by
  simp [notifyTestcaseVerdict, currentReport, currentTestcase, current, reported]

/-- The current test case is announced as ready. -/
theorem notifyTestcaseReady_run (current : c.testsuite.currentTc = some i) :
    notifyTestcaseReady.run c =
      .ok () (c.send [.testCaseReady (configurationInfo (td.config i))
        (verboseTestcaseInfo c.testsuite i)]) := by
  simp [notifyTestcaseReady, currentTestcase, current, TestSuite.getCurrentTestcaseConfiguration,
    TestDescriptions.config?_eq]

/-- Without a current test case nothing is ready. -/
theorem notifyTestcaseReady_error (idle : c.testsuite.currentTc = none) :
    notifyTestcaseReady.run c = .error .attributeError c := by
  simp [notifyTestcaseReady, idle, TestSuite.getCurrentTestcaseConfiguration]

/-- The start of the current test case is announced. -/
theorem notifyTestcaseStarted_run (current : c.testsuite.currentTc = some i) :
    notifyTestcaseStarted.run c = .ok () (c.send [.testCaseStarted (testcaseInfo c.testsuite i)]) := by
  simp [notifyTestcaseStarted, currentTestcase, current]

/-- Without a current test case nothing has started. -/
theorem notifyTestcaseStarted_error (idle : c.testsuite.currentTc = none) :
    notifyTestcaseStarted.run c = .error .attributeError c := by
  simp [notifyTestcaseStarted, currentTestcase, idle]

/-- The current step is announced. -/
theorem notifyStepExecute_run {messages : List Message}
    (announced : c.testsuite.announcement = some messages) :
    notifyStepExecute.run c = .ok () (c.send messages) := by
  simp only [TestSuite.announcement, Option.bind_eq_some_iff, Option.map_eq_some_iff] at announced
  obtain ⟨i, current, step, found, rfl⟩ := announced
  simp [notifyStepExecute, found, currentTestcase, current,
    TestSuite.getCurrentTestcaseConfiguration, TestDescriptions.config?_eq]

/-- Without a current step nothing is announced. -/
theorem notifyStepExecute_error (silent : c.testsuite.announcement = none) :
    notifyStepExecute.run c = .error .attributeError c := by
  cases current : c.testsuite.currentTc with
  | none => simp [notifyStepExecute, TestSuite.getCurrentStep, current]
  | some i =>
    have absent : c.testsuite.getCurrentStep = none := by
      simpa [TestSuite.announcement, current] using silent
    simp [notifyStepExecute, absent]

/-- The exits of `finish_testcase` that report an error. -/
theorem finishWithError_run {errMsg : String} (current : c.testsuite.currentTc = some i)
    (reason : errMsg ≠ "") :
    (finishWithError i errMsg).run c = .ok () (c.modify i fun tc =>
      { tc with report := some ⟨.error, errMsg, []⟩ }.changeState .finished) := by
  simp [finishWithError, TestCase.generateTestcaseReport_error, reason,
    saveCurrentTestcaseReportToFile, currentTestcase, current, Coordinator.modify]
  rfl

/-- The message of an error of the sniffer is not empty. -/
theorem captureOf_reason {reply : Option SnifferReply} {message : String}
    (failed : captureOf reply = .ok (.error message)) : message ≠ "" := by
  unfold captureOf at failed
  split at failed
  · cases failed
    decide
  · dsimp only at failed
    split at failed
    · split at failed <;> cases failed
    · cases failed
    all_goals
      cases failed
      simp

/-- The message of an error of the analysis tool is not empty. -/
theorem analysisOf_reason {reply : Option AnalysisReply} {message : String}
    (failed : analysisOf reply = .ok (.error message)) : message ≠ "" := by
  unfold analysisOf at failed
  split at failed
  · cases failed
    decide
  · dsimp only at failed
    split at failed
    · cases failed
    · cases failed
    all_goals
      cases failed
      simp

/-- `finish_testcase` ends as its outcome says. -/
theorem finishTestcase_run (services : Services) (current : c.testsuite.currentTc = some i) :
    (finishTestcase services).run c =
      match finishOutcome services (td.id i) (c.analyzeRequest i) (c.testsuite.testcase i) with
      | .refused exception => .error exception c
      | .interrupted exception requests =>
        .error exception (c.consulted services i (·.analyzing) requests)
      | .completed report requests =>
        .ok () (c.consulted services i (·.reported report) requests) := by
  cases past : (c.testsuite.testcase i).checkAllStepsFinished with
  | error exception =>
    simp [finishTestcase, finishOutcome, currentTestcase, current, past]
  | ok value =>
    cases value with
    | false =>
      simp [finishTestcase, finishOutcome, currentTestcase, current, past]
    | true =>
      cases capture : captureOf services.getCapture with
      | error exception =>
        simp [finishTestcase, finishOutcome, currentTestcase, current, past, capture]
        rfl
      | ok answer =>
        cases answer with
        | error message =>
          simp [finishTestcase, finishOutcome, currentTestcase, current,
            past, capture, finishWithError_run, captureOf_reason capture,
            Coordinator.modify]
          rfl
        | ok pcap =>
          cases analysis : analysisOf services.analysis with
          | error exception =>
            simp [finishTestcase, finishOutcome, currentTestcase, current, past, capture,
              analysis, Coordinator.analyzeRequest]
            rfl
          | ok answer =>
            cases answer with
            | error message =>
              simp [finishTestcase, finishOutcome, currentTestcase, current,
                past, capture, analysis, finishWithError_run, analysisOf_reason analysis,
                Coordinator.modify, Coordinator.analyzeRequest]
              rfl
            | ok items =>
              have generated :
                  (c.testsuite.testcase i).analyzing.generateTestcaseReport items none =
                    (TestCase.analysisReport (c.testsuite.testcase i).sequence items).map
                      fun report =>
                        { (c.testsuite.testcase i).analyzing with report := some report } :=
                TestCase.generateTestcaseReport_analyzing items rfl past
              cases final : TestCase.analysisReport (c.testsuite.testcase i).sequence items with
              | error exception =>
                rw [final] at generated
                simp [finishTestcase, finishOutcome, currentTestcase, current,
                  past, capture, analysis, generated, final, Coordinator.analyzeRequest,
                  Except.map]
                rfl
              | ok report =>
                rw [final] at generated
                simp [finishTestcase, finishOutcome, currentTestcase, current,
                  past, capture, analysis, generated, final, saveCurrentTestcaseReportToFile,
                  Coordinator.analyzeRequest, Except.map]
                rfl

/-- `handle_finish_testcase` ends as its outcome says; a test case that is completed is finished
already. -/
theorem handleFinishTestcase_run {services : Services} (current : c.testsuite.currentTc = some i) :
    (handleFinishTestcase services).run c =
      match finishOutcome services (td.id i) (c.analyzeRequest i) (c.testsuite.testcase i) with
      | .refused exception => .error exception c
      | .interrupted exception requests =>
        .error exception (c.consulted services i (·.analyzing) requests)
      | .completed report requests =>
        .ok () (c.consulted services i (·.reported report) requests) := by
  rw [handleFinishTestcase, run_seq, finishTestcase_run services current]
  cases finishOutcome services (td.id i) (c.analyzeRequest i) (c.testsuite.testcase i) with
  | refused exception => rfl
  | interrupted exception requests => rfl
  | completed report requests =>
    have still :
        (c.consulted services i (·.reported report) requests).testsuite.currentTc = some i := current
    dsimp only
    rw [andThen_ok, setCurrentTestcaseState_run still]
    simp [Coordinator.modify]
    rfl

end Handler

namespace Coordinator

/-- Two changes of one test case are one change. -/
theorem withTestsuite_modify (c : Coordinator td) (i : Fin td.size)
    (first second : TestCase → TestCase) :
    (c.withTestsuite (c.testsuite.modify i first)).modify i second =
      c.modify i fun tc => second (first tc) := by
  simp [modify]

/-- Configuring a test case sets the state. -/
@[simp] theorem withState_configure (c : Coordinator td) (state : FsmState) (i : Fin td.size) :
    (c.withState state).configure i = c.configure i := rfl

/-- Going on to the next test case sets the state. -/
@[simp] theorem withState_proceed (c : Coordinator td) (state : FsmState) :
    (c.withState state).proceed = c.proceed := by
  simp only [proceed, withState_testsuite, withState_configure]
  cases c.testsuite.pending <;> rfl

/-- The test case that an event asks `_prepare_next_testcase` to execute. -/
def asked (ts : TestSuite td) : Option Event → Option (Fin td.size)
  | some (.testCaseSelect (some id)) => ts.getTestcase id
  | some (.testCaseStart (some id)) => ts.getTestcase id
  | some .testCaseRestart => ts.currentTc
  | _ => none

/-- The callbacks of the model. -/
@[simp] theorem model_callback (upper : String → String) (services : Services)
    (fire : Fired → Option Event → Handler td Bool) (name : Callback) (event : Option Event) :
    (model td upper services).callback fire name event =
      Handler.callback upper services fire name event := rfl

/-- The change of state of the model. -/
@[simp] theorem model_setState (upper : String → String) (services : Services)
    (state : FsmState) (c : Coordinator td) :
    (model td upper services).setState state c = c.withState state := rfl

/-- The table of states of the machine. -/
@[simp] theorem machine_states : machine.states = states := rfl

section Nested

variable (upper : String → String) (services : Services) (depth : Nat) {c : Coordinator td}

/-- A trigger whose first edge has no conditions follows it. -/
theorem fire_unconditional {fired : Fired} {event : Option Event} {source dest : FsmState}
    {before after : List Callback} {rest : List (Edge FsmState Callback Condition)}
    (at_source : c.state = source)
    (found : machine.edges fired source = ⟨dest, [], before, after⟩ :: rest) :
    (fire upper services (depth + 1) fired event).run c =
      follow machine (model td upper services) (fire upper services depth) source
        ⟨dest, [], before, after⟩ event c :=
  trigger_unconditional at_source found

/-- The trigger by which a test case is configured. -/
theorem startConfiguration_run {i : Fin td.size} (at_source : c.state = .preparingNextTestcase)
    (current : c.testsuite.currentTc = some i) :
    (fire upper services (depth + 1) (.event .startConfiguration) none).run c =
      .ok true ((c.withState .waitingForIutConfigurationExecuted).send
        (Handler.configurationExecuteMessages (td.config i) (testcaseInfo c.testsuite i))) := by
  rw [fire_unconditional upper services depth at_source rfl]
  simp [follow, states, Handler.callback, Handler.notifyTescaseConfiguration_run, current]

/-- The trigger by which the session ends. -/
theorem finishTestsuite_run (at_source : c.state = .preparingNextTestcase) :
    (fire upper services (depth + 1) (.event .finishTestsuite) none).run c =
      .ok true c.conclude := by
  rw [fire_unconditional upper services depth at_source rfl]
  simp [follow, states, Handler.callback, Handler.handleFinishTestsuite,
    Handler.notifyTestsuiteFinished, conclude]

/-- A chosen test case is configured. -/
theorem configure_run {i : Fin td.size} (at_source : c.state = .preparingNextTestcase)
    (current : c.testsuite.currentTc = some i) :
    (do
      Handler.setCurrentTestcaseState .configuring
      let _ ← fire upper services (depth + 1) (.event .startConfiguration) none
      : Handler td Unit).run c = .ok () (c.configure i) := by
  have same : { c.testsuite with currentTc := some i } = c.testsuite := by
    rw [← current]
  simp [Handler.setCurrentTestcaseState_run current,
    startConfiguration_run upper services depth (i := i), at_source, current, modify, configure,
    same]

/-- `_prepare_next_testcase` when its event asks for no test case. -/
theorem prepareNextTestcase_next (event : Option Event) (nonempty : 0 < td.size)
    (at_source : c.state = .preparingNextTestcase)
    (nothing : (Handler.testcaseToExecute event).run c = .ok none c) :
    (Handler.prepareNextTestcase (fire upper services (depth + 1)) event).run c =
      .ok () c.proceed := by
  cases pending : c.testsuite.pending with
  | none =>
    simp [Handler.prepareNextTestcase, nothing, Handler.nextTestcase,
      TestSuite.nextTestcase_eq _ nonempty, pending, proceed, finishTestsuite_run, at_source]
  | some i =>
    have found : (c.withTestsuite { c.testsuite with currentTc := some i }).testsuite.currentTc =
        some i := rfl
    have configured := configure_run upper services depth
      (c := c.withTestsuite { c.testsuite with currentTc := some i }) at_source found
    simp only [Handler.prepareNextTestcase, EStateM.run_bind, nothing, Handler.testsuite_run,
      Handler.nextTestcase, TestSuite.nextTestcase_eq _ nonempty, run_lift_ok, pending,
      EStateM.run_modify, EStateM.run_pure, proceed]
    exact configured

/-- `_prepare_next_testcase` when its event asks for a test case that is not finished. -/
theorem prepareNextTestcase_asked (event : Option Event) {i : Fin td.size}
    {after : Coordinator td} (at_source : after.state = .preparingNextTestcase)
    (found : (Handler.testcaseToExecute event).run c = .ok (some i) after)
    (current : after.testsuite.currentTc = some i)
    (unfinished : (after.testsuite.testcase i).state ≠ some .finished) :
    (Handler.prepareNextTestcase (fire upper services (depth + 1)) event).run c =
      .ok () (after.configure i) := by
  have configured := configure_run upper services depth at_source current
  simp only [Handler.prepareNextTestcase, EStateM.run_bind, found, Handler.testsuite_run,
    unfinished, ↓reduceIte, EStateM.run_pure]
  exact configured

/-- The automatic trigger into `preparing_next_testcase`, which has no event to look at. -/
theorem toPreparingNextTestcase_run (nonempty : 0 < td.size)
    (at_source : c.state = .testcaseFinished) :
    (fire upper services (depth + 2) (.to .preparingNextTestcase) none).run c =
      .ok true c.proceed := by
  have prepared := prepareNextTestcase_next upper services depth none
    (c := c.withState .preparingNextTestcase) nonempty rfl rfl
  rw [fire_unconditional _ _ _ at_source rfl]
  simp [follow, states, Handler.callback, prepared]

/-- The callbacks run on entry to `testcase_finished`. -/
theorem testcaseFinished_run {i : Fin td.size} {report : Report}
    (at_source : c.state = .testcaseFinished) (current : c.testsuite.currentTc = some i)
    (reported : (c.testsuite.testcase i).report = some report) :
    (callbacks (model td upper services) (fire upper services (depth + 2))
        (states .testcaseFinished).onEnter none).run c =
      .ok () (c.send [.testCaseFinished (testcaseInfo c.testsuite i),
        .testCaseVerdict report (testcaseInfo c.testsuite i)]).proceed := by
  have nonempty : 0 < td.size := i.pos
  have saved := Handler.saveCurrentTestcaseReportToFile_run
    (c := c.send [.testCaseFinished (testcaseInfo c.testsuite i)]) current reported
  have told := Handler.notifyTestcaseVerdict_run
    (c := c.send [.testCaseFinished (testcaseInfo c.testsuite i)]) current reported
  simp [states, Handler.callback, Handler.notifyTestcaseFinished_run current, saved, told,
    toPreparingNextTestcase_run, at_source, nonempty]

/-- The trigger that finishes a test case runs until the next one is configured. -/
theorem finishTestcase_run {i : Fin td.size} (at_source : c.state = .preparingNextStep)
    (current : c.testsuite.currentTc = some i) :
    (fire upper services (depth + 3) (.event .finishTestcase) none).run c =
      andThen (c.finish services i) fun after => .ok true after := by
  rw [fire_unconditional _ _ _ at_source rfl]
  simp only [follow, machine_states, callbacks_cons, callbacks_nil, model_callback,
    Handler.callback, EStateM.run_pure, andThen_ok, Handler.handleFinishTestcase_run current,
    finish, model_setState]
  cases finishOutcome services (td.id i) (c.analyzeRequest i) (c.testsuite.testcase i) with
  | refused exception => rfl
  | interrupted exception requests => rfl
  | completed report requests =>
    have reported :
        ((c.consulted services i (·.reported report) requests).testsuite.testcase i).report =
        some report := by
      simp [modify, TestCase.reported]
    have entered := testcaseFinished_run upper services depth
      (c := (c.consulted services i (·.reported report) requests).withState
        .testcaseFinished)
      rfl current reported
    simp only [andThen_ok, states, callbacks_nil] at entered ⊢
    rw [entered]
    rfl

/-- The trigger that starts a step announces it. -/
theorem startNextStep_run (at_source : c.state = .preparingNextStep) :
    (fire upper services (depth + 1) (.event .startNextStep) none).run c =
      match c.testsuite.announcement with
      | some messages => .ok true ((c.withState .waitingForStepExecuted).send messages)
      | none => .error .attributeError (c.withState .waitingForStepExecuted) := by
  rw [fire_unconditional _ _ _ at_source rfl]
  cases announced : c.testsuite.announcement with
  | none =>
    simp [follow, states, Handler.callback, Handler.notifyStepExecute_error, announced]
  | some messages =>
    simp [follow, states, Handler.callback, Handler.notifyStepExecute_run, announced]

/-- `_prepare_next_step` runs the step that is fetched, or the end of the test case. -/
theorem prepareNextStep_run (at_source : c.state = .preparingNextStep) :
    (Handler.prepareNextStep (fire upper services (depth + 3))).run c = c.advance services := by
  cases current : c.testsuite.currentTc with
  | none =>
    have same : c.withState .preparingNextStep = c := by
      rw [← at_source]
      rfl
    have idle : (c.withTestsuite c.testsuite).testsuite.currentTc = none := current
    simp only [Handler.prepareNextStep, EStateM.run_bind, Handler.testsuite_run,
      TestSuite.nextStep, current, EStateM.run_modify,
      Handler.setCurrentTestcaseState_error idle, advance, same]
    rfl
  | some i =>
    have stepped (change : TestCase → TestCase) :
        (c.withTestsuite (c.testsuite.modify i change)).testsuite.currentTc = some i := current
    have inPlace (change : TestCase → TestCase) :
        (c.modify i change).withState .preparingNextStep = c.modify i change := by
      rw [← at_source]
      rfl
    cases fetched : (c.testsuite.testcase i).nextStep with
    | mk step tc =>
      have changed : (c.testsuite.modify i fun tc => tc.nextStep.2) =
          c.testsuite.modify i fun _ => tc := by
        simp only [TestSuite.modify, fetched]
      simp only [Handler.prepareNextStep, EStateM.run_bind, Handler.testsuite_run,
        TestSuite.nextStep, current, EStateM.run_modify, fetched, changed, advance]
      cases step with
      | none =>
        have finished := finishTestcase_run upper services depth
          (c := c.modify i fun _ => tc.changeState .readyForAnalysis) at_source current
        simp only [EStateM.run_bind, Handler.setCurrentTestcaseState_run (stepped _),
          withTestsuite_modify, finished, inPlace]
        cases finish services (c.modify i fun _ => tc.changeState .readyForAnalysis) i <;> rfl
      | some k =>
        have started := startNextStep_run upper services (depth + 2)
          (c := c.modify i fun _ => tc.changeState .executing) at_source
        simp only [EStateM.run_bind, Handler.setCurrentTestcaseState_run (stepped _),
          withTestsuite_modify, started, withState_testsuite]
        cases (c.modify i fun _ => tc.changeState .executing).testsuite.announcement <;> rfl

end Nested

/-- What leaving a state and entering it again does. -/
def reenter (services : Services) (c : Coordinator td) :
    EStateM.Result PyException (Coordinator td) Unit :=
  match c.state with
  | .waitingForTestsuiteConfig =>
    if td.size = 0 then .error (.testSuiteError "No test cases found") c
    else .ok () (c.send [.testingToolConfigured (testsuiteConfiguration c.testsuite)])
  | .waitingForTestsuiteStart => .ok () (c.send [.testSuiteStarted])
  | .preparingNextStep => c.advance services
  | .waitingForStepExecuted =>
    match c.testsuite.announcement with
    | some messages => .ok () (c.send messages)
    | none => .error .attributeError c
  | .testsuiteFinished => .ok () c.conclude
  | _ => .ok () c

/-- The end of the configuration of the nodes is announced. -/
def announceReady (c : Coordinator td) : EStateM.Result PyException (Coordinator td) Unit :=
  let ready := c.withState .waitingForTestcaseStart
  match c.testsuite.currentTc with
  | some i =>
    .ok () (ready.send [.testCaseReady (configurationInfo (td.config i))
      (verboseTestcaseInfo c.testsuite i)])
  | none => .error .attributeError ready

/-- The handling of a configuration message, once its state has been entered again. -/
def recordNode (event : Option Event) (c : Coordinator td) :
    EStateM.Result PyException (Coordinator td) Unit :=
  match Handler.nodeUpdate event with
  | .error exception => .error exception c
  | .ok (node, address) =>
    let recorded := c.withTestsuite (c.testsuite.updateNodeAddress node address)
    if recorded.testsuite.checkAllIutNodesConfigured then
      if c.state = .waitingForIutConfigurationExecuted then recorded.announceReady
      else if c.state = .waitingForTestcaseStart then .ok () recorded
      else .error .machineError recorded
    else .ok () recorded

/-- The states that the coordinator rests in, and the transient one it can be left in. -/
def rests : FsmState → Bool
  | .waitingForTestsuiteConfig => true
  | .waitingForTestsuiteStart => true
  | .waitingForIutConfigurationExecuted => true
  | .waitingForTestcaseStart => true
  | .preparingNextStep => true
  | .waitingForStepExecuted => true
  | .testsuiteFinished => true
  | _ => false

section Reactions

variable (upper : String → String) (services : Services) {c : Coordinator td}

/-- A trigger of the table whose first edge has no conditions follows it. -/
theorem trigger_run {name : TriggerName} {event : Option Event} {source dest : FsmState}
    {before after : List Callback} {rest : List (Edge FsmState Callback Condition)}
    (at_source : c.state = source)
    (found : machine.edges (.event name) source = ⟨dest, [], before, after⟩ :: rest) :
    (trigger upper services name event).run c =
      follow machine (model td upper services) (fire upper services 15) source
        ⟨dest, [], before, after⟩ event c :=
  trigger_unconditional at_source found

/-- A trigger without a transition raises, except where it is ignored. -/
theorem fire_refused (depth : Nat) (event : Option Event) {name : TriggerName}
    (none_match : machine.edges (.event name) c.state = []) :
    (fire upper services (depth + 1) (.event name) event).run c =
      if c.state = .waitingForTestcaseStart then .ok false c else .error .machineError c := by
  by_cases lenient : c.state = .waitingForTestcaseStart
  · rw [if_pos lenient]
    have at_source : (model td upper services).state c = c.state := rfl
    exact trigger_ignored at_source none_match (by rw [lenient]; rfl)
  · rw [if_neg lenient]
    have at_source : (model td upper services).state c = c.state := rfl
    refine trigger_invalid at_source none_match ?_
    cases state : c.state with
    | waitingForTestcaseStart => exact absurd state lenient
    | _ => rfl

/-- The callbacks of a state that is left and entered again. -/
theorem reenter_run (event : Option Event) (resting : rests c.state = true) :
    (andThen ((callbacks (model td upper services) (fire upper services 15)
        (states c.state).onExit event).run c) fun left =>
      (callbacks (model td upper services) (fire upper services 15)
        (states c.state).onEnter event).run (left.withState c.state)) = c.reenter services := by
  have inPlace : c.withState c.state = c := rfl
  cases state : c.state with
  | waitingForTestsuiteConfig =>
    rw [state] at inPlace
    by_cases empty : td.size = 0
    · simp [states, Handler.callback, Handler.notifyTestsuiteConfigured_error, empty, reenter,
        state]
    · simp [states, Handler.callback, Handler.notifyTestsuiteConfigured_run,
        Nat.pos_of_ne_zero empty, empty, reenter, state, inPlace]
  | waitingForTestsuiteStart =>
    rw [state] at inPlace
    simp [states, Handler.callback, Handler.notifyTestsuiteStarted, reenter, state, inPlace]
  | preparingNextStep =>
    rw [state] at inPlace
    have prepared := prepareNextStep_run upper services 12 state
    simp [states, Handler.callback, reenter, state, inPlace, prepared]
  | waitingForStepExecuted =>
    rw [state] at inPlace
    cases announced : c.testsuite.announcement with
    | none =>
      simp [states, Handler.callback, reenter, state, inPlace, announced,
        Handler.notifyStepExecute_error]
    | some messages =>
      simp [states, Handler.callback, reenter, state, inPlace, announced,
        Handler.notifyStepExecute_run]
  | testsuiteFinished =>
    simp [states, Handler.callback, Handler.handleFinishTestsuite,
      Handler.notifyTestsuiteFinished, reenter, state, conclude]
  | waitingForIutConfigurationExecuted =>
    rw [state] at inPlace
    simp [states, reenter, state, inPlace]
  | waitingForTestcaseStart =>
    rw [state] at inPlace
    simp [states, reenter, state, inPlace]
  | null | bootstrapping | preparingNextTestcase | testcaseFinished | testcaseAborted =>
    rw [state] at resting
    cases resting

/-- The end of the configuration, fired by a callback or by the timer. -/
theorem configurationOver_run (depth : Nat) {name : TriggerName}
    (past : name = .allIutConfigurationExecuted ∨ name = .timeoutWaitingIutConfigurationExecuted)
    (at_source : c.state = .waitingForIutConfigurationExecuted) :
    (fire upper services (depth + 1) (.event name) none).run c =
      andThen c.announceReady fun after => .ok true after := by
  have followed : (fire upper services (depth + 1) (.event name) none).run c =
      follow machine (model td upper services) (fire upper services depth)
        .waitingForIutConfigurationExecuted
        ⟨.waitingForTestcaseStart, [], [.setReceivedEvent], [.notifyTestcaseReady]⟩ none c := by
    rcases past with rfl | rfl
    · exact fire_unconditional _ _ _ at_source rfl
    · exact fire_unconditional _ _ _ at_source rfl
  rw [followed]
  cases current : c.testsuite.currentTc with
  | none =>
    simp [follow, states, Handler.callback, announceReady, current,
      Handler.notifyTestcaseReady_error]
  | some i =>
    simp [follow, states, Handler.callback, announceReady, current,
      Handler.notifyTestcaseReady_run (i := i)]

/-- The handler of configuration messages records the node. -/
theorem handleIutConfigurationExecuted_run {event : Option Event} :
    (Handler.handleIutConfigurationExecuted (fire upper services 15) event).run c =
      c.recordNode event := by
  cases update : Handler.nodeUpdate event with
  | error exception => simp [Handler.handleIutConfigurationExecuted, recordNode, update]
  | ok node =>
    obtain ⟨name, address⟩ := node
    by_cases complete : (c.testsuite.updateNodeAddress name address).checkAllIutNodesConfigured
    · by_cases configuring : c.state = .waitingForIutConfigurationExecuted
      · have fired := configurationOver_run upper services 14
          (c := c.withTestsuite (c.testsuite.updateNodeAddress name address)) (.inl rfl) configuring
        simp only [Handler.handleIutConfigurationExecuted, EStateM.run_bind, update, run_lift_ok,
          Handler.updateTestsuite_run, Handler.testsuite_run, withTestsuite_testsuite, complete,
          ↓reduceIte, fired, recordNode, configuring]
        cases (c.withTestsuite (c.testsuite.updateNodeAddress name address)).announceReady <;> rfl
      · have closed : machine.edges (.event .allIutConfigurationExecuted)
            (c.withTestsuite (c.testsuite.updateNodeAddress name address)).state = [] := by
          rw [withTestsuite_state]
          cases state : c.state with
          | waitingForIutConfigurationExecuted => exact absurd state configuring
          | _ => rfl
        have refused := fire_refused upper services 14 none closed
        simp only [Handler.handleIutConfigurationExecuted, EStateM.run_bind, update, run_lift_ok,
          Handler.updateTestsuite_run, Handler.testsuite_run, withTestsuite_testsuite, complete,
          ↓reduceIte, refused, withTestsuite_state, recordNode, configuring]
        by_cases lenient : c.state = .waitingForTestcaseStart
        · simp only [lenient, ↓reduceIte, EStateM.run_pure]
        · simp only [lenient, ↓reduceIte]
    · simp [Handler.handleIutConfigurationExecuted, recordNode, update, complete]

end Reactions

end Coordinator

end Ioppytest
