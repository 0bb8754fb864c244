import Ioppytest.Lib.Nesting
import Ioppytest.TestCoordinator.Coordinator

/-!
# The nesting of triggers

The triggers of the coordinator nest four deep at most: the bound that the machine is run with is never
met, whatever state the coordinator is in.
-/

namespace Ioppytest

open Raising Transitions

variable {td : TestDescriptions}

/-- The triggers that a callback fires. -/
def Callback.fires : Callback → List Fired
  | .bootstrap => [.event .bootstrap]
  | .handleBootstrap => [.event .bootstrapped]
  | .prepareNextTestcase => [.event .startConfiguration, .event .finishTestsuite]
  | .prepareNextStep => [.event .startNextStep, .event .finishTestcase]
  | .toPreparingNextTestcase => [.to .preparingNextTestcase]
  | .handleIutConfigurationExecuted => [.event .allIutConfigurationExecuted]
  | _ => []

/-- How deep the triggers nest that a trigger leads to. -/
def nestingRank : Fired → Nat
  | .event .bootstrapped | .event .startConfiguration | .event .finishTestsuite
  | .event .startNextStep | .event .allIutConfigurationExecuted => 0
  | .event .bootstrap | .to .preparingNextTestcase => 1
  | .event .finishTestcase => 2
  | _ => 3

/-- The rank falls with every callback of the tables. -/
theorem machine_ranked : machine.Ranked Callback.fires nestingRank := by
  intro fired source
  rcases fired with name | dest
  · cases name <;> cases source <;> decide
  · cases dest <;> cases source <;> decide

/-- A check does not end with the exception for triggers that nest too deeply. -/
def Shallow {α : Type} (checked : Except PyException α) : Prop := checked ≠ .error .recursionError

namespace Shallow

variable {α β : Type}

/-- A value. -/
theorem value (value : α) : Shallow (.ok value) := fun same => by cases same

/-- One check and then another one. -/
theorem seq {checked : Except PyException α} {rest : α → Except PyException β}
    (first : Shallow checked) (later : ∀ value, Shallow (rest value)) :
    Shallow (checked >>= rest) := by
  cases checked with
  | ok value => exact later value
  | error exception => exact fun same => first (congrArg Except.error (Except.error.inj same))

/-- A check for each of a list. -/
theorem mapM {check : α → Except PyException β} (each : ∀ item, Shallow (check item))
    (items : List α) : Shallow (items.mapM check) := by
  induction items with
  | nil => exact value []
  | cons item rest ih =>
    rw [List.mapM_cons]
    exact (each item).seq fun first => ih.seq fun others => value (first :: others)

/-- An operation for each of a list. -/
theorem foldlM {operation : β → α → Except PyException β}
    (each : ∀ before item, Shallow (operation before item)) (items : List α) (start : β) :
    Shallow (items.foldlM operation start) := by
  induction items generalizing start with
  | nil => exact value start
  | cons item rest ih =>
    rw [List.foldlM_cons]
    exact (each start item).seq fun next => ih next

end Shallow

namespace TestCase

/-- The part of the steps. -/
theorem reportSteps_shallow (steps : List Step) (final : Verdict) (entries : List PartialVerdict) :
    Shallow (reportSteps steps final entries) := by
  induction steps generalizing final entries with
  | nil => exact .value _
  | cons step rest ih =>
    unfold reportSteps
    split
    · split
      · exact ih _ _
      · exact ih _ _
      · exact fun same => by cases same
    · exact ih _ _

/-- The part of the analysis. -/
theorem reportItems_shallow (items : List AnalysisItem) (final : Verdict)
    (entries : List PartialVerdict) : Shallow (reportItems items final entries) := by
  induction items generalizing final entries with
  | nil => exact .value _
  | cons item rest ih =>
    unfold reportItems
    split
    · exact fun same => by cases same
    · exact ih _ _

/-- Looking for an unfinished step. -/
theorem checkAllStepsFinished_shallow (tc : TestCase) : Shallow tc.checkAllStepsFinished := by
  unfold checkAllStepsFinished
  split <;> exact fun same => by cases same

/-- Making a report raises other exceptions only. -/
theorem generateTestcaseReport_shallow (tc : TestCase) (items : List AnalysisItem)
    (errMsg : Option String) : Shallow (tc.generateTestcaseReport items errMsg) := by
  have analyzed : Shallow (analysisReport tc.sequence items) := by
    refine (reportSteps_shallow _ _ _).seq fun _ => ?_
    dsimp only
    split
    · exact .value _
    · exact (reportItems_shallow _ _ _).seq fun _ => .value _
  unfold generateTestcaseReport
  split
  · exact .value _
  · split
    · exact .value _
    · refine tc.checkAllStepsFinished_shallow.seq fun finished => ?_
      split
      · exact .value _
      · exact analyzed.seq fun _ => .value _

end TestCase

namespace TestSuite

variable (ts : TestSuite td)

/-- Skipping a test case. -/
theorem skipTestcase_shallow (testcaseId : Option String) : Shallow (ts.skipTestcase testcaseId) := by
  unfold skipTestcase
  split
  · exact fun same => by cases same
  · split <;> exact .value _

/-- Configuring the session. -/
theorem configureTestsuite_shallow (upper : String → String) (requested : List String)
    (sessionId : Option String) (users : Option (List String))
    (configuration : Option SessionConfiguration) :
    Shallow (ts.configureTestsuite upper requested sessionId users configuration) := by
  unfold configureTestsuite
  split
  · exact .value _
  · exact Shallow.foldlM (fun ts id => ts.skipTestcase_shallow (some id)) _ _

/-- Starting the suite anew. -/
theorem reinit_shallow (upper : String → String) : Shallow (ts.reinit upper) := by
  unfold reinit
  split
  · exact configureTestsuite_shallow _ upper _ none none none
  · exact .value _

/-- Aborting the current test case. -/
theorem abortCurrentTestcase_shallow : Shallow ts.abortCurrentTestcase := by
  unfold abortCurrentTestcase
  split <;> exact fun same => by cases same

/-- Changing the state of the current test case. -/
theorem setCurrentTestcaseState_shallow (state : TestCaseState) :
    Shallow (ts.setCurrentTestcaseState state) := by
  unfold setCurrentTestcaseState
  split <;> exact fun same => by cases same

/-- Going to a test case. -/
theorem goToTestcase_shallow (testcaseId : String) : Shallow (ts.goToTestcase testcaseId) := by
  unfold goToTestcase
  split <;> exact fun same => by cases same

/-- Looking for the next test case. -/
theorem nextTestcase_shallow : Shallow ts.nextTestcase := by
  unfold nextTestcase
  split <;> exact fun same => by cases same

/-- Answering a check. -/
theorem finishCheckStep_shallow (partialVerdict : Option String) :
    Shallow (ts.finishCheckStep partialVerdict) := by
  unfold finishCheckStep
  split
  · split <;> exact fun same => by cases same
  · exact .value _

/-- Answering a verification. -/
theorem finishVerifyStep_shallow (verifyResponse : Option Bool) :
    Shallow (ts.finishVerifyStep verifyResponse) := by
  unfold finishVerifyStep
  split
  · split <;> exact fun same => by cases same
  · exact .value _

/-- The configuration of the session. -/
theorem getTestsuiteConfiguration_shallow : Shallow (getTestsuiteConfiguration ts) := by
  unfold getTestsuiteConfiguration
  split <;> exact fun same => by cases same

end TestSuite

namespace Handler

/-- A handler does not raise the exception for triggers that nest too deeply. -/
abbrev Bounded (td : TestDescriptions) {α : Type} (body : Handler td α) : Prop :=
  Spares PyException.recursionError body

/-- Publishing messages. -/
theorem publish_bounded (messages : List Message) : Bounded td (publish messages) :=
  Spares.change _

/-- Reading the suite. -/
theorem testsuite_bounded : Bounded td testsuite :=
  Spares.read.seq fun _ => Spares.value _

/-- Changing the suite. -/
theorem updateTestsuite_bounded {operation : TestSuite td → Except PyException (TestSuite td)}
    (shallow : ∀ ts, Shallow (operation ts)) : Bounded td (updateTestsuite operation) :=
  Spares.read.seq fun c => (Spares.check (shallow c.testsuite)).seq fun _ => Spares.change _

/-- Changing the suite by an operation that cannot fail. -/
theorem updated_bounded (operation : TestSuite td → TestSuite td) :
    Bounded td (updateTestsuite fun ts => .ok (operation ts)) :=
  updateTestsuite_bounded fun ts => .value (operation ts)

/-- Looking up the current test case. -/
theorem currentTestcase_bounded : Bounded td currentTestcase :=
  Spares.read.seq fun _ => Spares.needed (fun same => by cases same) _

/-- Changing the state of the current test case. -/
theorem setCurrentTestcaseState_bounded (state : TestCaseState) :
    Bounded td (setCurrentTestcaseState state) :=
  updateTestsuite_bounded (·.setCurrentTestcaseState_shallow state)

/-- Saving the report. -/
theorem saveCurrentTestcaseReportToFile_bounded :
    Bounded td saveCurrentTestcaseReportToFile :=
  currentTestcase_bounded.seq fun _ => testsuite_bounded.seq fun _ =>
    (Spares.needed (fun same => by cases same) _).seq fun _ => Spares.value ()

/-- The answer to a step. -/
theorem handleStepExecuted_bounded (event : Option Event) :
    Bounded td (handleStepExecuted event) := by
  have reported {α : Type} (message : String) {checked : Except PyException α}
      (shallow : Shallow checked) : Shallow (reportMissing message checked) := by
    unfold reportMissing
    split
    · split
      · exact fun same => by cases same
      · exact shallow
    · exact .value _
  have read {α : Type} (field : Option α) : Shallow (getattr field) := by
    cases field <;> exact fun same => by cases same
  cases event with
  | none => exact Spares.value ()
  | some event =>
    unfold handleStepExecuted
    refine updateTestsuite_bounded fun ts => ?_
    unfold answer
    split
    · exact .value _
    · exact reported _ ((read _).seq fun _ => (read _).seq fun _ => ts.finishCheckStep_shallow _)
    · exact reported _ ((read _).seq fun _ => ts.finishVerifyStep_shallow _)
    · exact .value _

/-- The session configuration. -/
theorem handleTestsuiteConfig_bounded (upper : String → String) (sessionId : Option String)
    (users : Option (List String)) (configuration : Option SessionConfiguration) :
    Bounded td (handleTestsuiteConfig upper sessionId users configuration) := by
  have listed : Shallow (sessionTcList configuration) := by
    unfold sessionTcList
    split
    · exact .value _
    · refine Shallow.mapM (fun url => ?_) _
      split <;> exact fun same => by cases same
  exact (Spares.check listed).seq fun _ =>
    updateTestsuite_bounded fun ts => ts.configureTestsuite_shallow _ _ _ _ _

/-- The address of a node. -/
theorem nodeUpdate_shallow (event : Option Event) : Shallow (nodeUpdate event) := by
  have addressed : Shallow (agentAndAddress event) := by
    unfold agentAndAddress
    split
    · split
      · exact fun same => by cases same
      · split <;> exact fun same => by cases same
    · split <;> exact fun same => by cases same
    · exact fun same => by cases same
  refine addressed.seq fun _ => ?_
  dsimp only
  split
  · split <;> exact fun same => by cases same
  · exact fun same => by cases same

/-- The end of a test case that is reported as an error. -/
theorem finishWithError_bounded (i : Fin td.size) (errMsg : String) :
    Bounded td (finishWithError i errMsg) :=
  testsuite_bounded.seq fun ts =>
    (Spares.check ((ts.testcase i).generateTestcaseReport_shallow _ _)).seq fun _ =>
      (updated_bounded _).seq fun _ =>
        saveCurrentTestcaseReportToFile_bounded.seq fun _ =>
          updated_bounded _

/-- The end of a test case. -/
theorem finishTestcase_bounded (services : Services) :
    Bounded td (finishTestcase services) := by
  have captured : Shallow (captureOf services.getCapture) := by
    unfold captureOf
    split
    · exact .value _
    · dsimp only
      split
      · split <;> exact fun same => by cases same
      all_goals exact fun same => by cases same
  have analyzed : Shallow (analysisOf services.analysis) := by
    unfold analysisOf
    split
    · exact .value _
    · dsimp only
      split <;> exact fun same => by cases same
  refine currentTestcase_bounded.seq fun i => testsuite_bounded.seq fun ts =>
    (Spares.check (ts.testcase i).checkAllStepsFinished_shallow).seq fun _ => ?_
  refine Spares.guarded (fun same => by cases same) <| (updated_bounded _).seq fun _ =>
    (publish_bounded _).seq fun _ => (publish_bounded _).seq fun _ => (Spares.change _).seq fun _ =>
      (Spares.check captured).seq fun reply => ?_
  cases reply with
  | error errMsg => exact finishWithError_bounded i errMsg
  | ok pcap =>
    refine Spares.read.seq fun _ => (publish_bounded _).seq fun _ =>
      (Spares.check analyzed).seq fun answer => ?_
    cases answer with
    | error errMsg => exact finishWithError_bounded i errMsg
    | ok items =>
      exact testsuite_bounded.seq fun ts =>
        (Spares.check ((ts.testcase i).generateTestcaseReport_shallow _ _)).seq fun _ =>
          (updated_bounded _).seq fun _ => saveCurrentTestcaseReportToFile_bounded.seq fun _ =>
            (updated_bounded _).seq fun _ => saveCurrentTestcaseReportToFile_bounded

/-- A request for skipping a test case. -/
theorem handleTestcaseSkip_bounded (event : Option Event) :
    Bounded td (handleTestcaseSkip event) := by
  refine testsuite_bounded.seq fun ts => Spares.guarded (fun same => by cases same) ?_
  have skipped (id : Option String) : Bounded td (updateTestsuite (·.skipTestcase id)) :=
    updateTestsuite_bounded (·.skipTestcase_shallow id)
  exact Spares.branch ((publish_bounded _).seq fun _ => skipped _) (skipped _)

/-- The start of a test case. -/
theorem handleStartTestcase_bounded : Bounded td handleStartTestcase :=
  testsuite_bounded.seq fun _ => Spares.guarded (fun same => by cases same) <|
    (setCurrentTestcaseState_bounded _).seq fun _ => testsuite_bounded.seq fun _ =>
      (Spares.needed (fun same => by cases same) _).seq fun _ => publish_bounded _

/-- The test case that is asked for. -/
theorem testcaseToExecute_bounded (event : Option Event) :
    Bounded td (testcaseToExecute event) := by
  refine Spares.handled ?_ fun exception apart => Spares.branch (Spares.value _) (Spares.raise apart)
  split
  case h_3 => exact currentTestcase_bounded.seq fun _ => Spares.value _
  case h_4 => exact Spares.value _
  -- the event names a test case
  all_goals
    refine testsuite_bounded.seq fun ts =>
      (Spares.needed (fun same => by cases same) _).seq fun named => ?_
    split
    · exact (updateTestsuite_bounded fun ts => ts.goToTestcase_shallow _).seq fun _ => Spares.value _
    · exact Spares.value _

/-- The next test case. -/
theorem prepareNextTestcase_bounded {fire : Fired → Option Event → Handler td Bool}
    (nested : ∀ inner ∈ Callback.prepareNextTestcase.fires, ∀ event, Bounded td (fire inner event))
    (event : Option Event) : Bounded td (prepareNextTestcase fire event) := by
  have next : Bounded td nextTestcase :=
    testsuite_bounded.seq fun ts => (Spares.check ts.nextTestcase_shallow).seq fun _ =>
      (Spares.change _).seq fun _ => Spares.value _
  have triggers (inner : Fired) (fires : inner ∈ Callback.prepareNextTestcase.fires) :
      Bounded td (do let _ ← fire inner none) :=
    (nested inner fires none).seq fun _ => Spares.value ()
  have configures : Bounded td (do
      setCurrentTestcaseState .configuring
      let _ ← fire (.event .startConfiguration) none) :=
    (setCurrentTestcaseState_bounded _).seq fun _ => triggers _ (by simp [Callback.fires])
  refine (testcaseToExecute_bounded event).seq fun asked => testsuite_bounded.seq fun ts => ?_
  cases asked with
  | some i =>
    refine Spares.branch (next.seq fun chosen => ?_) ((Spares.value _).seq fun chosen => ?_)
    all_goals
      cases chosen with
      | some _ => exact configures
      | none => exact triggers _ (by simp [Callback.fires])
  | none =>
    refine next.seq fun chosen => ?_
    cases chosen with
    | some _ => exact configures
    | none => exact triggers _ (by simp [Callback.fires])

/-- The next step. -/
theorem prepareNextStep_bounded {fire : Fired → Option Event → Handler td Bool}
    (nested : ∀ inner ∈ Callback.prepareNextStep.fires, ∀ event, Bounded td (fire inner event)) :
    Bounded td (prepareNextStep fire) := by
  refine testsuite_bounded.seq fun ts => ?_
  obtain ⟨step, after⟩ := ts.nextStep
  refine (Spares.change _).seq fun _ => ?_
  cases step with
  | some _ =>
    exact (setCurrentTestcaseState_bounded _).seq fun _ =>
      (nested _ (by simp [Callback.fires]) none).seq fun _ => Spares.value ()
  | none =>
    exact (setCurrentTestcaseState_bounded _).seq fun _ =>
      (nested _ (by simp [Callback.fires]) none).seq fun _ => Spares.value ()

/-- A node that is configured. -/
theorem handleIutConfigurationExecuted_bounded {fire : Fired → Option Event → Handler td Bool}
    (nested : ∀ inner ∈ Callback.handleIutConfigurationExecuted.fires, ∀ event,
      Bounded td (fire inner event)) (event : Option Event) :
    Bounded td (handleIutConfigurationExecuted fire event) :=
  (Spares.check (nodeUpdate_shallow event)).seq fun _ =>
    (updated_bounded _).seq fun _ => testsuite_bounded.seq fun _ =>
      Spares.branch ((nested _ (by simp [Callback.fires]) none).seq fun _ => Spares.value ())
        (Spares.value ())

/-- The messages that describe the current test case. -/
theorem notifications_bounded :
    Bounded td notifyTestsuiteConfigured ∧ Bounded td notifyStepExecute ∧
      Bounded td notifyTestcaseFinished ∧ Bounded td notifyTestcaseVerdict ∧
      Bounded td notifyTestcaseReady ∧ Bounded td notifyTescaseConfiguration ∧
      Bounded td notifyTestcaseStarted := by
  have other {exception : PyException} (apart : exception ≠ .recursionError) {α : Type}
      (found : Option α) : Bounded td (expect exception found) := Spares.needed apart found
  refine ⟨?_, ?_, ?_, ?_, ?_, ?_, ?_⟩
  · exact testsuite_bounded.seq fun ts =>
      (Spares.check ts.getTestsuiteConfiguration_shallow).seq fun _ => publish_bounded _
  · exact testsuite_bounded.seq fun _ => (other (fun same => by cases same) _).seq fun _ =>
      (other (fun same => by cases same) _).seq fun _ =>
        currentTestcase_bounded.seq fun _ => publish_bounded _
  · exact currentTestcase_bounded.seq fun _ => testsuite_bounded.seq fun _ => publish_bounded _
  · exact (testsuite_bounded.seq fun _ => (other (fun same => by cases same) _).seq fun _ =>
      currentTestcase_bounded.seq fun _ => Spares.value _).seq fun _ =>
        testsuite_bounded.seq fun _ => publish_bounded _
  · exact testsuite_bounded.seq fun _ => (other (fun same => by cases same) _).seq fun _ =>
      currentTestcase_bounded.seq fun _ => testsuite_bounded.seq fun _ => publish_bounded _
  · exact testsuite_bounded.seq fun _ => currentTestcase_bounded.seq fun _ =>
      (other (fun same => by cases same) _).seq fun _ => publish_bounded _
  · exact currentTestcase_bounded.seq fun _ => testsuite_bounded.seq fun _ => publish_bounded _

/-- The callbacks fire what the table of nested triggers says, and nothing else nests too deeply. -/
theorem callback_bounded (upper : String → String) (services : Services)
    {fire : Fired → Option Event → Handler td Bool} (name : Callback)
    (nested : ∀ inner ∈ name.fires, ∀ event, Bounded td (fire inner event)) (event : Option Event) :
    Bounded td (callback upper services fire name event) := by
  obtain ⟨configured, execute, finished, verdict, ready, configuration, started⟩ :=
    notifications_bounded
  have once {inner : Fired} (member : inner ∈ name.fires) (event : Option Event) :
      Bounded td (do let _ ← fire inner event) :=
    (nested inner member event).seq fun _ => Spares.value ()
  cases name with
  | bootstrap | handleBootstrap | toPreparingNextTestcase => exact once List.mem_cons_self _
  | notifyTestsuiteReady | setReceivedEvent => exact Spares.value ()
  | notifyTestsuiteConfigured => exact configured
  | notifyTestsuiteStarted => exact publish_bounded _
  | prepareNextTestcase => exact prepareNextTestcase_bounded nested event
  | prepareNextStep => exact prepareNextStep_bounded nested
  | notifyStepExecute => exact execute
  | notifyTestcaseFinished => exact finished
  | saveCurrentTestcaseReportToFile => exact saveCurrentTestcaseReportToFile_bounded
  | notifyTestcaseVerdict => exact verdict
  | notifyTestcaseAborted => exact Spares.raise fun same => by cases same
  | handleFinishTestsuite => exact updated_bounded _
  | notifyTestsuiteFinished => exact testsuite_bounded.seq fun _ => publish_bounded _
  | handleTestsuiteConfig =>
    unfold callback
    dsimp only
    split
    · exact handleTestsuiteConfig_bounded _ _ _ _
    · exact Spares.raise fun same => by cases same
  | handleTestsuiteStart => exact updateTestsuite_bounded fun ts => ts.reinit_shallow upper
  | configureAgentDataPlaneInterfaces =>
    exact testsuite_bounded.seq fun _ => publish_bounded _
  | notifyTescaseConfiguration => exact configuration
  | handleIutConfigurationExecuted => exact handleIutConfigurationExecuted_bounded nested event
  | handleStartTestcase => exact handleStartTestcase_bounded
  | notifyTestcaseStarted => exact started
  | handleFinishTestcase =>
    exact (finishTestcase_bounded services).seq fun _ => setCurrentTestcaseState_bounded _
  | handleAbortTestcase | handleCurrentStepTimeout =>
    exact updateTestsuite_bounded (·.abortCurrentTestcase_shallow)
  | handleStepExecuted => exact handleStepExecuted_bounded event
  | notifyTestcaseReady => exact ready
  | handleTestcaseRestart =>
    refine testsuite_bounded.seq fun ts => ?_
    split
    · exact updated_bounded _
    · exact Spares.raise fun same => by cases same
  | handleTestcaseSelect => exact updated_bounded fun ts => ts.reinitTestcase ts.getCurrentTestcaseId
  | handleTestcaseSkip => exact handleTestcaseSkip_bounded event

end Handler

namespace Coordinator

/-- The coordinator as a model whose callbacks fire only the triggers of the table. -/
theorem model_fires (upper : String → String) (services : Services) :
    (model td upper services).Fires Callback.fires where
  callback _ name event nested := Handler.callback_bounded upper services name nested event
  condition _ event := by
    change Handler.Bounded td (Handler.isSkippingCurrentTestcase event)
    unfold Handler.isSkippingCurrentTestcase
    split
    · split
      · exact Spares.value _
      · exact Handler.testsuite_bounded.seq fun _ => Spares.value _
    · exact Spares.raise fun same => by cases same
  machineError _ _ := fun same => by cases same

/-- A trigger stays within the bound. -/
theorem trigger_bounded (upper : String → String) (services : Services) (name : TriggerName)
    (event : Option Event) : Handler.Bounded td (trigger upper services name event) := by
  have bounded : nestingRank (.event name) < nestingLimit := by
    cases name <;> decide
  exact machine_ranked.trigger (model_fires upper services) bounded event

/-- **The bound on nested triggers is never met**, by no input and in no state. -/
theorem handle_bounded (upper : String → String) (c : Coordinator td) (input : Input) :
    raised (c.handle upper input) ≠ some .recursionError := by
  cases input with
  | event event services =>
    unfold handle dispatch
    dsimp only
    split
    · exact trigger_bounded upper services _ (some event) c
    · exact fun raises => by cases raises
  | abortTestcase => exact trigger_bounded upper noServices .abortTestcase (some .testCaseAbort) c
  | timeout =>
    unfold handle
    dsimp only
    split
    · exact trigger_bounded upper noServices .timeoutWaitingIutConfigurationExecuted none c
    · exact fun raises => by cases raises

end Coordinator

end Ioppytest
