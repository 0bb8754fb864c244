import Ioppytest.TestSuite.Progress

/-!
# Executing a test case again

What a test case was used for before `reinit` does not show afterwards. An operation changes of a
step only what `Step.reinit` sets, so that after `reinit` the steps are those of the test
description; of the rest of a test case only the stored report is left, which no operation reads.
-/

namespace Ioppytest

namespace Step

/-- A change of state is undone. -/
@[simp] theorem changeState_reinit (step : Step) (state : Option StepState) :
    (step.changeState state).reinit = step.reinit := by
  obtain ⟨id, type, description, iut, iut_iff, earlier, partialVerdict⟩ := step
  cases type <;> rfl

/-- A result is forgotten. -/
theorem setResult_reinit {step : Step} (judged : step.type.hasVerdict = true)
    (result : VerdictValue) (info : String) :
    (step.setResult result info).reinit = step.reinit := by
  obtain ⟨id, type, description, iut, iut_iff, state, partialVerdict⟩ := step
  cases type with
  | stimuli => cases judged
  | check | verify | feature => rfl

/-- `reinit` a second time changes nothing. -/
@[simp] theorem reinit_reinit (step : Step) : step.reinit.reinit = step.reinit :=
  step.reinit_pristine.reinit_eq

/-- The answer of the user is forgotten. -/
theorem verified_reinit {step : Step} (type : step.type = .verify) (verifyResponse : Bool) :
    (step.verified verifyResponse).reinit = step.reinit := by
  have judged : step.type.hasVerdict = true := by
    rw [type]
    rfl
  unfold verified
  rw [changeState_reinit]
  split <;> exact setResult_reinit judged _ _

/-- An abort is undone. -/
@[simp] theorem abort_reinit (step : Step) : step.abort.reinit = step.reinit := by
  unfold abort
  split
  · rename_i judged
    rw [changeState_reinit, setResult_reinit judged]
  · exact changeState_reinit step _

end Step

namespace TestCase

/-- The steps as `reinit` would leave them. -/
def fresh (tc : TestCase) : List Step := tc.sequence.map Step.reinit

variable {tc : TestCase}

/-- A change of all steps that is undone in each. -/
theorem map_reinit {steps : List Step} {change : Step → Step}
    (undone : ∀ step, (change step).reinit = step.reinit) :
    (steps.map change).map Step.reinit = steps.map Step.reinit := by
  rw [List.map_map]
  exact List.map_congr_left fun step _ => undone step

/-- A change of one step that is undone in it. -/
theorem modifyStep_fresh {k : Nat} {change : Step → Step}
    (undone : ∀ step, tc.sequence[k]? = some step → (change step).reinit = step.reinit) :
    (tc.modifyStep k change).fresh = tc.fresh := by
  apply List.ext_getElem?
  intro j
  simp only [fresh, List.getElem?_map, modifyStep_getElem?, Option.map_map]
  cases found : tc.sequence[j]? with
  | none => rfl
  | some step =>
    by_cases here : k = j
    · subst here
      simp [undone step found]
    · simp [here]

/-- Reinitialising a test case does not matter when it is begun anew. -/
@[simp] theorem reinit_fresh (tc : TestCase) : tc.reinit.fresh = tc.fresh :=
  map_reinit Step.reinit_reinit

/-- A change of state does not matter when it is begun anew. -/
@[simp] theorem changeState_fresh (tc : TestCase) (state : TestCaseState) :
    (tc.changeState state).fresh = tc.fresh := by
  cases state
  case skipped => exact map_reinit fun step => step.changeState_reinit _
  all_goals rfl

/-- Aborting does not matter when it is begun anew. -/
@[simp] theorem abort_fresh (tc : TestCase) : tc.abort.fresh = tc.fresh :=
  map_reinit Step.abort_reinit

/-- A stored report does not matter when it is begun anew. -/
@[simp] theorem stored_fresh (tc : TestCase) (generated : GeneratedReport) :
    (tc.stored generated).fresh = tc.fresh := by
  cases generated <;> rfl

/-- Fetching steps changes the state of the last one at most. -/
theorem nextStepFrom_fresh (steps : List Step) (tc : TestCase) :
    (nextStepFrom steps tc).2.fresh = tc.fresh := by
  induction steps generalizing tc with
  | nil => rfl
  | cons step rest ih =>
    unfold nextStepFrom
    dsimp only
    split
    · exact ih _
    · exact modifyStep_fresh fun other _ => other.changeState_reinit _

/-- Fetching a step does not matter when it is begun anew. -/
@[simp] theorem nextStep_fresh (tc : TestCase) : tc.nextStep.2.fresh = tc.fresh :=
  nextStepFrom_fresh _ _

/-- `reinit` of a test case with other steps in the same description. -/
theorem reinit_eq {other : TestCase} (same : tc.fresh = other.fresh) :
    tc.reinit = { other.reinit with report := tc.report } := by
  simp only [fresh] at same
  simp [reinit, same]

/-- The iterator does not look at the report. -/
theorem nextStepFrom_report (steps : List Step) (tc : TestCase) (report : Option Report) :
    nextStepFrom steps { tc with report } =
      ((nextStepFrom steps tc).1, { (nextStepFrom steps tc).2 with report }) := by
  induction steps generalizing tc with
  | nil => rfl
  | cons step rest ih =>
    unfold nextStepFrom
    dsimp only
    split
    · exact ih { tc with currentStep := some tc.stepIt, stepIt := tc.stepIt + 1 }
    · rfl

/-- `change_state` does not look at the report. -/
theorem changeState_stored (tc : TestCase) (state : TestCaseState) (report : Option Report) :
    { tc with report }.changeState state = { tc.changeState state with report } := by
  cases state <;> rfl

end TestCase

namespace TestSuite

/-- The operations on a test suite and on the test cases and steps in it. -/
inductive Operation (td : TestDescriptions) where
  | nextTestcase
  | goToTestcase (testcaseId : String)
  | nextStep
  | skipTestcase (testcaseId : Option String)
  | configureTestsuite (upper : String → String) (tcListRequested : List String)
    (sessionId : Option String) (users : Option (List String))
    (configuration : Option SessionConfiguration)
  | reinit (upper : String → String)
  | reinitTestcase (testcaseId : Option String)
  | abortCurrentTestcase
  | setCurrentTestcaseState (state : TestCaseState)
  | updateNodeAddress (node : String) (address : String × String)
  | finishCheckStep (partialVerdict : Option String)
  | finishVerifyStep (verifyResponse : Option Bool)
  | finishStimuliStep
  | generateReport
  /-- `TestCase.generate_testcase_report`. -/
  | generateTestcaseReport (i : Fin td.size) (tatAnalysisReport : List AnalysisItem)
    (errMsg : Option String)
  /-- `TestCase.reinit`. -/
  | reinitialise (i : Fin td.size)
  /-- `TestCase.change_state`. -/
  | changeState (i : Fin td.size) (state : TestCaseState)
  /-- `TestCase.abort`. -/
  | abort (i : Fin td.size)
  /-- The assignment of `None` to `current_step`. -/
  | clearCurrentStep (i : Fin td.size)
  /-- `Step.reinit`. -/
  | reinitStep (i : Fin td.size) (k : Nat)
  /-- `Step.change_state`. -/
  | changeStepState (i : Fin td.size) (k : Nat) (state : Option StepState)
  /-- `Step.set_result`, which asserts that the step can have a result. -/
  | setStepResult (i : Fin td.size) (k : Nat) (result : VerdictValue) (resultInfo : String)

variable {td : TestDescriptions}

/-- The suite after an operation; one that raises leaves it as it was. -/
def perform (ts : TestSuite td) : Operation td → TestSuite td
  | .nextTestcase => (ts.nextTestcase.map (·.2)).toOption.getD ts
  | .goToTestcase testcaseId => (ts.goToTestcase testcaseId).toOption.getD ts
  | .nextStep => ts.nextStep.2
  | .skipTestcase testcaseId => (ts.skipTestcase testcaseId).toOption.getD ts
  | .configureTestsuite upper tcListRequested sessionId users configuration =>
    (ts.configureTestsuite upper tcListRequested sessionId users configuration).toOption.getD ts
  | .reinit upper => (ts.reinit upper).toOption.getD ts
  | .reinitTestcase testcaseId => ts.reinitTestcase testcaseId
  | .abortCurrentTestcase => ts.abortCurrentTestcase.toOption.getD ts
  | .setCurrentTestcaseState state => (ts.setCurrentTestcaseState state).toOption.getD ts
  | .updateNodeAddress node address => ts.updateNodeAddress node address
  | .finishCheckStep partialVerdict => (ts.finishCheckStep partialVerdict).toOption.getD ts
  | .finishVerifyStep verifyResponse => (ts.finishVerifyStep verifyResponse).toOption.getD ts
  | .finishStimuliStep => ts.finishStimuliStep
  | .generateReport => ts.generateReport
  | .generateTestcaseReport i tatAnalysisReport errMsg =>
    ts.modify i fun tc => (tc.generateTestcaseReport tatAnalysisReport errMsg).toOption.getD tc
  | .reinitialise i => ts.modify i (·.reinit)
  | .changeState i state => ts.modify i (·.changeState state)
  | .abort i => ts.modify i (·.abort)
  | .clearCurrentStep i => ts.modify i ({ · with currentStep := none })
  | .reinitStep i k => ts.modify i (·.modifyStep k (·.reinit))
  | .changeStepState i k state => ts.modify i (·.modifyStep k (·.changeState state))
  | .setStepResult i k result resultInfo =>
    ts.modify i (·.modifyStep k fun step =>
      if step.type.hasVerdict then step.setResult result resultInfo else step)

/-- The suite after a history of operations. -/
def history (operations : List (Operation td)) : TestSuite td := operations.foldl perform (new td)

/-- `TestCase.reinit` of a test case that is, or is made, the current one. -/
def restart (ts : TestSuite td) (i : Fin td.size) : TestSuite td :=
  { ts with currentTc := some i }.modify i (·.reinit)

/-- What is called to execute a test case. -/
inductive Call where
  | nextStep
  | finishStimuliStep
  | finishVerifyStep (verifyResponse : Option Bool)
  | setCurrentTestcaseState (state : TestCaseState)
  deriving DecidableEq

/-- A call with the steps that it returns. -/
def call (ts : TestSuite td) : Call → List (Option Nat) × TestSuite td
  | .nextStep => ([ts.nextStep.1], ts.nextStep.2)
  | .finishStimuliStep => ([], ts.finishStimuliStep)
  | .finishVerifyStep verifyResponse =>
    ([], (ts.finishVerifyStep verifyResponse).toOption.getD ts)
  | .setCurrentTestcaseState state => ([], (ts.setCurrentTestcaseState state).toOption.getD ts)

/-- A continuation with the steps that its calls return, in order. -/
def continuation : List Call → TestSuite td → List (Option Nat) × TestSuite td
  | [], ts => ([], ts)
  | first :: rest, ts =>
    let (steps, after) := ts.call first
    let (more, last) := continuation rest after
    (steps ++ more, last)

/-- What a continuation yields in the end. -/
structure Yield where
  /-- The steps that `next_step` returned. -/
  returned : List (Option Nat)
  /-- The steps as they are left, with their states and partial verdicts. -/
  steps : List Step
  /-- What `generate_testcase_report` returns. -/
  generated : Except PyException GeneratedReport
  deriving DecidableEq

/-- What calls and the generation of a report yield for a test case. -/
def yields (ts : TestSuite td) (i : Fin td.size) (calls : List Call)
    (tatAnalysisReport : List AnalysisItem) : Yield :=
  let (returned, after) := continuation calls ts
  ⟨returned, (after.testcase i).sequence,
    (after.testcase i).generatedReport (td.id i) tatAnalysisReport none⟩

/-- The steps of every test case are those of its description, apart from what `reinit` sets. -/
def Described (ts : TestSuite td) : Prop := ∀ i, (ts.testcase i).fresh = ((new td).testcase i).fresh

variable {ts : TestSuite td} {i : Fin td.size}

/-- A change of one test case. -/
theorem Described.modify (described : ts.Described) (change : TestCase → TestCase)
    (kept : (change (ts.testcase i)).fresh = (ts.testcase i).fresh) :
    (ts.modify i change).Described := by
  intro j
  by_cases here : j = i
  · subst here
    rw [modify_testcase, Function.update_self, kept, described j]
  · rw [modify_testcase_of_ne _ _ here, described j]

/-- An operation that may raise. -/
theorem Described.unless {result : Except PyException (TestSuite td)} (described : ts.Described)
    (kept : ∀ after, result = .ok after → after.Described) :
    (result.toOption.getD ts).Described := by
  cases result with
  | error exception => exact described
  | ok after => exact kept after rfl

/-- A step whose event is awaited has the type that the event is about. -/
theorem awaits_type {step : Step} {type : StepType} (guard : ts.awaits type = true)
    (current : ts.getCurrentStep = some step) : step.type = type := by
  simp only [awaits, current, Bool.and_eq_true, Option.any_some, beq_iff_eq] at guard
  exact guard.2

/-- A change of the current step. -/
theorem Described.modifyCurrentStep (described : ts.Described) {change : Step → Step}
    (undone : ∀ step, ts.getCurrentStep = some step → (change step).reinit = step.reinit) :
    (ts.modifyCurrentStep change).Described := by
  unfold TestSuite.modifyCurrentStep
  cases current : ts.currentTc with
  | none => exact described
  | some i =>
    dsimp only
    cases pointer : (ts.testcase i).currentStep with
    | none => exact described
    | some k =>
      refine described.modify (·.modifyStep k change)
        (TestCase.modifyStep_fresh fun step found => undone step ?_)
      simp [getCurrentStep, current, TestCase.step?, pointer, found]

/-- Skipping a test case finishes its steps. -/
theorem Described.skipTestcase (described : ts.Described) {testcaseId : Option String}
    {after : TestSuite td} (run : ts.skipTestcase testcaseId = .ok after) : after.Described := by
  cases found : (ts.getTestcase testcaseId).or ts.currentTc with
  | none =>
    simp only [TestSuite.skipTestcase, found] at run
    cases run
  | some i =>
    rw [skipTestcase_found found] at run
    obtain rfl := Except.ok.inj run
    intro j
    rw [skip_testcase]
    split
    · rename_i here
      obtain ⟨rfl, -⟩ := here
      rw [TestCase.changeState_fresh, described j]
    · exact described j

/-- Skipping test cases in order. -/
theorem Described.skipAll (described : ts.Described) {ids : List String} {after : TestSuite td}
    (run : ids.foldlM (fun ts id => ts.skipTestcase (some id)) ts =
      (.ok after : Except PyException (TestSuite td))) : after.Described := by
  induction ids generalizing ts with
  | nil =>
    obtain rfl := Except.ok.inj run
    exact described
  | cons id rest ih =>
    rw [List.foldlM_cons] at run
    cases step : ts.skipTestcase (some id) with
    | error exception =>
      rw [step] at run
      cases run
    | ok next =>
      rw [step] at run
      exact ih (described.skipTestcase step) run

/-- Configuring the suite skips test cases. -/
theorem Described.configureTestsuite (described : ts.Described) {upper : String → String}
    {tcListRequested : List String} {sessionId : Option String} {users : Option (List String)}
    {configuration : Option SessionConfiguration} {after : TestSuite td}
    (run : ts.configureTestsuite upper tcListRequested sessionId users configuration = .ok after) :
    after.Described := by
  unfold TestSuite.configureTestsuite at run
  dsimp only at run
  split at run
  · obtain rfl := Except.ok.inj run
    exact described
  · refine Described.skipAll ?_ run
    exact fun i => described i

/-- Resetting the suite resets each test case. -/
theorem Described.reinit (described : ts.Described) {upper : String → String}
    {after : TestSuite td} (run : ts.reinit upper = .ok after) : after.Described := by
  have reset : Described { ts with testcase := fun i => (ts.testcase i).reinit } :=
    fun i => (TestCase.reinit_fresh _).trans (described i)
  unfold TestSuite.reinit at run
  dsimp only at run
  split at run
  · exact reset.configureTestsuite run
  · obtain rfl := Except.ok.inj run
    exact reset

/-- What one operation changes in the steps, `reinit` undoes. -/
theorem Described.perform (described : ts.Described) (operation : Operation td) :
    (ts.perform operation).Described := by
  cases operation with
  | nextTestcase =>
    refine described.unless fun after run => ?_
    unfold TestSuite.nextTestcase at run
    split at run
    · obtain rfl := Except.ok.inj run
      exact fun i => described i
    · cases run
  | goToTestcase testcaseId =>
    refine described.unless fun after run => ?_
    unfold TestSuite.goToTestcase at run
    split at run
    · rename_i i found
      obtain rfl := Except.ok.inj run
      have selected : Described { ts with currentTc := some i } := described
      exact selected.modify (·.reinit) (TestCase.reinit_fresh _)
    · cases run
  | nextStep =>
    change ts.nextStep.2.Described
    unfold TestSuite.nextStep
    split
    · exact described
    · exact described.modify (·.nextStep.2) (TestCase.nextStep_fresh _)
  | skipTestcase testcaseId => exact described.unless fun _ run => described.skipTestcase run
  | configureTestsuite upper tcListRequested sessionId users configuration =>
    exact described.unless fun _ run => described.configureTestsuite run
  | reinit upper => exact described.unless fun _ run => described.reinit run
  | reinitTestcase testcaseId =>
    change (ts.reinitTestcase testcaseId).Described
    unfold TestSuite.reinitTestcase
    split
    · exact described.modify (·.reinit) (TestCase.reinit_fresh _)
    · exact described
  | abortCurrentTestcase =>
    refine described.unless fun after run => ?_
    unfold TestSuite.abortCurrentTestcase at run
    split at run
    · obtain rfl := Except.ok.inj run
      exact fun i => described.modify (·.abort) (TestCase.abort_fresh _) i
    · cases run
  | setCurrentTestcaseState state =>
    refine described.unless fun after run => ?_
    unfold TestSuite.setCurrentTestcaseState at run
    split at run
    · obtain rfl := Except.ok.inj run
      exact described.modify (·.changeState state) (TestCase.changeState_fresh _ state)
    · cases run
  | updateNodeAddress node address => exact described
  | finishCheckStep partialVerdict =>
    refine described.unless fun after run => ?_
    unfold TestSuite.finishCheckStep at run
    split at run
    · cases partialVerdict <;> cases run
    · obtain rfl := Except.ok.inj run
      exact described
  | finishVerifyStep verifyResponse =>
    refine described.unless fun after run => ?_
    unfold TestSuite.finishVerifyStep at run
    split at run
    · rename_i guard
      cases verifyResponse with
      | none => cases run
      | some response =>
        obtain rfl := Except.ok.inj run
        refine described.modifyCurrentStep fun step current => ?_
        have type : step.type = .verify := awaits_type guard current
        exact step.verified_reinit type response
    · obtain rfl := Except.ok.inj run
      exact described
  | finishStimuliStep =>
    change ts.finishStimuliStep.Described
    unfold TestSuite.finishStimuliStep
    split
    · exact described.modifyCurrentStep fun step _ => step.changeState_reinit _
    · exact described
  | generateReport => exact described
  | generateTestcaseReport i tatAnalysisReport errMsg =>
    refine described.modify
      (fun tc => (tc.generateTestcaseReport tatAnalysisReport errMsg).toOption.getD tc) ?_
    rw [TestCase.generateTestcaseReport_eq _ (td.id i)]
    cases (ts.testcase i).generatedReport (td.id i) tatAnalysisReport errMsg with
    | error exception => rfl
    | ok generated => exact TestCase.stored_fresh _ generated
  | reinitialise i => exact described.modify (·.reinit) (TestCase.reinit_fresh _)
  | changeState i state =>
    exact described.modify (·.changeState state) (TestCase.changeState_fresh _ state)
  | abort i => exact described.modify (·.abort) (TestCase.abort_fresh _)
  | clearCurrentStep i => exact described.modify ({ · with currentStep := none }) rfl
  | reinitStep i k =>
    exact described.modify (·.modifyStep k (·.reinit))
      (TestCase.modifyStep_fresh fun step _ => step.reinit_reinit)
  | changeStepState i k state =>
    exact described.modify (·.modifyStep k (·.changeState state))
      (TestCase.modifyStep_fresh fun step _ => step.changeState_reinit state)
  | setStepResult i k result resultInfo =>
    refine described.modify (·.modifyStep k fun step =>
      if step.type.hasVerdict then step.setResult result resultInfo else step)
        (TestCase.modifyStep_fresh fun step _ => ?_)
    split
    · rename_i judged
      exact Step.setResult_reinit judged result resultInfo
    · rfl

/-- What a whole history changes in the steps, `reinit` undoes. -/
theorem history_described (operations : List (Operation td)) : (history operations).Described := by
  have run (ts : TestSuite td) (described : ts.Described) :
      (operations.foldl perform ts).Described := by
    induction operations generalizing ts with
    | nil => exact described
    | cons operation rest ih => exact ih _ (described.perform operation)
  exact run (new td) fun _ => rfl

/-- Two suites are executing a test case and differ in it in the stored report at most. -/
structure Alike (i : Fin td.size) (first second : TestSuite td) : Prop where
  /-- The test case is the current one in the first suite. -/
  first_current : first.currentTc = some i
  /-- The test case is the current one in the second suite. -/
  second_current : second.currentTc = some i
  /-- The test cases agree but for the report. -/
  testcase : second.testcase i =
    { first.testcase i with report := (second.testcase i).report }

variable {first second : TestSuite td}

/-- A test case is restarted. -/
theorem alike_restart (described : first.Described) (other : second.Described) (i : Fin td.size) :
    Alike i (first.restart i) (second.restart i) := by
  refine ⟨rfl, rfl, ?_⟩
  have same : (second.testcase i).fresh = (first.testcase i).fresh :=
    (other i).trans (described i).symm
  simp only [restart, modify_testcase, Function.update_self, TestCase.reinit_report]
  exact TestCase.reinit_eq same

/-- The same change of the test case that does not look at the report. -/
theorem Alike.modify (alike : Alike i first second) (change : TestCase → TestCase)
    (blind : ∀ tc report, change { tc with report } = { change tc with report }) :
    Alike i (first.modify i change) (second.modify i change) := by
  refine ⟨alike.first_current, alike.second_current, ?_⟩
  simp only [modify_testcase, Function.update_self]
  rw [alike.testcase, blind]

/-- The current steps are equal. -/
theorem Alike.getCurrentStep (alike : Alike i first second) :
    second.getCurrentStep = first.getCurrentStep := by
  simp only [TestSuite.getCurrentStep, alike.first_current, alike.second_current, Option.bind_some]
  rw [alike.testcase]
  rfl

/-- The guards of the `finish_*_step` methods are equal. -/
theorem Alike.awaits (alike : Alike i first second) (type : StepType) :
    second.awaits type = first.awaits type := by
  simp only [TestSuite.awaits, getCurrentStepState, alike.getCurrentStep]

/-- The same change of the current step. -/
theorem Alike.modifyCurrentStep (alike : Alike i first second) (change : Step → Step) :
    Alike i (first.modifyCurrentStep change) (second.modifyCurrentStep change) := by
  have pointer : (second.testcase i).currentStep = (first.testcase i).currentStep := by
    rw [alike.testcase]
  simp only [TestSuite.modifyCurrentStep, alike.first_current, alike.second_current, pointer]
  cases (first.testcase i).currentStep with
  | none => exact alike
  | some k => exact alike.modify (·.modifyStep k change) fun _ _ => rfl

/-- The same call returns the same step and leaves the suites alike. -/
theorem Alike.call (alike : Alike i first second) (next : Call) :
    (second.call next).1 = (first.call next).1 ∧
      Alike i (first.call next).2 (second.call next).2 := by
  cases next with
  | nextStep =>
    have blind (tc : TestCase) (report : Option Report) :
        TestCase.nextStep { tc with report } =
          (tc.nextStep.1, { tc.nextStep.2 with report }) :=
      TestCase.nextStepFrom_report (tc.sequence.drop tc.stepIt) tc report
    simp only [TestSuite.call, TestSuite.nextStep, alike.first_current, alike.second_current]
    refine ⟨?_, alike.modify (·.nextStep.2) fun tc report => by rw [blind]⟩
    rw [alike.testcase, blind]
  | finishStimuliStep =>
    refine ⟨rfl, ?_⟩
    simp only [TestSuite.call, finishStimuliStep, alike.awaits]
    split
    · exact alike.modifyCurrentStep _
    · exact alike
  | finishVerifyStep verifyResponse =>
    refine ⟨rfl, ?_⟩
    simp only [TestSuite.call, finishVerifyStep, alike.awaits]
    split
    · cases verifyResponse with
      | none => exact alike
      | some response => exact alike.modifyCurrentStep (·.verified response)
    · exact alike
  | setCurrentTestcaseState state =>
    refine ⟨rfl, ?_⟩
    simp only [TestSuite.call, setCurrentTestcaseState, alike.first_current, alike.second_current]
    exact alike.modify (·.changeState state) fun tc report => tc.changeState_stored state report

/-- The same calls return the same steps and leave the suites alike. -/
theorem Alike.continuation (alike : Alike i first second) (calls : List Call) :
    (continuation calls second).1 = (continuation calls first).1 ∧
      Alike i (continuation calls first).2 (continuation calls second).2 := by
  induction calls generalizing first second with
  | nil => exact ⟨rfl, alike⟩
  | cons next rest ih =>
    obtain ⟨steps, after⟩ := alike.call next
    obtain ⟨more, last⟩ := ih after
    refine ⟨?_, last⟩
    simp only [TestSuite.continuation, steps, more]

/-- **Executing a test case again does not depend on its history**: after `reinit`, the same calls
yield the same steps, states and report. -/
theorem reexecution_independent (first second : List (Operation td)) (i : Fin td.size)
    (calls : List Call) (tatAnalysisReport : List AnalysisItem) :
    ((history first).restart i).yields i calls tatAnalysisReport =
      ((history second).restart i).yields i calls tatAnalysisReport := by
  have start := alike_restart (history_described first) (history_described second) i
  obtain ⟨returned, alike⟩ := start.continuation calls
  simp only [yields, returned]
  rw [alike.testcase]
  rfl

end TestSuite

end Ioppytest
