import Ioppytest.TestSuite.Verdict
import Ioppytest.Exceptions
import Mathlib.Data.List.Basic

/-!
# Steps and test cases

`testsuite.Step` and `testsuite.TestCase`: what a test description fixes about a test case, and
the progress of its execution: the state of the test case and of its steps, the partial verdicts,
the iterator over the steps and the report. `reinit` prepares a test case for being executed
again.
-/

namespace Ioppytest

/-- `Step.type`. -/
inductive StepType where
  | stimuli
  | check
  | verify
  | feature
  deriving DecidableEq

namespace StepType

/-- Stimuli and verify steps are executed by an IUT; the others wait for the analysis. -/
def isExecutable : StepType → Bool
  | .stimuli => true
  | .verify => true
  | .check => false
  | .feature => false

/-- Only check, verify and feature steps have a partial verdict. -/
def hasVerdict : StepType → Bool
  | .stimuli => false
  | _ => true

end StepType

/-- `Step.state`, when it is not `None`. -/
inductive StepState where
  | executing
  | finished
  | postponed
  | aborted
  deriving DecidableEq

/-- `testsuite.Iut`: the node that executes a step. -/
structure Iut where
  /-- Node name. -/
  node : String
  /-- `mode`. -/
  mode : String := "user_assisted"
  /-- `address`, which nothing assigns. -/
  address : Option String := none
  deriving DecidableEq

/-- `testsuite.Step`. -/
structure Step where
  /-- `step_id`. -/
  id : String
  /-- Kind of step. -/
  type : StepType
  /-- What is to be done, rendered. -/
  description : String
  /-- The IUT that executes the step. -/
  iut : Option Iut
  /-- The constructor asserts that exactly the steps executed by an IUT name one. -/
  iut_iff : iut.isSome = type.isExecutable
  /-- State of the current execution. -/
  state : Option StepState := none
  /-- Partial verdict of the current execution; stimuli steps never touch it. -/
  partialVerdict : Verdict := {}
  deriving DecidableEq

namespace Step

/-- `Step.change_state`. -/
def changeState (step : Step) (state : Option StepState) : Step := { step with state }

/-- `Step.set_result`, for the steps that have a partial verdict. -/
def setResult (step : Step) (result : VerdictValue) (resultInfo : String) : Step :=
  { step with partialVerdict := step.partialVerdict.update result resultInfo }

/-- A verify step that the user has answered. -/
def verified (step : Step) (verifyResponse : Bool) : Step :=
  (if verifyResponse then
    step.setResult .pass
      "VERIFY step: User informed that the information was displayed correclty on his/her IUT"
  else
    step.setResult .fail
      ("VERIFY step: User informed that the information was not displayed" ++
        " correclty on his/her IUT")).changeState (some .finished)

/-- `Step.reinit`. -/
def reinit (step : Step) : Step :=
  match step.type with
  | .check | .feature => { step with partialVerdict := {} }.changeState (some .postponed)
  | .verify => { step with partialVerdict := {} }.changeState none
  | .stimuli => step.changeState none

/-- A step of an aborted test case. -/
def abort (step : Step) : Step :=
  if step.type.hasVerdict then
    (step.setResult .aborted "Testcase was aborted").changeState (some .aborted)
  else step.changeState (some .aborted)

/-- The state that `reinit` gives to a step of a type. -/
def initialState (type : StepType) : Option StepState :=
  if type.isExecutable then none else some .postponed

/-- A step as `reinit` leaves it. -/
def Pristine (step : Step) : Prop :=
  step.state = initialState step.type ∧ (step.type.hasVerdict = true → step.partialVerdict = {})

/-- Whether a step is pristine is its state and its verdict. -/
instance (step : Step) : Decidable step.Pristine :=
  inferInstanceAs (Decidable (_ ∧ _))

/-- A change of state keeps the type. -/
@[simp] theorem changeState_type (step : Step) (state : Option StepState) :
    (step.changeState state).type = step.type := rfl

/-- A change of state. -/
@[simp] theorem changeState_state (step : Step) (state : Option StepState) :
    (step.changeState state).state = state := rfl

/-- A change of state keeps the partial verdict. -/
@[simp] theorem changeState_partialVerdict (step : Step) (state : Option StepState) :
    (step.changeState state).partialVerdict = step.partialVerdict := rfl

/-- A result keeps the type. -/
@[simp] theorem setResult_type (step : Step) (result : VerdictValue) (info : String) :
    (step.setResult result info).type = step.type := rfl

/-- A result updates the partial verdict. -/
@[simp] theorem setResult_partialVerdict (step : Step) (result : VerdictValue) (info : String) :
    (step.setResult result info).partialVerdict = step.partialVerdict.update result info := rfl

/-- A step that is reinitialised keeps its type. -/
@[simp] theorem reinit_type (step : Step) : step.reinit.type = step.type := by
  unfold reinit
  split <;> rfl

/-- A step that is aborted keeps its type. -/
@[simp] theorem abort_type (step : Step) : step.abort.type = step.type := by
  unfold abort
  split <;> rfl

/-- A step that is aborted. -/
@[simp] theorem abort_state (step : Step) : step.abort.state = some .aborted := by
  unfold abort
  split <;> rfl

/-- A verified step keeps its type. -/
@[simp] theorem verified_type (step : Step) (verifyResponse : Bool) :
    (step.verified verifyResponse).type = step.type := by
  cases verifyResponse <;> rfl

/-- A verified step is finished. -/
@[simp] theorem verified_state (step : Step) (verifyResponse : Bool) :
    (step.verified verifyResponse).state = some .finished := rfl

/-- `reinit` leaves every step pristine, whatever happened to it before. -/
theorem reinit_pristine (step : Step) : step.reinit.Pristine := by
  unfold Pristine initialState
  rw [reinit_type]
  unfold reinit
  split <;> rename_i type <;> simp [type, StepType.isExecutable, StepType.hasVerdict]

/-- A pristine step is its own `reinit`. -/
theorem Pristine.reinit_eq {step : Step} (pristine : step.Pristine) : step.reinit = step := by
  obtain ⟨state, verdict⟩ := pristine
  unfold reinit
  cases step with
  | mk id type description iut iut_iff stepState partialVerdict =>
    cases type <;>
      simp_all [initialState, StepType.isExecutable, StepType.hasVerdict, changeState]

end Step

/-- `TestCase.state`, when it is not `None`. -/
inductive TestCaseState where
  | skipped
  | configuring
  | ready
  | executing
  | readyForAnalysis
  | analyzing
  | finished
  | aborted
  deriving DecidableEq

/-- The states in which a test case needs nothing more. -/
def TestCaseState.isTerminal : TestCaseState → Bool
  | .skipped => true
  | .finished => true
  | .aborted => true
  | _ => false

/-- The string that stands for a state. -/
def TestCaseState.name : TestCaseState → String
  | .skipped => "skipped"
  | .configuring => "configuring"
  | .ready => "ready"
  | .executing => "executing"
  | .readyForAnalysis => "ready_for_analysis"
  | .analyzing => "analyzing"
  | .finished => "finished"
  | .aborted => "aborted"

/-- One entry of `partial_verdicts` of a report. -/
structure PartialVerdict where
  /-- Id of the step or of the analysis item. -/
  id : String
  /-- Its verdict. -/
  verdict : VerdictValue
  /-- Message given with it. -/
  message : String
  /-- The frame that belongs to it, which only the entries of steps have. -/
  associatedFrameId : Option String
  deriving DecidableEq

/-- `TestCase.report`. -/
structure Report where
  /-- Final verdict. -/
  verdict : VerdictValue
  /-- Message of the final verdict. -/
  description : String
  /-- Contributions, steps first. -/
  partialVerdicts : List PartialVerdict
  deriving DecidableEq

/-- What `generate_testcase_report` returns. -/
inductive GeneratedReport where
  /-- The report, which is also stored. -/
  | report (report : Report)
  /-- The verdict `'None'` with the text given for a test case that was not executed. -/
  | placeholder (description : String)
  /-- `None`, while there are unfinished steps. -/
  | nothing
  deriving DecidableEq

/-- One item of the analysis of a capture: id, verdict string and message. -/
structure AnalysisItem where
  /-- Id given by the coordinator. -/
  id : String
  /-- Verdict string of the analysis tool. -/
  verdict : String
  /-- Its message. -/
  message : String
  deriving DecidableEq

/-- What a test description fixes about a test case. -/
structure TestCaseDescription where
  /-- `testcase_id`. -/
  id : String
  /-- Reference of the test case. -/
  uri : String
  /-- Objective. -/
  objective : String
  /-- Id of the test configuration it runs in. -/
  configurationId : String
  /-- `pre_conditions`, rendered. -/
  preConditions : String
  /-- Notes. -/
  notes : String
  /-- Steps as constructed. -/
  sequence : List Step
  deriving DecidableEq

/-- The progress of a `testsuite.TestCase`. Steps are referred to by their position in the
sequence. -/
structure TestCase where
  /-- State. -/
  state : Option TestCaseState := none
  /-- Steps. -/
  sequence : List Step
  /-- `_step_it`: position of the step that the iterator returns next. -/
  stepIt : Nat := 0
  /-- `current_step`. -/
  currentStep : Option Nat := none
  /-- Report of the last analysis. -/
  report : Option Report := none
  deriving DecidableEq

namespace TestCase

/-- `TestCase.__init__`. -/
def new (description : TestCaseDescription) : TestCase := { sequence := description.sequence }

/-- `TestCase.reinit`. -/
def reinit (tc : TestCase) : TestCase :=
  { tc with
    state := none
    currentStep := none
    stepIt := 0
    sequence := tc.sequence.map Step.reinit }

/-- `TestCase.change_state`: skipping a test case finishes its steps. -/
def changeState (tc : TestCase) (state : TestCaseState) : TestCase :=
  match state with
  | .skipped =>
    { tc with state := some state, sequence := tc.sequence.map (·.changeState (some .finished)) }
  | _ => { tc with state := some state }

/-- `TestCase.abort`. -/
def abort (tc : TestCase) : TestCase :=
  { { tc with sequence := tc.sequence.map Step.abort }.changeState .aborted with
    currentStep := none }

/-- `change_state('analyzing')` and the reset of `current_step` that `finish_testcase` makes. -/
def analyzing (tc : TestCase) : TestCase :=
  { tc.changeState .analyzing with currentStep := none }

/-- A step that was neither executed nor postponed holds up the end of its test case. -/
def stepUnfinished (step : Step) : Bool :=
  step.state = none || step.state = some .executing

/-- `check_all_steps_finished`; the first step is fetched before the loop that catches the end
of the iterator. -/
def checkAllStepsFinished (tc : TestCase) : Except PyException Bool :=
  match tc.sequence with
  | [] => .error .stopIteration
  | steps => .ok (steps.all fun step => !stepUnfinished step)

/-- The steps' part of `generate_testcase_report`. -/
def reportSteps : List Step → Verdict → List PartialVerdict →
    Except PyException (Verdict × List PartialVerdict)
  | [], final, entries => .ok (final, entries)
  | step :: rest, final, entries =>
    if step.type.hasVerdict then
      match step.state with
      | some .postponed => reportSteps rest final entries
      | some .finished =>
        reportSteps rest (final.update step.partialVerdict.value step.partialVerdict.message)
          (entries ++ [⟨step.id, step.partialVerdict.value, step.partialVerdict.message, some ""⟩])
      | _ => .error (.testSuiteError ("step " ++ step.id ++ " not ready for analysis"))
    else reportSteps rest final entries

/-- The analysis part of `generate_testcase_report`; an unknown verdict string fails the
assertion of `Verdict.update`. -/
def reportItems : List AnalysisItem → Verdict → List PartialVerdict →
    Except PyException (Verdict × List PartialVerdict)
  | [], final, entries => .ok (final, entries)
  | item :: rest, final, entries =>
    match VerdictValue.ofName? item.verdict with
    | none => .error .assertionError
    | some value =>
      reportItems rest (final.update value item.message)
        (entries ++ [⟨item.id, value, item.message, none⟩])

/-- The report made of steps and analysis items. -/
def finalReport (final : Verdict) (entries : List PartialVerdict) : Report :=
  let final :=
    if final.value = .pass then final.update .pass "No interoperability error was detected."
    else final
  ⟨final.value, final.message, entries⟩

/-- The report of a test case whose steps are all finished. -/
def analysisReport (steps : List Step) (tatAnalysisReport : List AnalysisItem) :
    Except PyException Report := do
  let (verdict, entries) ← reportSteps steps {} []
  let (verdict, entries) ←
    match tatAnalysisReport with
    | [] =>
      pure (verdict.update .error "Test Analysis Tool returned an empty analysis report", entries)
    | items => reportItems items verdict entries
  return finalReport verdict entries

/-- `generate_testcase_report`; the result is the test case with its report updated. -/
def generateTestcaseReport (tc : TestCase) (tatAnalysisReport : List AnalysisItem)
    (errMsg : Option String) : Except PyException TestCase :=
  match errMsg.filter (· ≠ "") with
  | some message => .ok { tc with report := some ⟨.error, message, []⟩ }
  | none =>
    if tc.state = none ∨ tc.state = some .skipped ∨ tc.state = some .aborted then .ok tc
    else do
      if (← tc.checkAllStepsFinished) = false then return tc
      return { tc with report := some (← analysisReport tc.sequence tatAnalysisReport) }

/-- The value that `generate_testcase_report` returns for the test case with an id. -/
def generatedReport (tc : TestCase) (id : String) (tatAnalysisReport : List AnalysisItem)
    (errMsg : Option String) : Except PyException GeneratedReport :=
  match errMsg.filter (· ≠ "") with
  | some message => .ok (.report ⟨.error, message, []⟩)
  | none =>
    if tc.state = none ∨ tc.state = some .skipped ∨ tc.state = some .aborted then
      .ok (.placeholder ("Testcase " ++ id ++ " was " ++
        (tc.state.map TestCaseState.name).getD "None" ++ "."))
    else do
      if (← tc.checkAllStepsFinished) = false then return .nothing
      return .report (← analysisReport tc.sequence tatAnalysisReport)

/-- The test case after a report was generated for it. -/
def stored (tc : TestCase) : GeneratedReport → TestCase
  | .report report => { tc with report := some report }
  | .placeholder _ | .nothing => tc

/-- What `generate_testcase_report` stores is what it returns. -/
theorem generateTestcaseReport_eq (tc : TestCase) (id : String)
    (tatAnalysisReport : List AnalysisItem) (errMsg : Option String) :
    tc.generateTestcaseReport tatAnalysisReport errMsg =
      (tc.generatedReport id tatAnalysisReport errMsg).map tc.stored := by
  unfold generateTestcaseReport generatedReport
  cases errMsg.filter (· ≠ "") with
  | some message => rfl
  | none =>
    dsimp only
    split
    · rfl
    · cases tc.checkAllStepsFinished with
      | error exception => rfl
      | ok finished =>
        cases finished with
        | false => rfl
        | true => cases analysisReport tc.sequence tatAnalysisReport <;> rfl

/-- Change one step. -/
def modifyStep (tc : TestCase) (k : Nat) (change : Step → Step) : TestCase :=
  { tc with sequence := tc.sequence.modify k change }

/-- The body of `next_step` on the steps the iterator has left: each step fetched becomes the
current one, postponed steps are passed over, and the end of the iterator leaves the last step
fetched as the current one. -/
def nextStepFrom : List Step → TestCase → Option Nat × TestCase
  | [], tc => (none, tc)
  | step :: rest, tc =>
    let fetched := { tc with currentStep := some tc.stepIt, stepIt := tc.stepIt + 1 }
    if step.state = some .postponed then nextStepFrom rest fetched
    else (some tc.stepIt, fetched.modifyStep tc.stepIt (·.changeState (some .executing)))

/-- `next_step` of a test case: the position of the step to execute, or none at the end. -/
def nextStep (tc : TestCase) : Option Nat × TestCase :=
  nextStepFrom (tc.sequence.drop tc.stepIt) tc

/-- The current step. -/
def step? (tc : TestCase) : Option Step := tc.currentStep.bind fun k => tc.sequence[k]?

end TestCase

end Ioppytest
