import Ioppytest.TestCoordinator.Sessions

/-!
# The state machine and the test suite

Two layers keep track of a session: the state of the machine, and the states of the test cases and
their steps. Once the suite is started they agree, as long as requests for skipping and selecting
name test cases of the suite. Coherence says most of it. What is left is that a waiting machine has
a test case to wait for, which an unknown id could take away.
-/

namespace Ioppytest

open Raising

variable {td : TestDescriptions}

namespace TestCase

/-- The test case is being configured and none of its steps has been fetched. -/
structure AwaitsStart (tc : TestCase) : Prop where
  /-- It is being configured. -/
  state : tc.state = some .configuring
  /-- No step is the current one. -/
  currentStep : tc.currentStep = none
  /-- The iterator is at the first step. -/
  stepIt : tc.stepIt = 0

/-- The test case is executing a step that an IUT executes. -/
structure AwaitsStep (tc : TestCase) : Prop where
  /-- It is being executed. -/
  state : tc.state = some .executing
  /-- So is its current step, which is neither a check nor a feature. -/
  step : ∃ step, tc.step? = some step ∧ step.state = some .executing ∧
    (step.type = .stimuli ∨ step.type = .verify)

/-- The test case is over, or nothing of it has been executed yet. -/
structure Parked (tc : TestCase) : Prop where
  /-- Its state is one of four. -/
  state : tc.state = none ∨ tc.state = some .skipped ∨ tc.state = some .finished ∨
    tc.state = some .aborted
  /-- Without a state its iterator is at the start. -/
  stepIt : tc.state = none → tc.stepIt = 0 ∧ tc.currentStep = none
  /-- Without a state its steps are as they were constructed. -/
  steps : tc.state = none → ∀ step ∈ tc.sequence,
    (step.type = .check ∨ step.type = .feature → step.state = some .postponed) ∧
    (step.type = .stimuli ∨ step.type = .verify → step.state = none) ∧
    (step.type ≠ .stimuli → step.partialVerdict = {})

/-- A settled test case is parked. -/
theorem Settled.parked {tc : TestCase} (settled : tc.Settled) : tc.Parked := by
  refine ⟨?_, fun blank => ?_, fun blank step member => ?_⟩
  · rcases settled with pristine | ⟨state, same, terminal⟩
    · exact .inl pristine.state
    · rw [same]
      cases state with
      | skipped | finished | aborted => decide
      | configuring | ready | executing | readyForAnalysis | analyzing => cases terminal
  · have pristine := settled.pristine blank
    exact ⟨pristine.stepIt, pristine.currentStep⟩
  · obtain ⟨state, verdict⟩ := (settled.pristine blank).pristine step member
    rw [state]
    cases type : step.type with
    | stimuli => simp [Step.initialState, StepType.isExecutable]
    | check | verify | feature =>
      rw [type] at verdict
      simp [Step.initialState, StepType.isExecutable, verdict rfl]

/-- A test case that executes a step awaits its answer. -/
theorem Executing.awaitsStep {tc : TestCase} (executing : tc.Executing) : tc.AwaitsStep := by
  obtain ⟨k, step, at_step, -, found, under, executable⟩ := executing.current
  have fetched : tc.step? = some step := by
    rw [step?, at_step]
    exact found
  refine ⟨executing.state, step, fetched, under, ?_⟩
  cases type : step.type with
  | stimuli => exact .inl rfl
  | verify => exact .inr rfl
  | check | feature =>
    rw [type] at executable
    cases executable

end TestCase

namespace Coordinator

variable {upper : String → String} {testsuiteName : String} {c : Coordinator td} {input : Input}

/-- What the state of the machine says about the test cases. -/
structure Coupled (c : Coordinator td) : Prop where
  /-- A waiting machine has a current test case that can be started. -/
  waiting : c.state = .waitingForIutConfigurationExecuted ∨ c.state = .waitingForTestcaseStart →
    ∃ i, c.testsuite.currentTc = some i ∧ (c.testsuite.testcase i).AwaitsStart
  /-- A machine that waits for an answer has a current step that can be answered. -/
  executing : c.state = .waitingForStepExecuted →
    ∃ i, c.testsuite.currentTc = some i ∧ (c.testsuite.testcase i).AwaitsStep
  /-- Every other test case is over or untouched. -/
  others : ∀ j, c.testsuite.currentTc ≠ some j → (c.testsuite.testcase j).Parked

/-- A waiting coordinator has a test case to wait for. -/
def Attended (c : Coordinator td) : Prop := c.Waiting → c.testsuite.currentTc ≠ none

/-- Going on with the next test case attends to it. -/
theorem proceed_attended (c : Coordinator td) : c.proceed.Attended := by
  apply proceed_rule
  · intro i _ _ idle
    cases idle
  · rintro - (wrong | wrong) <;> cases wrong

/-- Whatever way the next step is executed, a waiting coordinator has a test case. -/
theorem Advance.attended {services : Services} {i : Fin td.size}
    {result : EStateM.Result PyException (Coordinator td) Unit}
    (advance : Advance services c i result) : (finalState result).Attended := by
  cases advance with
  | execute _ _ _ _ => rintro (wrong | wrong) <;> cases wrong
  | refuse _ _ _ => rintro (wrong | wrong) <;> cases wrong
  | interrupt _ _ _ => rintro (wrong | wrong) <;> cases wrong
  | complete _ _ _ => exact proceed_attended _

/-- The handling of a node takes no test case away. -/
theorem Recorded.attended {before after : Coordinator td} (recorded : Recorded before after)
    (attended : before.Attended) : after.Attended := by
  intro waits
  rw [recorded.currentTc]
  apply attended
  rcases recorded.state with same | ⟨earlier, -⟩
  · rwa [Waiting, same] at waits
  · exact .inl earlier

/-- With known ids, a waiting coordinator is not left without a test case. -/
theorem Move.attended {result : EStateM.Result PyException (Coordinator td) Bool}
    (move : Move c input result) (known : input.Known td) (attended : c.Attended) :
    (finalState result).Attended := by
  cases move with
  | ignored => exact attended
  | refused => exact attended
  | empty _ early state _ _ =>
    intro waits
    rw [finalState_error, Waiting, state] at waits
    rcases early with early | early <;> rw [early] at waits <;>
      rcases waits with wrong | wrong <;> cases wrong
  | configured _ _ _ => rintro (wrong | wrong) <;> cases wrong
  | skippedEarly state _ => rintro (wrong | wrong) <;> cases state.symm.trans wrong
  | recordedEarly _ early _ =>
    rw [finalState_andThen_ok]
    refine (recordNode_recorded _).attended fun waits => ?_
    rcases early with early | early <;> rw [Waiting, send_state, early] at waits <;>
      rcases waits with wrong | wrong <;> cases wrong
  | started _ _ _ => exact proceed_attended _
  | recordedWaiting _ _ =>
    rw [finalState_andThen_ok]
    exact (recordNode_recorded _).attended attended
  | recordedExecuting _ _ _ _ _ _ =>
    rw [finalState_andThen_ok]
    exact (recordNode_recorded _).attended attended
  | recordedFinished _ _ =>
    rw [finalState_andThen_ok]
    refine (recordNode_recorded _).attended ?_
    rintro (wrong | wrong) <;> cases wrong
  | retried _ _ _ _ advance =>
    rw [finalState_andThen_ok]
    exact finalState_andThen advance.attended fun _ later => (recordNode_recorded _).attended later
  | timedOut state =>
    rw [finalState_andThen_ok]
    exact (announceReady_recorded state).attended attended
  | executed _ _ advance =>
    rw [finalState_andThen_ok]
    refine finalState_andThen advance.attended fun after later => ?_
    obtain ⟨messages, sent, -⟩ := announceStarted_sends after
    rw [sent]
    exact later
  | answered _ _ _ _ _ _ _ _ advance =>
    rw [finalState_andThen_ok]
    exact advance.attended
  | restarted _ _ =>
    intro _ idle
    cases idle
  | selected _ =>
    rw [finalState_ok]
    apply selectTestcase_rule
    · intro i _ idle
      cases idle
    · exact proceed_attended _
  | skippedCurrent _ _ _ => exact proceed_attended _
  | @skippedOther id _ j _ _ apart =>
    intro waits
    rw [finalState_ok, withTestsuite_testsuite, TestSuite.skip_currentTc_of_ne apart]
    exact attended waits
  | skippedInstead _ absent _ => simp [Input.Known, absent] at known
  | skippedExecuting state _ _ _ _ _ _ =>
    rintro (wrong | wrong) <;> cases state.symm.trans wrong
  | aborted _ _ => exact proceed_attended _

/-- A session with known ids attends to its test cases. -/
theorem reached_attended
    (reached : Reached upper testsuiteName (fun _ input => input.Known td) c) : c.Attended := by
  refine reached.invariant ?_ fun state input earlier attended known => ?_
  · rw [initial_eq]
    rintro (wrong | wrong) <;> cases wrong
  · exact (reached_move (fun _ _ known => .inl known) earlier known).attended known attended

/-- What coherence says once the suite is started. -/
theorem Coherent.coupled (coherent : Coherent c) (begun : c.Begun) (attended : c.Attended) :
    c.Coupled := by
  have others : c.testsuite.OthersSettled := coherent.othersSettled begun
  constructor
  · intro waits
    obtain ⟨i, current⟩ := Option.ne_none_iff_exists'.mp (attended waits)
    refine ⟨i, current, ?_⟩
    cases coherent with
    | waiting _ _ _ configuring =>
      have start := configuring i current
      exact ⟨start.state, start.currentStep, start.stepIt⟩
    | setup early _ _ => exact absurd early begun
    | executing _ state _ _ _ | stuck _ state _ _ _ | finished state _ _ _ _ =>
      rw [state] at waits
      rcases waits with wrong | wrong <;> cases wrong
  · intro state
    cases coherent with
    | executing i _ current _ executing => exact ⟨i, current, executing.awaitsStep⟩
    | setup early _ _ => exact absurd early begun
    | waiting waits _ _ _ =>
      rw [Waiting, state] at waits
      rcases waits with wrong | wrong <;> cases wrong
    | stuck _ wrong _ _ _ | finished wrong _ _ _ _ => cases state.symm.trans wrong
  · intro j apart
    exact (others j apart).parked

/-- **The state machine and the test suite agree in every state reached after the start.** -/
theorem started_coupled (upper : String → String) (testsuiteName : String) (c : Coordinator td)
    (started : Started upper testsuiteName (fun _ input => input.Known td) c) : c.Coupled := by
  have tame (c : Coordinator td) (input : Input) (known : input.Known td) :
      input.Known td ∨ Survives upper c input := .inl known
  have coherent := reached_coherent tame started.reached
  exact coherent.coupled (started.begun tame) (reached_attended started.reached)

/-- A step of the first test case of the small suite is executed, and the second one is skipped. -/
def skippedWhileExecuting : Coordinator smallSuite :=
  next id stimuliAwaited (.event (.testCaseSkip (some (some "TD_COAP_CORE_02"))) noServices)

/-- The state machine waits for the step, and the test suite agrees. -/
theorem started_coupled_small :
    skippedWhileExecuting.state = .waitingForStepExecuted ∧ skippedWhileExecuting.Coupled := by
  refine ⟨by decide +kernel, started_coupled id "coap" _
    ⟨_, noServices, firstWaits, .init, trivial, by rfl, ?_⟩⟩
  have executed : Runs.Reachable (next id) (fun _ input => input.Known smallSuite) firstWaits
      (next id firstWaits (.event (.testCaseStart none) noServices)) := .step .init trivial
  exact executed.step (by rfl)

end Coordinator

end Ioppytest
