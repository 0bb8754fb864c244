import Ioppytest.TestCoordinator.Sessions

/-!
# The scripts of the test cases

What a step is, apart from how far its execution has come, is fixed by the test description. No input
changes it: whatever happens to a coordinator, each of its test cases goes on having the steps of
its description, in order.
-/

namespace Ioppytest

open Raising

variable {td : TestDescriptions}

/-- What the test description fixes about a step. -/
structure StepScript where
  /-- `step_id`. -/
  id : String
  /-- Kind of step. -/
  type : StepType
  /-- What is to be done. -/
  description : String
  /-- The IUT that executes the step. -/
  iut : Option Iut
  deriving DecidableEq

namespace Step

/-- The script of a step. -/
def script (step : Step) : StepScript := ⟨step.id, step.type, step.description, step.iut⟩

/-- A change of state leaves the script. -/
@[simp] theorem script_changeState (step : Step) (state : Option StepState) :
    (step.changeState state).script = step.script := rfl

/-- A result leaves the script. -/
@[simp] theorem script_setResult (step : Step) (result : VerdictValue) (resultInfo : String) :
    (step.setResult result resultInfo).script = step.script := rfl

/-- A verified step keeps its script. -/
@[simp] theorem script_verified (step : Step) (verifyResponse : Bool) :
    (step.verified verifyResponse).script = step.script := by
  unfold verified
  split <;> rfl

/-- Reinitialising leaves the script. -/
@[simp] theorem script_reinit (step : Step) : step.reinit.script = step.script := by
  unfold reinit
  split <;> rfl

/-- Aborting leaves the script. -/
@[simp] theorem script_abort (step : Step) : step.abort.script = step.script := by
  unfold abort
  split <;> rfl

/-- Steps with the same script have the same type. -/
theorem type_of_script {step other : Step} (same : step.script = other.script) :
    step.type = other.type := congrArg StepScript.type same

/-- They are executed by the same IUT. -/
theorem iut_of_script {step other : Step} (same : step.script = other.script) :
    step.iut = other.iut := congrArg StepScript.iut same

end Step

/-- What an answer changes is not the script. -/
@[simp] theorem Coordinator.script_answerTo (event : Event) (step : Step) :
    (answerTo event step).script = step.script := by
  unfold answerTo
  split <;> simp

namespace TestCase

/-- The script of a test case. -/
def script (tc : TestCase) : List StepScript := tc.sequence.map Step.script

/-- A change of state leaves the script. -/
@[simp] theorem script_changeState (tc : TestCase) (state : TestCaseState) :
    (tc.changeState state).script = tc.script := by
  cases state with
  | skipped => simp [script, changeState, Function.comp_def]
  | _ => rfl

/-- Reinitialising leaves the script. -/
@[simp] theorem script_reinit (tc : TestCase) : tc.reinit.script = tc.script := by
  simp [script, reinit, Function.comp_def]

/-- Aborting leaves the script. -/
@[simp] theorem script_abort (tc : TestCase) : tc.abort.script = tc.script := by
  simp [script, abort, changeState, Function.comp_def]

/-- The analysis leaves the script. -/
@[simp] theorem script_analyzing (tc : TestCase) : tc.analyzing.script = tc.script := rfl

/-- A report leaves the script. -/
@[simp] theorem script_reported (tc : TestCase) (report : Report) :
    (tc.reported report).script = tc.script := rfl

/-- Changing one step without changing its script. -/
theorem script_modifyStep (tc : TestCase) (k : Nat) {change : Step → Step}
    (kept : ∀ step, (change step).script = step.script) :
    (tc.modifyStep k change).script = tc.script := by
  apply List.ext_getElem?
  intro j
  simp only [script, List.getElem?_map, modifyStep_getElem?]
  cases tc.sequence[j]? with
  | none => rfl
  | some step => by_cases same : k = j <;> simp [same, kept]

/-- Fetching a step. -/
theorem script_nextStepFrom (steps : List Step) (tc : TestCase) :
    (nextStepFrom steps tc).2.script = tc.script := by
  induction steps generalizing tc with
  | nil => rfl
  | cons step rest ih =>
    unfold nextStepFrom
    dsimp only
    split
    · exact ih _
    · exact script_modifyStep _ _ fun _ => rfl

/-- Fetching a step leaves the script. -/
@[simp] theorem script_nextStep (tc : TestCase) : tc.nextStep.2.script = tc.script :=
  script_nextStepFrom _ tc

end TestCase

namespace Coordinator

variable {upper : String → String} {testsuiteName : String} {c : Coordinator td} {input : Input}

/-- A test case has the steps of its description. -/
def ScriptOf (td : TestDescriptions) (j : Fin td.size) (tc : TestCase) : Prop :=
  tc.script = (td.description j).sequence.map Step.script

/-- Every test case has the steps of its description. -/
def Scripted (c : Coordinator td) : Prop := ∀ j, ScriptOf td j (c.testsuite.testcase j)

/-- Going on with the next test case. -/
theorem Scripted.proceed (scripted : c.Scripted) : c.proceed.Scripted :=
  proceed_each (fun _ _ same _ => (TestCase.script_changeState _ _).trans same)
    (fun _ _ same => same) scripted

/-- Changing one test case without changing its script. -/
theorem Scripted.modify (scripted : c.Scripted) {i : Fin td.size} {change : TestCase → TestCase}
    (kept : ∀ tc, (change tc).script = tc.script) : (c.modify i change).Scripted :=
  modify_each scripted ((kept _).trans (scripted i))

/-- Configuring a test case. -/
theorem Scripted.configure (scripted : c.Scripted) (i : Fin td.size) : (c.configure i).Scripted :=
  scripted.modify fun tc => tc.script_changeState _

/-- Skipping a test case. -/
theorem Scripted.skip (scripted : c.Scripted) (i : Fin td.size) :
    (c.withTestsuite (c.testsuite.skip i)).Scripted := by
  intro j
  rw [ScriptOf, withTestsuite_testsuite, TestSuite.skip_testcase]
  split
  · rename_i here
    rw [here.1, TestCase.script_changeState]
    exact scripted i
  · exact scripted j

/-- Reinitialising the current test case. -/
theorem Scripted.reinitCurrent (scripted : c.Scripted) :
    (c.withTestsuite (c.testsuite.reinitTestcase c.testsuite.getCurrentTestcaseId)).Scripted := by
  intro j
  rw [ScriptOf, withTestsuite_testsuite, TestSuite.reinitTestcase_testcase]
  split
  · exact (TestCase.script_reinit _).trans (scripted j)
  · exact scripted j

/-- Skipping several test cases. -/
theorem scripted_skippedFrom {before after : TestSuite td}
    (skipped : TestSuite.SkippedFrom before after)
    (scripted : ∀ j, ScriptOf td j (before.testcase j)) : (c.withTestsuite after).Scripted := by
  intro j
  rw [ScriptOf, withTestsuite_testsuite]
  rcases skipped.testcase j with same | same
  · rw [same]
    exact scripted j
  · rw [same, TestCase.script_changeState]
    exact scripted j

/-- Whatever way the next step is executed. -/
theorem Advance.scripted {services : Services} {i : Fin td.size}
    {result : EStateM.Result PyException (Coordinator td) Unit}
    (advance : Advance services c i result) (scripted : c.Scripted) :
    (finalState result).Scripted := by
  have fetched {step : Option Nat} {tc : TestCase}
      (found : (c.testsuite.testcase i).nextStep = (step, tc)) : ScriptOf td i tc := by
    have same := (c.testsuite.testcase i).script_nextStep
    rw [found] at same
    exact same.trans (scripted i)
  refine advance.each (fun _ _ same _ => (TestCase.script_changeState _ _).trans same)
    (fun _ _ same => same) (fun k tc found => ?_) (fun tc found => ?_) scripted
  · exact (TestCase.script_changeState _ _).trans (fetched found)
  · have past := (tc.script_changeState .readyForAnalysis).trans (fetched found)
    exact ⟨past, past, fun _ _ _ => past⟩

/-- The handling of a node. -/
theorem Recorded.scripted {before after : Coordinator td} (recorded : Recorded before after)
    (scripted : before.Scripted) : after.Scripted := by
  intro j
  rw [recorded.testcase]
  exact scripted j

/-- An input changes no script. -/
theorem Move.scripted {result : EStateM.Result PyException (Coordinator td) Bool}
    (move : Move c input result) (scripted : c.Scripted) : (finalState result).Scripted := by
  cases move with
  | ignored => exact scripted
  | refused => exact scripted
  | empty empty _ _ _ _ => exact fun j => absurd j.pos (by omega)
  | configured _ _ skipped => exact scripted_skippedFrom (c := c) skipped scripted
  | skippedEarly _ _ => exact scripted.skip _
  | recordedEarly _ _ _ | recordedWaiting _ _ | recordedExecuting _ _ _ _ _ _
  | recordedFinished _ _ =>
    rw [finalState_andThen_ok]
    exact (recordNode_recorded _).scripted scripted
  | @started _ ts _ _ skipped =>
    have reset : (c.withTestsuite ts).Scripted :=
      scripted_skippedFrom skipped fun j => (TestCase.script_reinit _).trans (scripted j)
    exact Scripted.proceed (c := ((c.withTestsuite ts).send _).send _) reset
  | retried _ _ _ _ advance =>
    rw [finalState_andThen_ok]
    exact finalState_andThen (advance.scripted scripted) fun _ later =>
      (recordNode_recorded _).scripted later
  | timedOut state =>
    rw [finalState_andThen_ok]
    exact (announceReady_recorded state).scripted scripted
  | @executed _ _ i _ _ _ advance =>
    rw [finalState_andThen_ok]
    have begun := scripted.modify (i := i) fun tc => tc.script_changeState .executing
    refine finalState_andThen (advance.scripted begun) fun after later => ?_
    obtain ⟨messages, sent, -⟩ := announceStarted_sends after
    rw [sent]
    exact later
  | @answered event _ i k step _ _ _ _ _ _ _ _ _ advance =>
    rw [finalState_andThen_ok]
    refine advance.scripted ?_
    unfold Coordinator.answered
    split
    · exact scripted.modify fun tc => tc.script_modifyStep k (script_answerTo event)
    · exact scripted
  | restarted _ _ => exact (scripted.modify TestCase.script_reinit).configure _
  | selected _ =>
    rw [finalState_ok]
    apply selectTestcase_rule
    · exact fun i => (scripted.reinitCurrent.modify TestCase.script_reinit).configure i
    · exact scripted.reinitCurrent.proceed
  | @skippedCurrent i named _ _ _ =>
    exact Scripted.proceed (c := (c.withTestsuite (c.testsuite.skip _)).send _) (scripted.skip _)
  | skippedOther _ _ _ | skippedInstead _ _ _ => exact scripted.skip _
  | skippedExecuting _ _ _ _ _ _ _ => exact scripted.skip _
  | aborted _ _ => exact (scripted.modify TestCase.script_abort).proceed

/-- In every state that is reached, every test case has the steps of its description. -/
theorem reached_scripted {allowed : Coordinator td → Input → Prop}
    (tame : ∀ c input, allowed c input → input.Known td ∨ Survives upper c input)
    (reached : Reached upper testsuiteName allowed c) : c.Scripted := by
  refine reached.invariant ?_ fun state input earlier scripted permitted => ?_
  · rw [initial_eq]
    exact fun _ => rfl
  · exact (reached_move tame earlier permitted).scripted scripted

/-- A step of a test case is one of its description, as far as the script goes. -/
theorem Scripted.step {i : Fin td.size} {k : Nat} {step : Step} (scripted : c.Scripted)
    (found : (c.testsuite.testcase i).sequence[k]? = some step) :
    ∃ described ∈ (td.description i).sequence, described.script = step.script := by
  have member : step.script ∈ (c.testsuite.testcase i).script :=
    List.mem_map_of_mem (List.mem_of_getElem? found)
  rw [scripted i] at member
  exact List.mem_map.mp member

/-- Whatever is described as a step of a test case is one of its steps. -/
theorem Scripted.described {i : Fin td.size} (scripted : c.Scripted) {described : Step}
    (member : described ∈ (td.description i).sequence) :
    ∃ step ∈ (c.testsuite.testcase i).sequence, step.script = described.script := by
  have listed := List.mem_map_of_mem (f := Step.script) member
  rw [← scripted i] at listed
  exact List.mem_map.mp listed

end Coordinator

end Ioppytest
