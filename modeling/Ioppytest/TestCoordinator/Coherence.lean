import Ioppytest.TestCoordinator.Handling
import Ioppytest.Lib.Runs

/-!
# Coherence

The state of the machine and the progress of the test cases are updated by different callbacks.
Coherence ties them together: at each state the coordinator rests in, it says what the current
test case looks like and that every other one needs nothing or everything. It is kept by every
input but one: a request for skipping an unknown test case while a step is being executed.
-/

namespace Ioppytest

open Raising

variable {td : TestDescriptions}

namespace TestSuite

/-- Every test case but the current one needs nothing or everything. -/
def OthersSettled (ts : TestSuite td) : Prop :=
  ∀ j, ts.currentTc ≠ some j → (ts.testcase j).Settled

/-- Every test case needs nothing or everything. -/
def AllSettled (ts : TestSuite td) : Prop := ∀ j, (ts.testcase j).Settled

end TestSuite

namespace TestCase

/-- A test case that is skipped is settled. -/
theorem Settled.skipped (tc : TestCase) : (tc.changeState .skipped).Settled :=
  .inr ⟨.skipped, rfl, rfl⟩

/-- A test case that is aborted is settled. -/
theorem Settled.aborted (tc : TestCase) : tc.abort.Settled := .inr ⟨.aborted, rfl, rfl⟩

/-- A test case that is finished with a report is settled. -/
theorem Settled.reported (tc : TestCase) (report : Report) : (tc.reported report).Settled :=
  .inr ⟨.finished, rfl, rfl⟩

/-- A test case that is reinitialised is settled. -/
theorem Settled.reinit (tc : TestCase) : tc.reinit.Settled := .inl tc.reinit_pristine

/-- A settled test case in state `None` is pristine. -/
theorem Settled.pristine {tc : TestCase} (settled : tc.Settled) (blank : tc.state = none) :
    tc.Pristine := by
  rcases settled with pristine | ⟨state, same, -⟩
  · exact pristine
  · rw [blank] at same
    cases same

/-- The report of a test case has no part in it being settled. -/
theorem Settled.withReport {tc : TestCase} (settled : tc.Settled) (report : Option Report) :
    { tc with report }.Settled := by
  rcases settled with pristine | terminal
  · exact .inl ⟨⟨pristine.currentStep, pristine.stepIt, pristine.pristine⟩, pristine.state⟩
  · exact .inr terminal

end TestCase

namespace TestSuite

variable {ts : TestSuite td} {i : Fin td.size}

/-- Changing the current test case into a settled one settles all. -/
theorem OthersSettled.modify_current (change : TestCase → TestCase) (others : ts.OthersSettled)
    (current : ts.currentTc = some i) (settled : (change (ts.testcase i)).Settled) :
    (ts.modify i change).AllSettled := by
  intro j
  by_cases same : j = i
  · subst same
    simpa using settled
  · rw [modify_testcase_of_ne _ _ same]
    refine others j ?_
    rw [current]
    exact fun wrong => same (Option.some.inj wrong).symm

/-- Changing the current test case leaves the others settled. -/
theorem OthersSettled.modify {change : TestCase → TestCase} (others : ts.OthersSettled)
    (current : ts.currentTc = some i) : (ts.modify i change).OthersSettled := by
  intro j apart
  rw [modify_currentTc] at apart
  have different : j ≠ i := fun same => apart (by rw [current, same])
  rw [modify_testcase_of_ne _ _ different]
  exact others j apart

/-- Skipping leaves the others settled. -/
theorem OthersSettled.skip (others : ts.OthersSettled) (j : Fin td.size) :
    (ts.skip j).OthersSettled := by
  unfold TestSuite.skip
  split
  · exact others
  · dsimp only
    split
    · rename_i current
      intro k _
      exact others.modify_current (·.changeState .skipped) current
        (TestCase.Settled.skipped _) k
    · intro k apart
      by_cases same : k = j
      · subst same
        simpa using TestCase.Settled.skipped (ts.testcase k)
      · rw [modify_testcase_of_ne _ _ same]
        exact others k apart

/-- Skipping the current test case settles all. -/
theorem OthersSettled.skip_current (others : ts.OthersSettled) (current : ts.currentTc = some i)
    (unskipped : (ts.testcase i).state ≠ some .skipped) : (ts.skip i).AllSettled := by
  intro j
  have settled := others.modify_current (·.changeState .skipped) current
    (TestCase.Settled.skipped _) j
  simpa only [TestSuite.skip, unskipped, ↓reduceIte, current] using settled

/-- The current test case after skipping. -/
theorem skip_currentTc (ts : TestSuite td) (j : Fin td.size)
    (unskipped : ts.currentTc = some j → (ts.testcase j).state ≠ some .skipped) :
    (ts.skip j).currentTc = if ts.currentTc = some j then none else ts.currentTc := by
  unfold TestSuite.skip
  by_cases current : ts.currentTc = some j
  · simp [unskipped current, current]
  · split <;> simp

/-- Skipping another test case leaves the current one. -/
theorem skip_currentTc_of_ne {ts : TestSuite td} {j : Fin td.size} (other : ts.currentTc ≠ some j) :
    (ts.skip j).currentTc = ts.currentTc := by
  rw [skip_currentTc _ _ fun wrong => absurd wrong other, if_neg other]

/-- Reinitialising the current test case, if there is one, changes that one only. -/
theorem reinitTestcase_testcase (ts : TestSuite td) (j : Fin td.size) :
    (ts.reinitTestcase ts.getCurrentTestcaseId).testcase j =
      if ts.currentTc = some j then (ts.testcase j).reinit else ts.testcase j := by
  cases current : ts.currentTc with
  | none => simp [reinitTestcase, getCurrentTestcaseId, getTestcase, current]
  | some i =>
    have found : (ts.getTestcase ts.getCurrentTestcaseId).or ts.currentTc = some i := by
      simp [getCurrentTestcaseId, getTestcase, current]
    rw [reinitTestcase, found]
    by_cases here : j = i
    · subst here
      simp
    · have apart : i ≠ j := fun same => here same.symm
      simp [here, apart]

/-- Skipping another test case does not change the current one. -/
theorem skip_testcase_of_ne {j k : Fin td.size} (apart : k ≠ j) :
    (ts.skip j).testcase k = ts.testcase k := by
  simp [skip_testcase, apart]

end TestSuite

namespace Coordinator

/-- The suite has not been started. -/
def Setup (c : Coordinator td) : Prop :=
  c.state = .waitingForTestsuiteConfig ∨ c.state = .waitingForTestsuiteStart

/-- The current test case, if there is one, waits for being started. -/
def Waiting (c : Coordinator td) : Prop :=
  c.state = .waitingForIutConfigurationExecuted ∨ c.state = .waitingForTestcaseStart

/-- A session in which a test case waits has been started. -/
theorem Waiting.accepts {c : Coordinator td} (waiting : c.Waiting) : ongoing c.state = true := by
  rcases waiting with state | state <;> rw [state] <;> rfl

/-- The machine starts a test case only while one waits for it. -/
theorem startTestcase_closed {c : Coordinator td} (waits : ¬ c.Waiting) :
    accepts c.state .startTestcase = false := by
  revert waits
  unfold Waiting
  cases c.state <;> decide

/-- Before the start no test case is prepared or executed. -/
theorem Setup.idle {c : Coordinator td} (setup : c.Setup) :
    ongoing c.state = false ∧ c.state ≠ .preparingNextStep ∧ c.state ≠ .testsuiteFinished := by
  rcases setup with state | state <;> rw [state] <;> decide

/-- The state of the machine and the progress of the test cases fit together. -/
inductive Coherent : Coordinator td → Prop
  /-- Before the start no test case is the current one. -/
  | setup {c : Coordinator td} : c.Setup → c.testsuite.currentTc = none →
      (c.state = .waitingForTestsuiteStart → 0 < td.size) → Coherent c
  /-- The current test case, if there is one, is being configured. -/
  | waiting {c : Coordinator td} : c.Waiting → 0 < td.size → c.testsuite.OthersSettled →
      (∀ i, c.testsuite.currentTc = some i → (c.testsuite.testcase i).Configuring) → Coherent c
  /-- The current test case is executing a step. -/
  | executing {c : Coordinator td} (i : Fin td.size) : c.state = .waitingForStepExecuted →
      c.testsuite.currentTc = some i → c.testsuite.OthersSettled →
      (c.testsuite.testcase i).Executing → Coherent c
  /-- The end of the current test case raised. -/
  | stuck {c : Coordinator td} (i : Fin td.size) : c.state = .preparingNextStep →
      c.testsuite.currentTc = some i → c.testsuite.OthersSettled →
      (c.testsuite.testcase i).Exhausted → Coherent c
  /-- Every test case has come to an end. -/
  | finished {c : Coordinator td} : c.state = .testsuiteFinished →
      c.testsuite.currentTc = none → 0 < td.size → c.testsuite.AllSettled →
      (∀ j, (c.testsuite.testcase j).state ≠ none) → Coherent c

variable {c : Coordinator td} {i : Fin td.size}

/-- Configuring a pristine test case. -/
theorem Coherent.configure (others : ∀ j, j ≠ i → (c.testsuite.testcase j).Settled)
    (pristine : (c.testsuite.testcase i).Pristine) : Coherent (c.configure i) := by
  refine .waiting (.inl rfl) i.pos (fun j apart => ?_) (fun j current => ?_)
  · have different : j ≠ i := fun same => apart (by rw [same]; rfl)
    simpa [Coordinator.configure, different] using others j different
  · have same : i = j := Option.some.inj current
    subst same
    simpa [Coordinator.configure] using pristine.configuring

/-- The end of the session. -/
theorem Coherent.conclude (nonempty : 0 < td.size) (idle : c.testsuite.currentTc = none)
    (settled : c.testsuite.AllSettled) (past : ∀ j, (c.testsuite.testcase j).state ≠ none) :
    Coherent c.conclude :=
  .finished rfl idle nonempty (fun j => (settled j).withReport _) past

/-- Going on with the next test case when all are settled. -/
theorem Coherent.proceed (nonempty : 0 < td.size) (settled : c.testsuite.AllSettled) :
    Coherent c.proceed := by
  unfold Coordinator.proceed
  cases pending : c.testsuite.pending with
  | none =>
    exact Coherent.conclude nonempty rfl settled (TestSuite.pending_eq_none.mp pending)
  | some i =>
    have blank := (TestSuite.pending_eq_some.mp pending).1
    exact Coherent.configure (fun j _ => settled j) ((settled i).pristine blank)

/-- While the machine waits for an answer, the current test case is executing a step. -/
theorem Coherent.executes (coherent : Coherent c) (state : c.state = .waitingForStepExecuted) :
    ∃ i, c.testsuite.currentTc = some i ∧ (c.testsuite.testcase i).Executing := by
  cases coherent with
  | executing i _ current _ executing => exact ⟨i, current, executing⟩
  | setup early _ _ | waiting early _ _ _ =>
    rcases early with wrong | wrong <;> cases state.symm.trans wrong
  | stuck _ wrong _ _ _ | finished wrong _ _ _ _ => cases state.symm.trans wrong

/-- The step whose answer the machine waits for. -/
def awaited (c : Coordinator td) : Option (Fin td.size × Nat) :=
  if c.state = .waitingForStepExecuted then
    c.testsuite.currentTc.bind fun i => (c.testsuite.testcase i).currentStep.map (i, ·)
  else none

/-- Outside of `waiting_for_step_executed` no step is awaited. -/
theorem awaited_none (elsewhere : c.state ≠ .waitingForStepExecuted) : c.awaited = none :=
  if_neg elsewhere

/-- The type of step that an answer is about. -/
def stepKind : Event → Option StepType
  | .stepStimuliExecuted _ => some .stimuli
  | .stepVerifyExecuted _ _ => some .verify
  | .stepCheckExecuted _ _ => some .check
  | _ => none

/-- An answer that lacks an attribute its handler reads. What did not come with a message is `None`,
so no message from the bus does. -/
def malformed : Event → Bool
  | .stepVerifyExecuted verifyResponse _ => verifyResponse.isNone
  | .stepCheckExecuted partialVerdict description => partialVerdict.isNone || description.isNone
  | _ => false

/-- An answer without the value that the verification of a step needs. -/
def blank : StepType → Event → Bool
  | .verify, .stepVerifyExecuted (some none) _ => true
  | _, _ => false

/-- Only the answer to a verification can lack the value that a step needs. -/
theorem blank_kind {type : StepType} {event : Event} (empty : blank type event = true) :
    stepKind event = some type := by
  unfold blank at empty
  split at empty
  · rfl
  · cases empty

/-- What an answer does to the step that it is about. -/
def answerTo : Event → Step → Step
  | .stepVerifyExecuted (some (some response)) _, step => step.verified response
  | _, step => step.changeState (some .finished)

/-- The coordinator once the current step was answered; an answer of another type is refused. -/
def answered (c : Coordinator td) (i : Fin td.size) (k : Nat) (step : Step) (event : Event) :
    Coordinator td :=
  if stepKind event = some step.type then c.modify i (·.modifyStep k (answerTo event)) else c

/-- An answer leaves the type of the step. -/
@[simp] theorem answerTo_type (event : Event) (step : Step) :
    (answerTo event step).type = step.type := by
  unfold answerTo
  split <;> simp

/-- An answer finishes the step. -/
@[simp] theorem answerTo_state (event : Event) (step : Step) :
    (answerTo event step).state = some .finished := by
  unfold answerTo
  split <;> simp

/-- A malformed answer is reported. -/
theorem answer_malformed (ts : TestSuite td) {event : Event} (lacks : malformed event = true) :
    ∃ message, Handler.answer ts event = .error (.coordinatorError message) := by
  cases event with
  | stepVerifyExecuted verifyResponse node =>
    cases verifyResponse with
    | none => exact ⟨_, rfl⟩
    | some response => cases lacks
  | stepCheckExecuted partialVerdict description =>
    cases partialVerdict with
    | none => exact ⟨_, rfl⟩
    | some verdict =>
      cases description with
      | none => exact ⟨_, rfl⟩
      | some text => cases lacks
  | _ => cases lacks

/-- A verification without a value fails an assertion. -/
theorem answer_blank {k : Nat} {step : Step} {event : Event}
    (current : c.testsuite.currentTc = some i)
    (at_step : (c.testsuite.testcase i).currentStep = some k)
    (found : (c.testsuite.testcase i).sequence[k]? = some step)
    (executing : step.state = some .executing) (empty : blank step.type event = true) :
    Handler.answer c.testsuite event = .error .assertionError := by
  have awaited := TestSuite.awaits_executing current at_step found executing
  unfold blank at empty
  split at empty
  · rename_i type
    simp [Handler.answer, Handler.getattr, Handler.reportMissing, TestSuite.finishVerifyStep,
      awaited, type, bind, Except.bind]
  · cases empty

/-- A well-formed answer changes the current step only if it is about its type. -/
theorem answer_executing {k : Nat} {step : Step} {event : Event}
    (current : c.testsuite.currentTc = some i)
    (at_step : (c.testsuite.testcase i).currentStep = some k)
    (found : (c.testsuite.testcase i).sequence[k]? = some step)
    (executing : step.state = some .executing) (executable : step.type.isExecutable = true)
    (kind : controlEventsTriggers event = some .stepExecuted) (complete : malformed event = false)
    (filled : blank step.type event = false) :
    Handler.answer c.testsuite event = .ok (c.answered i k step event).testsuite := by
  have awaited := TestSuite.awaits_executing current at_step found executing
  have changed := TestSuite.modifyCurrentStep_eq current at_step
  cases event with
  | stepStimuliExecuted node =>
    simp only [Handler.answer, TestSuite.finishStimuliStep, awaited, answered, stepKind, changed]
    cases step.type <;> rfl
  | stepVerifyExecuted verifyResponse node =>
    match verifyResponse with
    | none => cases complete
    | some none =>
      simp only [Handler.answer, Handler.getattr, bind, Except.bind, TestSuite.finishVerifyStep,
        awaited, answered, stepKind]
      cases type : step.type with
      | verify =>
        rw [type] at filled
        cases filled
      | stimuli | check | feature => rfl
    | some (some response) =>
      simp only [Handler.answer, Handler.getattr, bind, Except.bind, TestSuite.finishVerifyStep,
        awaited, answered, stepKind, changed]
      cases step.type <;> rfl
  | stepCheckExecuted partialVerdict description =>
    match partialVerdict, description with
    | none, _ => cases complete
    | some verdict, none => cases complete
    | some verdict, some text =>
      simp only [Handler.answer, Handler.getattr, bind, Except.bind, TestSuite.finishCheckStep,
        awaited, answered, stepKind]
      cases type : step.type with
      | stimuli | verify => rfl
      | check | feature =>
        rw [type] at executable
        cases executable
  | _ => cases kind

/-- An answered test case is still ongoing. -/
theorem answered_ongoing {k : Nat} {step : Step} {event : Event}
    (ongoing : (c.testsuite.testcase i).Ongoing)
    (found : (c.testsuite.testcase i).sequence[k]? = some step)
    (before : k < (c.testsuite.testcase i).stepIt) (executable : step.type.isExecutable = true) :
    ((c.answered i k step event).testsuite.testcase i).Ongoing := by
  unfold answered
  split
  · have finished := ongoing.finishStep (answerTo event) found before executable
      (answerTo_type event step) (answerTo_state event step)
    simpa [modify] using finished
  · exact ongoing

/-- So is one whose current step was answered. -/
theorem answered_current {k : Nat} {step : Step} (event : Event)
    (executing : (c.testsuite.testcase i).Executing)
    (at_step : (c.testsuite.testcase i).currentStep = some k)
    (found : (c.testsuite.testcase i).sequence[k]? = some step) :
    ((c.answered i k step event).testsuite.testcase i).Ongoing := by
  obtain ⟨l, other, located, position, found', -, executable⟩ := executing.current
  obtain rfl : l = k := Option.some.inj (located.symm.trans at_step)
  obtain rfl : other = step := Option.some.inj (found'.symm.trans found)
  exact answered_ongoing executing.toOngoing found (by omega) executable

/-- An answer leaves the current test case. -/
@[simp] theorem answered_currentTc (c : Coordinator td) (i : Fin td.size) (k : Nat) (step : Step)
    (event : Event) : (c.answered i k step event).testsuite.currentTc = c.testsuite.currentTc := by
  unfold answered
  split <;> rfl

/-- The message that announces the current step, once it has been fetched. -/
def announceStep (c : Coordinator td) (i : Fin td.size) (step : Step) : List Message :=
  Handler.stepExecuteMessage step (testcaseInfo c.testsuite i)
    c.testsuite.getCurrentStepTargetAddress

/-- The coordinator once a step has been fetched from the iterator of a test case. -/
def fetch (c : Coordinator td) (i : Fin td.size) (tc : TestCase) : Coordinator td :=
  (c.modify i fun _ => tc.changeState .executing).withState .waitingForStepExecuted

/-- The coordinator once the iterator of a test case has come to its end. -/
def exhaust (c : Coordinator td) (i : Fin td.size) (tc : TestCase) : Coordinator td :=
  (c.modify i fun _ => tc.changeState .readyForAnalysis).withState .preparingNextStep

/-- The ways in which the next step of a test case is executed. -/
inductive Advance (services : Services) (c : Coordinator td) (i : Fin td.size) :
    EStateM.Result PyException (Coordinator td) Unit → Prop
  /-- A step is fetched and announced. -/
  | execute {k : Nat} {tc : TestCase} {step : Step} :
      (c.testsuite.testcase i).nextStep = (some k, tc) → tc.sequence[k]? = some step →
      step.type.isExecutable = true → (tc.changeState .executing).Executing →
      Advance services c i (.ok () ((c.fetch i tc).send ((c.fetch i tc).announceStep i step)))
  /-- The end of the test case raises before anything is changed. -/
  | refuse {tc : TestCase} {exception : PyException} :
      (c.testsuite.testcase i).nextStep = (none, tc) →
      (tc.changeState .readyForAnalysis).Exhausted →
      finishOutcome services (td.id i) (c.analyzeRequest i) (tc.changeState .readyForAnalysis) =
        .refused exception →
      Advance services c i (.error exception (c.exhaust i tc))
  /-- The end of the test case raises during the analysis. -/
  | interrupt {tc : TestCase} {exception : PyException} {requests : List Message} :
      (c.testsuite.testcase i).nextStep = (none, tc) →
      (tc.changeState .readyForAnalysis).Exhausted →
      finishOutcome services (td.id i) (c.analyzeRequest i) (tc.changeState .readyForAnalysis) =
        .interrupted exception requests →
      Advance services c i
        (.error exception ((c.exhaust i tc).consulted services i (·.analyzing) requests))
  /-- The test case is finished with a report, and the session goes on. -/
  | complete {tc : TestCase} {report : Report} {requests : List Message} :
      (c.testsuite.testcase i).nextStep = (none, tc) →
      (tc.changeState .readyForAnalysis).Exhausted →
      finishOutcome services (td.id i) (c.analyzeRequest i) (tc.changeState .readyForAnalysis) =
        .completed report requests →
      Advance services c i (.ok () ((((c.exhaust i tc).consulted services i (·.reported report)
        requests).send [.testCaseFinished
          (testcaseInfo ((c.exhaust i tc).modify i (·.reported report)).testsuite i),
        .testCaseVerdict report
          (testcaseInfo ((c.exhaust i tc).modify i (·.reported report)).testsuite i)]).proceed))

/-- A step that has been fetched is announced. -/
theorem announcement_fetch (tc : TestCase) {k : Nat} {step : Step}
    (current : c.testsuite.currentTc = some i) (at_step : tc.currentStep = some k)
    (found : tc.sequence[k]? = some step) :
    (c.fetch i tc).testsuite.announcement = some ((c.fetch i tc).announceStep i step) := by
  have here : (c.fetch i tc).testsuite.testcase i = tc.changeState .executing := by
    simp [fetch, modify]
  have same : (c.fetch i tc).testsuite.currentTc = some i := current
  have fetched : (c.fetch i tc).testsuite.getCurrentStep = some step := by
    simp only [TestSuite.getCurrentStep, same, Option.bind_some, here, TestCase.step?]
    change (tc.currentStep.bind fun k => tc.sequence[k]?) = some step
    rw [at_step]
    exact found
  simp only [TestSuite.announcement, same, Option.bind_some, fetched, Option.map_some,
    announceStep]

/-- The next step of an ongoing test case is executed in one of these ways. -/
theorem advance_cases {services : Services} (current : c.testsuite.currentTc = some i)
    (ongoing : (c.testsuite.testcase i).Ongoing) :
    Advance services c i (c.advance services) := by
  cases fetched : (c.testsuite.testcase i).nextStep with
  | mk step tc =>
    cases step with
    | some k =>
      obtain ⟨step, found, -, executable, -, -, after⟩ := ongoing.nextStep_some fetched
      have located : tc.sequence[k]? = some (step.changeState (some .executing)) := by
        rw [after, TestCase.modifyStep_getElem?]
        simp [found]
      have announced := announcement_fetch (c := c) tc (k := k) current
        (by rw [after]; rfl) located
      have advanced : c.advance services = .ok () ((c.fetch i tc).send
          ((c.fetch i tc).announceStep i (step.changeState (some .executing)))) := by
        rw [fetch] at announced ⊢
        simp only [advance, current, fetched, announced]
      rw [advanced]
      exact .execute fetched located executable (ongoing.execute fetched)
    | none =>
      have exhausted := ongoing.exhaust fetched
      have here : (c.exhaust i tc).testsuite.testcase i = tc.changeState .readyForAnalysis := by
        simp [exhaust, modify]
      have advanced : c.advance services = (c.exhaust i tc).finish services i := by
        simp only [advance, current, fetched, exhaust]
      rw [advanced, finish, here]
      cases outcome : finishOutcome services (td.id i) (c.analyzeRequest i)
          (tc.changeState .readyForAnalysis) with
      | refused exception =>
        have same : finishOutcome services (td.id i) ((c.exhaust i tc).analyzeRequest i)
          (tc.changeState .readyForAnalysis) = .refused exception := outcome
        simp only [same]
        exact .refuse fetched exhausted outcome
      | interrupted exception requests =>
        have same : finishOutcome services (td.id i) ((c.exhaust i tc).analyzeRequest i)
          (tc.changeState .readyForAnalysis) = .interrupted exception requests := outcome
        simp only [same]
        exact .interrupt fetched exhausted outcome
      | completed report requests =>
        have same : finishOutcome services (td.id i) ((c.exhaust i tc).analyzeRequest i)
          (tc.changeState .readyForAnalysis) = .completed report requests := outcome
        simp only [same]
        exact .complete fetched exhausted outcome

/-- Whatever way the next step is executed, the coordinator is coherent afterwards. -/
theorem Advance.coherent {services : Services}
    {result : EStateM.Result PyException (Coordinator td) Unit}
    (advance : Advance services c i result) (current : c.testsuite.currentTc = some i)
    (others : c.testsuite.OthersSettled) : Coherent (finalState result) := by
  cases advance with
  | execute _ _ _ executing =>
    refine .executing i rfl current (others.modify current) ?_
    simpa [fetch, modify] using executing
  | refuse _ exhausted _ =>
    refine .stuck i rfl current (others.modify current) ?_
    simpa [exhaust, modify] using exhausted
  | interrupt _ exhausted _ =>
    refine .stuck i rfl current ((others.modify current).modify current) ?_
    simpa [exhaust, modify] using exhausted.analyzing
  | @complete _ report _ _ _ _ =>
    exact Coherent.proceed i.pos ((others.modify current).modify_current
      (·.reported report) current (TestCase.Settled.reported _ _))

end Coordinator

end Ioppytest
