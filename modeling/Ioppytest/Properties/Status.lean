import Ioppytest.TestCoordinator.Services
import Ioppytest.Properties.Announcements

/-!
# What a status reply tells

Users learn about a session in two ways: from the messages that the coordinator publishes, and from
its replies to requests for the status. Whenever such a request is handled, both tell the same: the
step in the reply is the one that was requested last, and a test case that waits for its start is the
one that was announced as ready last.
-/

namespace Ioppytest

open Raising

variable {td : TestDescriptions}

/-- The execution of a step that was requested last. -/
def lastStep (messages : List Message) : Option (String × String) :=
  ((announcements messages).filterMap Announcement.step?).getLast?

/-- The test case that a message announces as ready. -/
def Message.readyFor : Message → Option String
  | .testCaseReady _ tc => some tc.testcaseId
  | _ => none

/-- The test case that was announced as ready last. -/
def lastReady (messages : List Message) : Option String :=
  (messages.filterMap Message.readyFor).getLast?

section Last

variable {before sent : List Message}

/-- What was announced as ready last counts. -/
theorem lastReady_concat (configuration : ConfigurationInfo) (tc : VerboseTestCaseInfo) :
    lastReady (before ++ [.testCaseReady configuration tc]) = some tc.testcaseId := by
  rw [lastReady, List.filterMap_append]
  exact List.getLast?_concat

/-- Messages about something else change nothing. -/
theorem lastReady_silent (silent : sent.filterMap Message.readyFor = []) :
    lastReady (before ++ sent) = lastReady before := by
  rw [lastReady, List.filterMap_append, silent, List.append_nil]
  rfl

/-- What was requested last counts. -/
theorem lastStep_step {pair : String × String}
    (asks : announcements sent = [.step pair.1 pair.2]) :
    lastStep (before ++ sent) = some pair := by
  rw [lastStep, announcements_append, List.filterMap_append, asks]
  exact List.getLast?_concat

/-- Messages about something else change nothing. -/
theorem lastStep_silent (silent : announcements sent = []) :
    lastStep (before ++ sent) = lastStep before := by
  rw [lastStep, announcements_append, silent, List.append_nil]
  rfl

end Last

namespace Coordinator

variable {upper : String → String} {testsuiteName : String} {c : Coordinator td} {input : Input}

/-- The last messages are about what the session is at. -/
structure Told (c : Coordinator td) : Prop where
  /-- The awaited step was requested last. -/
  step : c.state = .waitingForStepExecuted → lastStep c.bus = c.execution.head?
  /-- The test case that waits for its start was announced as ready last. -/
  ready : ∀ i, c.state = .waitingForTestcaseStart → c.testsuite.currentTc = some i →
    lastReady c.bus = some (td.id i)

/-- Nothing is told where nothing is waited for. -/
theorem told_elsewhere (step : c.state ≠ .waitingForStepExecuted)
    (ready : c.state ≠ .waitingForTestcaseStart) : c.Told :=
  ⟨fun state => absurd state step, fun _ state => absurd state ready⟩

/-- Only the state, the test cases and the last messages count. -/
theorem Told.of_same {after : Coordinator td} (told : c.Told) (state : after.state = c.state)
    (execution : after.execution = c.execution)
    (currentTc : after.testsuite.currentTc = c.testsuite.currentTc)
    (step : lastStep after.bus = lastStep c.bus) (ready : lastReady after.bus = lastReady c.bus) :
    after.Told where
  step waits := by
    rw [step, execution]
    exact told.step (state.symm.trans waits)
  ready i waits current := by
    rw [ready]
    exact told.ready i (state.symm.trans waits) (currentTc.symm.trans current)

/-- The execution of a step that is under way. -/
theorem execution_eq {i : Fin td.size} {k : Nat} {step : Step}
    (state : c.state = .waitingForStepExecuted) (current : c.testsuite.currentTc = some i)
    (position : (c.testsuite.testcase i).currentStep = some k)
    (found : (c.testsuite.testcase i).sequence[k]? = some step) :
    c.execution = [(td.id i, step.id)] := by
  simp [execution, awaited, state, current, position, found]

/-- Going on with the next test case. -/
theorem proceed_told (c : Coordinator td) : c.proceed.Told := by
  rcases proceed_state c with state | state <;>
    exact told_elsewhere (by simp [state]) (by simp [state])

/-- Announcing that the current test case is ready. -/
theorem announceReady_told (c : Coordinator td) : (finalState c.announceReady).Told := by
  constructor
  · intro state
    unfold announceReady at state
    cases current : c.testsuite.currentTc with
    | none =>
      rw [current] at state
      cases state
    | some i =>
      rw [current] at state
      cases state
  · intro j _ there
    unfold announceReady at there ⊢
    cases current : c.testsuite.currentTc with
    | none =>
      rw [current] at there
      exact absurd (current.symm.trans there) (by simp)
    | some i =>
      rw [current] at there
      obtain rfl : i = j := Option.some.inj (current.symm.trans there)
      exact lastReady_concat _ _

/-- Recording a node. -/
theorem Told.recordNode (told : c.Told) (event : Option Event) :
    (finalState (c.recordNode event)).Told := by
  unfold Coordinator.recordNode
  cases Handler.nodeUpdate event with
  | error exception => exact told
  | ok node =>
    obtain ⟨name, address⟩ := node
    have updated : (c.withTestsuite (c.testsuite.updateNodeAddress name address)).Told :=
      ⟨told.step, told.ready⟩
    dsimp only
    split
    · split
      · exact announceReady_told _
      · split <;> exact updated
    · exact updated

/-- Announcing that the current test case was started. -/
theorem Told.announceStarted (told : c.Told) : (finalState c.announceStarted).Told := by
  unfold Coordinator.announceStarted
  cases c.testsuite.currentTc with
  | none => exact told
  | some i => exact told.of_same rfl rfl rfl (lastStep_silent rfl) (lastReady_silent rfl)

/-- Whatever way the next step is executed. -/
theorem Advance.told {services : Services} {i : Fin td.size}
    {result : EStateM.Result PyException (Coordinator td) Unit}
    (advance : Advance services c i result) (current : c.testsuite.currentTc = some i)
    (ongoing : (c.testsuite.testcase i).Ongoing) : (finalState result).Told := by
  cases advance with
  | @execute k tc step fetched found executable executing =>
    refine ⟨fun state => ?_, fun j state => by cases state⟩
    obtain ⟨-, -, -, -, -, -, after⟩ := ongoing.nextStep_some fetched
    have at_step : tc.currentStep = some k := by
      rw [after]
      rfl
    have here : ((c.fetch i tc).testsuite.testcase i) = tc.changeState .executing := by
      simp [fetch, modify]
    have begun : ((c.fetch i tc).send ((c.fetch i tc).announceStep i step)).execution =
        [(td.id i, step.id)] := by
      refine execution_eq (k := k) rfl current ?_ ?_
      · rw [send_testsuite, here]
        exact at_step
      · rw [send_testsuite, here]
        exact found
    rw [finalState_ok, begun]
    exact lastStep_step (announcements_step executable)
  | refuse _ _ _ => exact told_elsewhere (fun state => by cases state) (fun state => by cases state)
  | interrupt _ _ _ =>
    exact told_elsewhere (fun state => by cases state) (fun state => by cases state)
  | complete _ _ _ => exact proceed_told _

/-- The step that is under way is requested once more. -/
theorem announceStep_told {i : Fin td.size} {k : Nat} {step : Step}
    (state : c.state = .waitingForStepExecuted) (current : c.testsuite.currentTc = some i)
    (position : (c.testsuite.testcase i).currentStep = some k)
    (found : (c.testsuite.testcase i).sequence[k]? = some step)
    (executable : step.type.isExecutable = true) : (c.send (c.announceStep i step)).Told where
  step _ := by
    have execution : (c.send (c.announceStep i step)).execution = [(td.id i, step.id)] :=
      execution_eq state current position found
    rw [execution, send_bus]
    exact lastStep_step (announcements_step executable)
  ready _ wrong := by cases state.symm.trans wrong

/-- Every move keeps the last messages about what the session is at. -/
theorem Move.told {result : EStateM.Result PyException (Coordinator td) Bool}
    (move : Move c input result) (coherent : Coherent c) (told : c.Told) :
    (finalState result).Told := by
  have early (setup : c.Setup) {after : Coordinator td} (same : after.state = c.state) :
      after.Told := by
    refine told_elsewhere ?_ ?_ <;> rw [same] <;> rcases setup with state | state <;> simp [state]
  cases move with
  | ignored => exact told
  | refused => exact told
  | empty _ setup state _ _ => exact early setup state
  | configured _ _ _ => exact told_elsewhere (fun wrong => by cases wrong) (fun wrong => by cases wrong)
  | skippedEarly state _ => exact early (.inl state) rfl
  | @recordedEarly event _ _ setup _ =>
    rw [finalState_andThen_ok]
    have sent : (c.send [c.setupMessage]).Told := early setup rfl
    exact sent.recordNode (some event)
  | started _ _ _ => exact proceed_told _
  | @recordedWaiting event _ _ _ =>
    rw [finalState_andThen_ok]
    exact told.recordNode (some event)
  | @recordedExecuting event _ _ _ _ state current position found executable _ =>
    rw [finalState_andThen_ok]
    exact (announceStep_told state current position found executable).recordNode (some event)
  | @recordedFinished event _ _ _ =>
    rw [finalState_andThen_ok]
    have concluded : c.conclude.Told :=
      told_elsewhere (fun wrong => by cases wrong) (fun wrong => by cases wrong)
    exact concluded.recordNode (some event)
  | @retried event _ _ _ _ current exhausted _ advance =>
    rw [finalState_andThen_ok]
    exact finalState_andThen (advance.told current exhausted.toOngoing)
      fun _ later => later.recordNode (some event)
  | timedOut _ =>
    rw [finalState_andThen_ok]
    exact announceReady_told c
  | @executed _ _ i _ waits current advance =>
    rw [finalState_andThen_ok]
    have begun : (((c.modify i (·.changeState .executing)).send
        (sniffingMessages i)).testsuite.testcase i).Ongoing := by
      simpa [modify] using (coherent.configuring waits current).start
    exact finalState_andThen (advance.told current begun) fun _ later => later.announceStarted
  | @answered event _ i _ _ _ _ current executing position found _ _ _ advance =>
    rw [finalState_andThen_ok]
    exact advance.told ((answered_currentTc _ _ _ _ _).trans current)
      (answered_current event executing position found)
  | restarted _ _ => exact told_elsewhere (fun wrong => by cases wrong) (fun wrong => by cases wrong)
  | selected _ =>
    rw [finalState_ok]
    apply selectTestcase_rule
    · exact fun _ => told_elsewhere (fun wrong => by cases wrong) (fun wrong => by cases wrong)
    · exact proceed_told _
  | skippedCurrent _ _ _ => exact proceed_told _
  | @skippedOther _ _ j waits _ other =>
    have elsewhere : c.state ≠ .waitingForStepExecuted := by
      rcases waits with state | state <;> simp [state]
    refine ⟨fun wrong => absurd wrong elsewhere, fun i state current => ?_⟩
    exact told.ready i state ((TestSuite.skip_currentTc_of_ne other).symm.trans current)
  | @skippedInstead _ _ i waits _ current =>
    have elsewhere : c.state ≠ .waitingForStepExecuted := by
      rcases waits with state | state <;> simp [state]
    refine ⟨fun wrong => absurd wrong elsewhere, fun j _ left => ?_⟩
    have configuring := (coherent.configuring waits current).state
    have none_left : (c.testsuite.skip i).currentTc = none := by
      rw [TestSuite.skip_currentTc _ _ fun _ => by simp [configuring], if_pos current]
    cases none_left.symm.trans left
  | @skippedExecuting _ _ i j k step state current position found executable _ apart =>
    have other : c.testsuite.currentTc ≠ some j := by
      rw [current]
      simpa using apart
    have same : (c.testsuite.skip j).testcase i = c.testsuite.testcase i :=
      TestSuite.skip_testcase_of_ne apart
    refine announceStep_told (c := c.withTestsuite (c.testsuite.skip j)) (k := k) state
      ((TestSuite.skip_currentTc_of_ne other).trans current) ?_ ?_ executable
    · rw [withTestsuite_testsuite, same]
      exact position
    · rw [withTestsuite_testsuite, same]
      exact found
  | aborted _ _ => exact proceed_told _

/-- In every state that is reached the last messages are about what the session is at. -/
theorem reached_told {allowed : Coordinator td → Input → Prop}
    (tame : ∀ c input, allowed c input → input.Known td ∨ Survives upper c input)
    (reached : Reached upper testsuiteName allowed c) : c.Told := by
  refine reached.invariant ?_ fun state input earlier told permitted => ?_
  · rw [initial_eq]
    exact told_elsewhere (fun wrong => by cases wrong) (fun wrong => by cases wrong)
  · exact (reached_move tame earlier permitted).told (reached_coherent tame earlier) told

/-- A status tells what the session is at. -/
structure Truthful (c : Coordinator td) (summary : StatesSummary) : Prop where
  /-- While a step is awaited, it is the step that was requested last. -/
  executing : c.state = .waitingForStepExecuted → summary.started = true ∧
    summary.testcaseState = some .executing ∧ ∃ testcaseId stepId,
      summary.testcaseId = some testcaseId ∧ summary.stepId = some stepId ∧
        lastStep c.bus = some (testcaseId, stepId)
  /-- A test case that waits for being started has no step. -/
  waiting : c.Waiting → summary.stepId = none ∧
    (summary.started = true → summary.testcaseState = some .configuring)
  /-- Once its configuration is over, it is the one that was announced as ready last. -/
  ready : c.state = .waitingForTestcaseStart → summary.started = true →
    summary.testcaseId = lastReady c.bus
  /-- Before the start and after the end there is nothing to tell. -/
  idle : c.Setup ∨ c.state = .testsuiteFinished →
    summary.started = false ∧ summary.testcaseId = none ∧ summary.testcaseState = none ∧
      summary.stepId = none
  /-- The list of test cases agrees with what is told about the current one. -/
  listed : ∀ testcaseId, summary.testcaseId = some testcaseId →
    ∃ info ∈ summary.configuration.tcList, info.testcaseId = testcaseId ∧
      info.state = summary.testcaseState
  /-- At the end every test case on the list has come to its end. -/
  ended : c.state = .testsuiteFinished → ∀ info ∈ summary.configuration.tcList,
    ∃ state, info.state = some state ∧ state.isTerminal = true

/-- What a status consists of, when the suite has test cases. -/
theorem getStatesSummary_ok (ts : TestSuite td) (nonempty : 0 < td.size) :
    Handler.getStatesSummary ts = .ok
      { started := ts.currentTc.isSome
        testcaseId := ts.currentTc.map td.id
        testcaseState := ts.currentTc.bind fun i => (ts.testcase i).state
        stepId := ts.getCurrentStep.map (·.id)
        configuration := testsuiteConfiguration ts } := by
  have filled : td.size ≠ 0 := Nat.ne_of_gt nonempty
  unfold Handler.getStatesSummary getTestsuiteConfiguration
  rw [if_neg filled]
  rfl

/-- What a coherent coordinator whose last messages are about what it is at tells. -/
theorem Told.truthful (told : c.Told) (coherent : Coherent c) {summary : StatesSummary}
    (asked : Handler.getStatesSummary c.testsuite = .ok summary) (nonempty : 0 < td.size) :
    Truthful c summary := by
  rw [getStatesSummary_ok _ nonempty] at asked
  obtain rfl := Except.ok.inj asked
  constructor
  · intro state
    obtain ⟨i, current, executing⟩ := coherent.executes state
    obtain ⟨k, step, position, -, found, -, -⟩ := executing.current
    have shown := told.step state
    rw [execution_eq state current position found] at shown
    refine ⟨by simp [current], by simp [current, executing.state], td.id i, step.id,
      by simp [current], ?_, shown⟩
    simp [TestSuite.getCurrentStep, TestCase.step?, current, position, found]
  · intro waits
    cases current : c.testsuite.currentTc with
    | none => simp [TestSuite.getCurrentStep, current]
    | some i =>
      have configuring := coherent.configuring waits current
      have none_yet : (c.testsuite.testcase i).currentStep = none := configuring.currentStep
      simp [TestSuite.getCurrentStep, TestCase.step?, current, none_yet, configuring.state]
  · intro state started
    cases current : c.testsuite.currentTc with
    | none => simp [current] at started
    | some i => exact (told.ready i state current).symm
  · intro outside
    have idle : c.testsuite.currentTc = none := by
      cases coherent with
      | setup _ idle _ => exact idle
      | finished _ idle _ _ _ => exact idle
      | waiting waits _ _ _ =>
        rcases outside with (wrong | wrong) | wrong <;> rcases waits with state | state <;>
          cases state.symm.trans wrong
      | executing _ state _ _ _ =>
        rcases outside with (wrong | wrong) | wrong <;> cases state.symm.trans wrong
      | stuck _ state _ _ _ =>
        rcases outside with (wrong | wrong) | wrong <;> cases state.symm.trans wrong
    simp [TestSuite.getCurrentStep, idle]
  · intro testcaseId named
    cases current : c.testsuite.currentTc with
    | none => simp [current] at named
    | some i =>
      have same : td.id i = testcaseId := by simpa [current] using named
      refine ⟨testcaseInfo c.testsuite i, ?_, same, by simp [testcaseInfo]⟩
      exact List.mem_map_of_mem (List.mem_finRange i)
  · intro state info listed
    obtain ⟨i, -, rfl⟩ := List.mem_map.mp listed
    cases coherent with
    | finished _ _ _ settled past =>
      rcases settled i with pristine | past
      · exact absurd pristine.state (past i)
      · exact past
    | setup early _ _ => rcases early with wrong | wrong <;> cases state.symm.trans wrong
    | waiting waits _ _ _ => rcases waits with wrong | wrong <;> cases state.symm.trans wrong
    | executing _ wrong _ _ _ => cases state.symm.trans wrong
    | stuck _ wrong _ _ _ => cases state.symm.trans wrong

/-- **A status reply tells the truth.** Whatever has happened in a session, a request for the status
is answered, without an effect on the session; the reply is an error only for a suite without test
cases, and otherwise agrees with what the coordinator has published and with its list of test cases. -/
theorem status_truthful (upper : String → String) (testsuiteName : String) (c : Coordinator td)
    (reached : Reached upper testsuiteName (Survives upper) c) :
    ∃ reply, (Handler.handleService .getStatus).run c = .ok (some reply) c ∧
      ((td.size = 0 ∧ reply = .failed (.testSuiteError "No test cases found")) ∨
        ∃ summary, reply = .status summary ∧ Truthful c summary ∧
          (Handler.handleService .getTestCases).run c =
            .ok (some (.testCases summary.configuration.tcList)) c) := by
  have tame : ∀ (c : Coordinator td) input, Survives upper c input →
      input.Known td ∨ Survives upper c input := fun _ _ survives => .inr survives
  have coherent := reached_coherent tame reached
  have told := reached_told tame reached
  by_cases empty : td.size = 0
  · have fails : Handler.getStatesSummary c.testsuite =
        .error (.testSuiteError "No test cases found") := by
      unfold Handler.getStatesSummary getTestsuiteConfiguration
      rw [if_pos empty]
      rfl
    have raised : Handler.requestReplyHandlers c.testsuite .getStatus =
        some (.error (.testSuiteError "No test cases found")) := by
      simp [Handler.requestReplyHandlers, fails, Except.map]
    exact ⟨_, Handler.handleService_error raised, .inl ⟨empty, rfl⟩⟩
  · have nonempty := Nat.pos_of_ne_zero empty
    have asked := getStatesSummary_ok c.testsuite nonempty
    have listed : Handler.getTestcasesBasic c.testsuite =
        .ok (testsuiteConfiguration c.testsuite).tcList := by
      simp [Handler.getTestcasesBasic, empty, testsuiteConfiguration]
    refine ⟨_, Handler.handleService_ok ?_, .inr ⟨_, rfl, told.truthful coherent asked nonempty, ?_⟩⟩
    · simp [Handler.requestReplyHandlers, asked, Except.map]
    · exact Handler.handleService_ok (by simp [Handler.requestReplyHandlers, listed, Except.map])

/-- While the first step of the small suite is executed. -/
theorem status_truthful_small :
    ∃ reply, (Handler.handleService .getStatus).run stimuliAwaited = .ok (some reply) stimuliAwaited ∧
      ((smallSuite.size = 0 ∧ reply = .failed (.testSuiteError "No test cases found")) ∨
        ∃ summary, reply = .status summary ∧ Truthful stimuliAwaited summary ∧
          (Handler.handleService .getTestCases).run stimuliAwaited =
            .ok (some (.testCases summary.configuration.tcList)) stimuliAwaited) :=
  status_truthful id "coap" stimuliAwaited stimuliAwaited_reached

end Coordinator

end Ioppytest
