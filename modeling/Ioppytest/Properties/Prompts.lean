import Ioppytest.Properties.AutomatedSessions
import Ioppytest.UiAdaptor.Questions

/-!
# The prompts of the coordinator

In each state the coordinator waits for the answer to one question at most: whether to start the
test case it has announced, or whether a step was executed. An answer leads to the next question.
-/

namespace Ioppytest

open Raising Coordinator UiAdaptor

variable {td : TestDescriptions}

/-- What the UI adaptor reads from a message, if the coordinator waits for the answer to it. -/
def Message.prompt? (message : Message) : Option TtMessage :=
  (TtMessage.ofMessage? message).filter (·.type.awaited)

/-- Incidental messages are no prompts. -/
theorem prompt_incidental {message : Message} (incidental : message.Incidental) :
    message.prompt? = none := by
  cases message with
  | testCaseReady _ _ | stepStimuliExecute _ _ _ _ | stepVerifyExecute _ _ _ =>
    exact incidental.elim
  | _ => rfl

namespace Coordinator

variable {upper : String → String} {c between after : Coordinator td} {i : Fin td.size}

/-- The prompt that announces a test case. -/
def readyPrompt (i : Fin td.size) : TtMessage :=
  { type := .testCaseReady, testcaseId := some (some (td.id i)) }

/-- The prompt for the execution of a step. -/
def stepPrompt (i : Fin td.size) (step : Step) : Option TtMessage :=
  match step.type with
  | .stimuli => some
      { type := .stepStimuliExecute
        testcaseId := some (some (td.id i))
        stepId := some (some step.id)
        node := step.iut.map (some ·.node) }
  | .verify => some
      { type := .stepVerifyExecute
        testcaseId := some (some (td.id i))
        stepId := some (some step.id)
        node := step.iut.map (some ·.node) }
  | _ => none

/-- The prompt whose answer the coordinator waits for. -/
def prompt? (c : Coordinator td) : Option TtMessage :=
  match c.state, c.testsuite.currentTc with
  | .waitingForTestcaseStart, some i => some (readyPrompt i)
  | .waitingForStepExecuted, some i =>
    ((c.testsuite.testcase i).currentStep.bind fun k =>
      (c.testsuite.testcase i).sequence[k]?).bind (stepPrompt i)
  | _, _ => none

/-- The prompts that are published between two states. -/
def Prompts (prompts : List TtMessage) (before after : Coordinator td) : Prop :=
  ∃ sent, after.bus = before.bus ++ sent ∧ sent.filterMap Message.prompt? = prompts

/-- What is prompted one after the other. -/
theorem Prompts.trans {first second : List TtMessage} (before : c.Prompts first between)
    (later : between.Prompts second after) : c.Prompts (first ++ second) after := by
  obtain ⟨sent, bus, rfl⟩ := before
  obtain ⟨further, bus', rfl⟩ := later
  exact ⟨sent ++ further, by rw [bus', bus, List.append_assoc], List.filterMap_append⟩

/-- Incidental messages prompt nobody. -/
theorem Sends.prompts (sends : c.Sends Message.Incidental after) : c.Prompts [] after := by
  obtain ⟨sent, bus, incidental⟩ := sends
  exact ⟨sent, bus, List.filterMap_eq_nil_iff.mpr fun message member =>
    prompt_incidental (incidental message member)⟩

/-- What an input leads to: it is survived, and a question is asked if the coordinator waits for an
answer afterwards. -/
structure Poses (upper : String → String) (c : Coordinator td) (input : Input) : Prop where
  /-- The coordinator survives. -/
  survives : Survives upper c input
  /-- It does not get stuck. -/
  running : (next upper c input).state ≠ .preparingNextStep
  /-- The suite has been started. -/
  begun : (next upper c input).Begun
  /-- A test case that waits is the current one. -/
  present : (next upper c input).Waiting → (next upper c input).testsuite.currentTc ≠ none
  /-- The question is asked. -/
  prompts : c.Prompts (next upper c input).prompt?.toList (next upper c input)

/-- An input whose handling completes. -/
theorem poses_of_ok {input : Input} {value : Bool}
    (handled : c.handle upper input = .ok value after) (running : after.state ≠ .preparingNextStep)
    (begun : after.Begun) (present : after.Waiting → after.testsuite.currentTc ≠ none)
    (prompts : c.Prompts after.prompt?.toList after) : Poses upper c input := by
  obtain ⟨survives, same⟩ := survives_of_ok handled
  rw [← same] at running begun present prompts
  exact ⟨survives, running, begun, present, prompts⟩

/-- Going on with the next test case asks nothing yet. -/
theorem proceed_quiet (c : Coordinator td) :
    c.proceed.prompt? = none ∧ c.proceed.state ≠ .preparingNextStep ∧
      (c.proceed.Waiting → c.proceed.testsuite.currentTc ≠ none) ∧ c.Prompts [] c.proceed := by
  refine ⟨?_, ?_, ?_, (sends_proceed (fun _ incidental => incidental) c).prompts⟩
  · rcases proceed_state c with state | state <;> simp [prompt?, state]
  · rcases proceed_state c with state | state <;> simp [state]
  · unfold proceed
    cases c.testsuite.pending with
    | some i =>
      intro _ absent
      cases absent
    | none => rintro (wrong | wrong) <;> cases wrong

/-- The request for a step is its prompt. -/
theorem prompt_announceStep (c : Coordinator td) (i : Fin td.size) (step : Step) :
    (c.announceStep i step).filterMap Message.prompt? = (stepPrompt i step).toList := by
  unfold announceStep Handler.stepExecuteMessage stepPrompt
  cases step.type <;>
    simp [Message.prompt?, TtMessage.ofMessage?, Option.filter, TtMessageType.awaited, testcaseInfo,
      stepInfo]

/-- Executing the next step of a test case whose steps are closed asks for it, or goes on. -/
theorem Advance.poses {services : Services}
    {result : EStateM.Result PyException (Coordinator td) Unit}
    (advance : Advance services c i result) (readable : ¬ services.Unreadable)
    (steps : (c.testsuite.testcase i).sequence ≠ []) (current : c.testsuite.currentTc = some i)
    (ongoing : (c.testsuite.testcase i).Ongoing) (behind : (c.testsuite.testcase i).Behind) :
    ∃ after, result = .ok () after ∧ after.state ≠ .preparingNextStep ∧ after.Begun ∧
      (after.Waiting → after.testsuite.currentTc ≠ none) ∧
      c.Prompts after.prompt?.toList after := by
  have begun := advance.begun
  obtain ⟨k, tc, step, fetched, found, -, -, rfl⟩ |
      ⟨tc, report, requests, fetched, outcome, -, rfl⟩ :=
    advance.succeeds readable steps ongoing behind
  · refine ⟨_, rfl, ?_, begun, ?_, _, rfl, ?_⟩
    · simp [fetch]
    · rintro (wrong | wrong) <;> cases wrong
    · have here : (c.fetch i tc).testsuite.testcase i = tc.changeState .executing := by
        simp [fetch, modify]
      have at_step : (tc.changeState .executing).currentStep = some k := by
        obtain ⟨-, -, -, -, -, -, shape⟩ := ongoing.nextStep_some fetched
        rw [shape]
        rfl
      have there : (tc.changeState .executing).sequence[k]? = some step := found
      have state : (c.fetch i tc).state = .waitingForStepExecuted := rfl
      have turn : (c.fetch i tc).testsuite.currentTc = some i := current
      rw [prompt_announceStep]
      simp [prompt?, state, turn, here, at_step, there]
  · have asked : ∀ message ∈ requests, message.Incidental := by
      intro message member
      refine sends_requests (fun _ incidental => incidental) services c i
        (tc.changeState .readyForAnalysis) message ?_
      rw [outcome]
      exact member
    have silent : c.Sends Message.Incidental (((c.exhaust i tc).consulted services i
        (·.reported report) requests).send [.testCaseFinished
          (testcaseInfo ((c.exhaust i tc).modify i (·.reported report)).testsuite i),
        .testCaseVerdict report
          (testcaseInfo ((c.exhaust i tc).modify i (·.reported report)).testsuite i)]) := by
      have ended : c.Sends Message.Incidental ((c.exhaust i tc).modify i (·.reported report)) :=
        .of_bus rfl
      refine (ended.trans (.send asked)).trans (.send ?_)
      intro message member
      simp only [List.mem_cons, List.not_mem_nil, or_false] at member
      rcases member with rfl | rfl <;> trivial
    obtain ⟨nothing, running, present, quiet⟩ := proceed_quiet _
    refine ⟨_, rfl, running, begun, present, ?_⟩
    rw [nothing]
    exact silent.prompts.trans quiet

section Events

variable (upper) (services : Services)

/-- The session is configured. -/
theorem poses_configured (sessionId : Option String) (users : Option (List String))
    {configuration : SessionConfiguration} {listed : List String}
    (state : c.state = .waitingForTestsuiteConfig) (idle : c.testsuite.currentTc = none)
    (nonempty : 0 < td.size) (lists : Handler.sessionTcList (some configuration) = .ok listed) :
    Survives upper c (.event (.sessionConfiguration sessionId users configuration) services) ∧
      (next upper c (.event (.sessionConfiguration sessionId users configuration) services)).state =
        .waitingForTestsuiteStart ∧
      c.Prompts [] (next upper c (.event (.sessionConfiguration sessionId users configuration)
        services)) := by
  obtain ⟨ts, -, -, handled⟩ :=
    handle_configured upper services sessionId users state idle nonempty lists
  obtain ⟨survives, same⟩ := survives_of_ok handled
  rw [same]
  have silent : c.Sends Message.Incidental ((c.withTestsuite ts).send
      [(c.withTestsuite ts).setupMessage]) :=
    ⟨_, rfl, sends_setupMessage (fun _ incidental => incidental) _⟩
  exact ⟨survives, rfl, silent.prompts⟩

/-- The suite is started. -/
theorem poses_started (state : c.state = .waitingForTestsuiteStart)
    (idle : c.testsuite.currentTc = none) (nonempty : 0 < td.size) :
    Poses upper c (.event .testSuiteStart services) ∧
      (next upper c (.event .testSuiteStart services)).prompt? = none := by
  obtain ⟨ts, -, -, handled⟩ := handle_started upper services (.inr state) idle nonempty
  have opened : c.Sends Message.Incidental (((c.withTestsuite ts).send (tunnels ts)).send
      [(c.withTestsuite ts).setupMessage]) := by
    have tunnelled : c.Sends Message.Incidental ((c.withTestsuite ts).send (tunnels ts)) :=
      ⟨_, rfl, sends_tunnels (fun _ incidental => incidental) ts⟩
    exact tunnelled.trans (.send (sends_setupMessage (fun _ incidental => incidental) _))
  obtain ⟨nothing, running, present, quiet⟩ := proceed_quiet
    (((c.withTestsuite ts).send (tunnels ts)).send [(c.withTestsuite ts).setupMessage])
  have prompts := opened.prompts.trans quiet
  refine ⟨poses_of_ok handled running (proceed_begun _) present ?_, ?_⟩
  · rw [nothing]
    exact prompts
  · rw [(survives_of_ok handled).2, nothing]

/-- The end of the configuration asks for the start of the test case. -/
theorem announceReady_poses (current : c.testsuite.currentTc = some i) :
    ∃ ready, c.announceReady = .ok () ready ∧ ready.state = .waitingForTestcaseStart ∧
      ready.testsuite.currentTc = some i ∧ c.Prompts ready.prompt?.toList ready := by
  refine ⟨(c.withState .waitingForTestcaseStart).send
    [.testCaseReady (configurationInfo (td.config i)) (verboseTestcaseInfo c.testsuite i)], ?_, rfl,
      current, _, rfl, ?_⟩
  · rw [announceReady]
    simp only [current]
  · simp [prompt?, current, Message.prompt?, TtMessage.ofMessage?, Option.filter,
      TtMessageType.awaited, readyPrompt, verboseTestcaseInfo, testcaseInfo]

/-- An input that announces the current test case asks for its start. -/
theorem poses_ready {input : Input} (handled : c.handle upper input = .ok true after)
    (state : after.state = .waitingForTestcaseStart) (current : after.testsuite.currentTc = some i)
    (prompts : c.Prompts after.prompt?.toList after) : Poses upper c input := by
  have begun : after.Begun := by
    rintro (wrong | wrong) <;> cases state.symm.trans wrong
  exact poses_of_ok handled (by simp [state]) begun (fun _ => by simp [current]) prompts

/-- The timer of the configuration expires. -/
theorem poses_timeout (state : c.state = .waitingForIutConfigurationExecuted)
    (current : c.testsuite.currentTc = some i) : Poses upper c .timeout := by
  obtain ⟨ready, announced, later, turn, prompts⟩ := announceReady_poses current
  have handled : c.handle upper .timeout = .ok true ready := by
    rw [handle_timeout state, announced, andThen_ok]
  exact poses_ready _ handled later turn prompts

/-- A node is reported as configured: the configuration ends, or nothing is published. -/
theorem poses_report {event : Event} (report : AutomatedSession.IsConfiguration event)
    (waits : c.Waiting) (current : c.testsuite.currentTc = some i) :
    (c.prompt? = none ∧ Poses upper c (.event event services)) ∨
      Survives upper c (.event event services) ∧
        (next upper c (.event event services)).state = c.state ∧
        (next upper c (.event event services)).testsuite.currentTc = some i ∧
        (next upper c (.event event services)).prompt? = c.prompt? ∧
        (next upper c (.event event services)).bus = c.bus := by
  have handled : c.handle upper (.event event services) =
      andThen (c.recordNode (some event)) (.ok true) := handle_report report waits
  have silent {after : Coordinator td} (state : after.state = c.state)
      (turn : after.testsuite.currentTc = c.testsuite.currentTc) : after.prompt? = c.prompt? := by
    rcases waits with waiting | waiting <;> simp [prompt?, state, turn, waiting, current]
  rw [recordNode] at handled
  rcases nodeUpdate_report report with ⟨node, address, updated⟩ | ⟨message, refused⟩
  · simp only [updated] at handled
    by_cases complete : (c.testsuite.updateNodeAddress node address).checkAllIutNodesConfigured
    · rcases waits with state | state
      · simp only [withTestsuite_testsuite, complete, ↓reduceIte, state] at handled
        obtain ⟨ready, announced, later, turn, prompts⟩ := announceReady_poses
          (c := c.withTestsuite (c.testsuite.updateNodeAddress node address)) (i := i) current
        rw [announced, andThen_ok] at handled
        exact .inl ⟨by simp [prompt?, state], poses_ready _ handled later turn prompts⟩
      · have elsewhere : ¬ FsmState.waitingForTestcaseStart =
          .waitingForIutConfigurationExecuted := by decide
        simp only [withTestsuite_testsuite, complete, ↓reduceIte, state, elsewhere,
          andThen_ok] at handled
        obtain ⟨survives, same⟩ := survives_of_ok handled
        rw [same]
        exact .inr ⟨survives, rfl, current, silent rfl rfl, rfl⟩
    · simp only [withTestsuite_testsuite, complete, Bool.false_eq_true, ↓reduceIte,
        andThen_ok] at handled
      obtain ⟨survives, same⟩ := survives_of_ok handled
      rw [same]
      exact .inr ⟨survives, rfl, current, silent rfl rfl, rfl⟩
  · simp only [refused, andThen_error] at handled
    have survives : Survives upper c (.event event services) := by
      intro exception raises
      rw [handled] at raises
      cases raises
      rfl
    have same : next upper c (.event event services) = c := by
      rw [next, handled, finalState_error]
    rw [same]
    exact .inr ⟨survives, rfl, current, rfl, rfl⟩

/-- The announced test case is skipped. -/
theorem poses_skip (state : c.state = .waitingForTestcaseStart)
    (current : c.testsuite.currentTc = some i)
    (configuring : (c.testsuite.testcase i).Configuring) :
    Poses upper c (.event (.testCaseSkip (some (some (td.id i)))) services) := by
  have accepted : ongoing c.state = true := by rw [state]; rfl
  have idle : ¬ (c.testsuite.testcase i).state = some .executing := by
    rw [configuring.state]
    decide
  have skipped : c.skipTestcase services (some (some (td.id i))) =
      .ok () (c.withTestsuite (c.testsuite.skip i)).proceed := by
    simp [skipTestcase, current, Option.filter, skipCurrent, idle]
  have handled : c.handle upper (.event (.testCaseSkip (some (some (td.id i)))) services) =
      .ok true (c.withTestsuite (c.testsuite.skip i)).proceed := by
    rw [handle_testCaseSkip accepted, skipped, andThen_ok]
  obtain ⟨nothing, running, present, quiet⟩ := proceed_quiet (c.withTestsuite (c.testsuite.skip i))
  refine poses_of_ok handled running (proceed_begun _) present ?_
  rw [nothing]
  exact quiet

/-- The announced test case is started, and its first step is asked for. -/
theorem poses_start (readable : ¬ services.Unreadable) (state : c.state = .waitingForTestcaseStart)
    (current : c.testsuite.currentTc = some i)
    (configuring : (c.testsuite.testcase i).Configuring)
    (possible : ∃ step ∈ (c.testsuite.testcase i).sequence, step.type.isExecutable = true)
    (id : PyString.Attribute) : Poses upper c (.event (.testCaseStart id) services) := by
  obtain ⟨result, advance, handled⟩ :=
    handle_execution upper services id (.inr state) current configuring
  have here : ((c.modify i (·.changeState .executing)).send
      (sniffingMessages i)).testsuite.testcase i =
        (c.testsuite.testcase i).changeState .executing := by
    simp [modify]
  have steps : ((c.testsuite.testcase i).changeState .executing).sequence ≠ [] := by
    obtain ⟨step, member, -⟩ := possible
    exact List.ne_nil_of_mem member
  obtain ⟨after, rfl, running, begun, present, prompts⟩ :=
    advance.poses readable (by rwa [here]) current (by rw [here]; exact configuring.start)
      (by rw [here]; exact configuring.toAtStart.behind)
  -- A test case with a step to execute stays the current one, so its start can be announced.
  have turn : after.testsuite.currentTc = some i := by
    rcases executed_cases configuring advance with ⟨-, same, result, kept⟩ | ⟨blocked, -⟩ |
      ⟨blocked, -⟩
    · cases result
      rw [kept, current]
    all_goals
      obtain ⟨step, member, executable⟩ := possible
      rw [blocked step member] at executable
      cases executable
  have announced : after.announceStarted =
      .ok () (after.send [.testCaseStarted (testcaseInfo after.testsuite i)]) := by
    rw [announceStarted]
    simp only [turn]
  rw [andThen_ok, announced, andThen_ok] at handled
  have sniffs : c.Prompts [] ((c.modify i (·.changeState .executing)).send
      (sniffingMessages i)) := by
    refine ⟨sniffingMessages i, rfl, List.filterMap_eq_nil_iff.mpr fun message member => ?_⟩
    rcases sniffingMessages_mem member with ⟨_, _, _, _, rfl⟩ | ⟨_, rfl⟩ <;> rfl
  have told : after.Prompts [] (after.send [.testCaseStarted (testcaseInfo after.testsuite i)]) :=
    ⟨_, rfl, rfl⟩
  refine poses_of_ok handled running begun present ?_
  have same : (after.send [.testCaseStarted (testcaseInfo after.testsuite i)]).prompt? =
      after.prompt? := rfl
  rw [same]
  simpa using (sniffs.trans prompts).trans told

/-- The answer to the current step is followed by the next question. -/
theorem poses_answer (readable : ¬ services.Unreadable) (state : c.state = .waitingForStepExecuted)
    (current : c.testsuite.currentTc = some i) (executing : (c.testsuite.testcase i).Executing)
    (nothing : (c.testsuite.testcase i).NothingPassed) {k : Nat} {step : Step} {event : Event}
    (at_step : (c.testsuite.testcase i).currentStep = some k)
    (found : (c.testsuite.testcase i).sequence[k]? = some step)
    (kind : controlEventsTriggers event = some .stepExecuted) (complete : malformed event = false)
    (filled : blank step.type event = false) (about : stepKind event = some step.type) :
    Poses upper c (.event event services) := by
  obtain ⟨result, handled, advance⟩ :=
    handle_answered upper services state current executing at_step found kind complete filled
  have answered : c.answered i k step event = c.modify i (·.modifyStep k (answerTo event)) :=
    if_pos about
  have ongoing := answered_current event executing at_step found
  rw [answered] at advance ongoing
  have here : (c.modify i (·.modifyStep k (answerTo event))).testsuite.testcase i =
      (c.testsuite.testcase i).modifyStep k (answerTo event) := by
    simp [modify]
  have steps : ((c.testsuite.testcase i).modifyStep k (answerTo event)).sequence ≠ [] := by
    have length : ((c.testsuite.testcase i).modifyStep k (answerTo event)).script.length =
        (c.testsuite.testcase i).script.length := by
      rw [TestCase.script_modifyStep _ k (script_answerTo event)]
    have inside : k < (c.testsuite.testcase i).sequence.length :=
      (List.getElem?_eq_some_iff.mp found).1
    simp only [TestCase.script, List.length_map] at length
    intro empty
    rw [empty] at length
    simp only [List.length_nil] at length
    omega
  have behind : ((c.testsuite.testcase i).modifyStep k (answerTo event)).Behind :=
    nothing.answered at_step (answerTo_state _)
  obtain ⟨after, rfl, running, begun, present, prompts⟩ :=
    advance.poses readable (by rwa [here]) current ongoing (by rwa [here])
  rw [andThen_ok] at handled
  exact poses_of_ok handled running begun present prompts

end Events

section Answers

variable {testsuiteName : String}

/-- A prompt announces the current test case, or asks for its current step. -/
inductive Prompted (c : Coordinator td) (prompt : TtMessage) : Prop
  | ready (i : Fin td.size) : c.state = .waitingForTestcaseStart → c.testsuite.currentTc = some i →
      prompt = readyPrompt i → Prompted c prompt
  | step (i : Fin td.size) (k : Nat) (step : Step) : c.state = .waitingForStepExecuted →
      c.testsuite.currentTc = some i → (c.testsuite.testcase i).currentStep = some k →
      (c.testsuite.testcase i).sequence[k]? = some step → stepPrompt i step = some prompt →
      Prompted c prompt

/-- A coordinator that waits has prompted for it. -/
theorem prompted_of_prompt {prompt : TtMessage} (waits : c.prompt? = some prompt) :
    Prompted c prompt := by
  unfold prompt? at waits
  split at waits
  · rename_i i state current
    exact .ready i state current (Option.some.inj waits).symm
  · rename_i i state current
    obtain ⟨step, located, asked⟩ := Option.bind_eq_some_iff.mp waits
    obtain ⟨k, at_step, found⟩ := Option.bind_eq_some_iff.mp located
    exact .step i k step state current at_step found asked
  · cases waits

/-- Every prompt tells the test case. -/
theorem Prompted.told {prompt : TtMessage} (prompted : Prompted c prompt) :
    ∃ id, prompt.testcaseId = some (some id) := by
  cases prompted with
  | ready i _ _ same =>
    rw [same]
    exact ⟨_, rfl⟩
  | step i k step _ _ _ _ asked =>
    unfold stepPrompt at asked
    split at asked <;> cases asked <;> exact ⟨_, rfl⟩

/-- The coordinator is sound: it has survived, no step has been passed over, and a test case that
waits is the current one. -/
structure Sound (upper : String → String) (testsuiteName : String) (c : Coordinator td) : Prop where
  /-- It has survived. -/
  reached : Reached upper testsuiteName (Survives upper) c
  /-- No step has been passed over. -/
  nothing : c.NothingPassed
  /-- A test case that waits is the current one. -/
  present : c.Waiting → c.testsuite.currentTc ≠ none

/-- A sound coordinator is coherent. -/
theorem Sound.coherent (sound : Sound upper testsuiteName c) : Coherent c :=
  reached_coherent (fun _ _ survives => .inr survives) sound.reached

/-- A sound coordinator that survives an input that fits stays sound. -/
theorem Sound.next {input : Input} (sound : Sound upper testsuiteName c)
    (survives : Survives upper c input) (fits : c.Fits input)
    (present : (next upper c input).Waiting → (next upper c input).testsuite.currentTc ≠ none) :
    Sound upper testsuiteName (next upper c input) := by
  have move := reached_move (fun _ _ survives => .inr survives) sound.reached survives
  exact ⟨sound.reached.step survives, move.nothingPassed sound.coherent fits sound.nothing, present⟩

/-- What is no answer to a step fits. -/
theorem fits_of_kind {event : Event} {services : Services}
    (kind : controlEventsTriggers event ≠ some .stepExecuted) : c.Fits (.event event services) :=
  fun _ _ _ _ _ wrong => absurd wrong kind

/-- **An answer to the prompt is survived, and leads to the next question.** -/
theorem poses_answered {services : Services} {prompt : TtMessage} {event : Event}
    {node : Option String} (sound : Sound upper testsuiteName c)
    (executable : ∀ i, ∃ step ∈ (td.description i).sequence, step.type.isExecutable = true)
    (readable : ¬ services.Unreadable) (prompted : Prompted c prompt)
    (answers : Matter.Concerns node prompt (.answered event)) :
    Poses upper c (.event event services) ∧ c.Fits (.event event services) := by
  obtain ⟨answer, answers, heard⟩ := answers
  cases prompted with
  | ready i state current same =>
    have configuring := sound.coherent.configuring (.inr state) current
    rw [same] at answers
    rcases answers with ⟨id, rfl⟩ | ⟨id, told, rfl⟩
    · cases heard
      have scripted : c.Scripted :=
        reached_scripted (fun _ _ survives => .inr survives) sound.reached
      obtain ⟨described, member, executes⟩ := executable i
      obtain ⟨step, inside, like⟩ := scripted.described member
      refine ⟨poses_start _ _ readable state current configuring ⟨step, inside, ?_⟩ _,
        fits_of_kind (by simp [controlEventsTriggers])⟩
      rwa [Step.type_of_script like]
    · cases heard
      obtain rfl : some (td.id i) = id := Option.some.inj told
      exact ⟨poses_skip _ _ state current configuring,
        fits_of_kind (by simp [controlEventsTriggers])⟩
  | step i k step state current at_step found asked =>
    obtain ⟨j, here, executing⟩ := sound.coherent.executes state
    obtain rfl : j = i := Option.some.inj (here.symm.trans current)
    obtain ⟨kind, complete, filled, about⟩ : controlEventsTriggers event = some .stepExecuted ∧
        malformed event = false ∧ blank step.type event = false ∧ stepKind event = some step.type := by
      unfold stepPrompt at asked
      split at asked
      · rename_i type
        cases asked
        obtain ⟨_, _, rfl⟩ := answers
        cases heard
        exact ⟨rfl, rfl, by rw [type]; rfl, by rw [type]; rfl⟩
      · rename_i type
        cases asked
        obtain ⟨_, _, rfl⟩ := answers
        cases heard
        exact ⟨rfl, rfl, by rw [type]; rfl, by rw [type]; rfl⟩
      · cases asked
    refine ⟨poses_answer _ _ readable state current executing (sound.nothing j) at_step found kind
      complete filled about, ?_⟩
    intro l m other awaits located _
    obtain ⟨-, turn, position, -⟩ := awaits
    obtain rfl : j = l := Option.some.inj (current.symm.trans turn)
    obtain rfl : k = m := Option.some.inj (at_step.symm.trans position)
    obtain rfl : step = other := Option.some.inj (found.symm.trans located)
    exact .inl about

end Answers

end Coordinator

end Ioppytest
