import Ioppytest.Properties.Rest
import Ioppytest.TestCoordinator.Sending

/-!
# What the coordinator announces

The configuration of the testing tool, the start of the suite, the steps to execute and the report
of the session are published on leaving and entering states. A transition from a state to itself
leaves and enters it, so an event that does not advance the session announces the same once more:
a configuration message in four of the states, and a request for skipping another test case in two.
Without such events every announcement is made once.
-/

namespace Ioppytest

open Raising

variable {td : TestDescriptions}

/-- What is announced in the course of a session. -/
inductive Announcement where
  /-- The testing tool is configured. -/
  | toolConfigured
  /-- The suite is started. -/
  | suiteStarted
  /-- A step is to be executed. -/
  | step (testcaseId stepId : String)
  /-- The report of the session. -/
  | suiteReport
  deriving DecidableEq

namespace Announcement

/-- The step that an announcement is about. -/
def step? : Announcement → Option (String × String)
  | .step testcaseId stepId => some (testcaseId, stepId)
  | _ => none

end Announcement

/-- What a message announces. -/
def Message.announcement : Message → Option Announcement
  | .testingToolConfigured _ => some .toolConfigured
  | .testSuiteStarted => some .suiteStarted
  | .stepStimuliExecute _ step tc _ => some (.step tc.testcaseId step.stepId)
  | .stepVerifyExecute _ step tc => some (.step tc.testcaseId step.stepId)
  | .testSuiteReport _ => some .suiteReport
  | _ => none

/-- What messages announce. -/
def announcements (messages : List Message) : List Announcement :=
  messages.filterMap Message.announcement

/-- What two parts of the bus announce. -/
@[simp] theorem announcements_append (first second : List Message) :
    announcements (first ++ second) = announcements first ++ announcements second :=
  List.filterMap_append

namespace Coordinator

variable {upper : String → String} {testsuiteName : String} {c : Coordinator td} {input : Input}

/-- The report that is published with the end of a session. -/
def closing (state : FsmState) : List Announcement :=
  if state = .testsuiteFinished then [.suiteReport] else []

/-- The ids of the awaited step and of its test case. -/
def execution (c : Coordinator td) : List (String × String) :=
  match c.awaited with
  | some (i, k) =>
    ((c.testsuite.testcase i).sequence[k]?.map fun step => (td.id i, step.id)).toList
  | none => []

/-- The execution of a step that begins between two states of the coordinator. -/
def begins (before after : Coordinator td) : List (String × String) :=
  if after.awaited = before.awaited then [] else after.execution

/-- Nothing is announced between two states of the coordinator. -/
def AnnouncesNothing (before after : Coordinator td) : Prop :=
  ∃ sent, after.bus = before.bus ++ sent ∧ announcements sent = []

/-- A configuration message makes the announcements of the state once more. -/
def RepeatsOnNode (c : Coordinator td) : Prop :=
  (c.state = .waitingForTestsuiteConfig ∧ 0 < td.size) ∨ c.state = .waitingForTestsuiteStart ∨
    c.state = .waitingForStepExecuted ∨ c.state = .testsuiteFinished

/-- A request for skipping another test case makes the announcements of the state once more. -/
def RepeatsOnSkip (c : Coordinator td) : Prop :=
  c.state = .waitingForTestsuiteConfig ∨ c.state = .waitingForStepExecuted

/-- The input does not make an announcement once more. -/
def Advancing (c : Coordinator td) : Input → Prop
  | .event (.testCaseSkip (some (some id))) _ => ∀ j, td.find id = some j →
      c.testsuite.currentTc ≠ some j → ¬ c.RepeatsOnSkip
  | .event event _ => controlEventsTriggers event = some .iutConfigurationExecuted →
      ¬ c.RepeatsOnNode
  | _ => True

section Sent

/-- Routine messages announce nothing. -/
theorem announcements_routine {sent : List Message}
    (routine : ∀ message ∈ sent, message.Routine) : announcements sent = [] := by
  rw [announcements, List.filterMap_eq_nil_iff]
  intro message member
  have here := routine message member
  cases message with
  | testingToolConfigured _ | testSuiteStarted | stepStimuliExecute _ _ _ _
  | stepVerifyExecute _ _ _ | testSuiteReport _ => exact here.elim
  | _ => rfl

/-- Opening the tunnels announces nothing. -/
theorem announcements_tunnels (ts : TestSuite td) : announcements (tunnels ts) = [] :=
  announcements_routine (routine_tunnels ts)

/-- What leaving the setup announces. -/
theorem announcements_setup (setup : c.Setup) : announcements [c.setupMessage] =
    [if c.state = .waitingForTestsuiteConfig then .toolConfigured else .suiteStarted] := by
  rcases setup with state | state <;> simp [setupMessage, state, announcements,
    Message.announcement]

/-- What the message for a step announces. -/
theorem announcements_step {i : Fin td.size} {step : Step}
    (executable : step.type.isExecutable = true) :
    announcements (c.announceStep i step) = [.step (td.id i) step.id] := by
  unfold announceStep Handler.stepExecuteMessage
  cases type : step.type with
  | stimuli => rfl
  | verify => rfl
  | check | feature =>
    rw [type] at executable
    cases executable

/-- Going on to the next test case announces the end of the session at most. -/
theorem announcements_proceed (c : Coordinator td) :
    announcements c.proceed.bus = announcements c.bus ++ closing c.proceed.state := by
  rcases proceed_sends c with ⟨state, sent, bus, asks⟩ | ⟨state, bus⟩
  · rw [bus, announcements_append, announcements_routine (routine_configurationExecute asks), state]
    rfl
  · rw [bus, announcements_append, state]
    rfl

/-- Configuring a test case announces nothing. -/
theorem announcements_configure (c : Coordinator td) (i : Fin td.size) :
    announcements (c.configure i).bus = announcements c.bus := by
  obtain ⟨sent, bus, asks⟩ := configure_sends c i
  rw [bus, announcements_append, announcements_routine (routine_configurationExecute asks),
    List.append_nil]

/-- Recording a node announces nothing. -/
theorem Recorded.announces {before after : Coordinator td} (recorded : Recorded before after) :
    announcements after.bus = announcements before.bus := by
  obtain ⟨ready, bus, routine⟩ := recorded.routine
  rw [bus, announcements_append, announcements_routine routine, List.append_nil]

end Sent

/-- Elsewhere no step is executed. -/
theorem execution_none (elsewhere : c.state ≠ .waitingForStepExecuted) : c.execution = [] := by
  rw [execution, awaited_none elsewhere]

/-- Going on with the next test case leaves no step awaited. -/
theorem proceed_elsewhere (c : Coordinator td) : c.proceed.state ≠ .waitingForStepExecuted := by
  rcases proceed_state c with state | state <;> rw [state] <;> decide

/-- Executing the next step announces the execution that it begins, or the end of the session. -/
theorem Advance.announces {services : Services} {i : Fin td.size}
    {result : EStateM.Result PyException (Coordinator td) Unit}
    (advance : Advance services c i result) (current : c.testsuite.currentTc = some i)
    (ongoing : (c.testsuite.testcase i).Ongoing) :
    announcements (finalState result).bus = announcements c.bus ++
      (finalState result).execution.map (fun pair => .step pair.1 pair.2) ++
        closing (finalState result).state := by
  cases advance with
  | @execute k tc step fetched found executable executing =>
    obtain ⟨-, -, -, -, -, -, after⟩ := ongoing.nextStep_some fetched
    have begun : ((c.fetch i tc).send ((c.fetch i tc).announceStep i step)).execution =
        [(td.id i, step.id)] := by
      have at_step : tc.currentStep = some k := by rw [after]; rfl
      have here : ((c.fetch i tc).testsuite.testcase i) = tc.changeState .executing := by
        simp [fetch, modify]
      have same : (c.fetch i tc).testsuite.currentTc = some i := current
      have steps : (tc.changeState .executing).sequence = tc.sequence := rfl
      have position : (tc.changeState .executing).currentStep = some k := at_step
      have state : (c.fetch i tc).state = .waitingForStepExecuted := rfl
      simp [execution, awaited, here, same, steps, position, state, found]
    rw [finalState_ok, begun, send_bus, announcements_append, announcements_step executable]
    simp [closing, fetch, modify]
  | @refuse tc _ _ _ _ =>
    have idle : (c.exhaust i tc).execution = [] := execution_none fun wrong => by cases wrong
    rw [finalState_error, idle]
    simp [closing, exhaust, modify]
  | @interrupt tc exception requests fetched _ outcome =>
    have silent := announcements_routine
      (routine_requests services c i (tc.changeState .readyForAnalysis))
    rw [outcome] at silent
    have sent : announcements requests = [] := silent
    have idle : ((c.exhaust i tc).consulted services i (·.analyzing) requests).execution = [] :=
      execution_none fun wrong => by cases wrong
    rw [finalState_error, idle]
    simp [closing, exhaust, modify, sent]
  | @complete tc report requests fetched _ outcome =>
    have silent := announcements_routine
      (routine_requests services c i (tc.changeState .readyForAnalysis))
    rw [outcome] at silent
    have sent : announcements requests = [] := silent
    have told (info : TestCaseInfo) : announcements
        [.testCaseFinished info, .testCaseVerdict report info] = [] := rfl
    have bus : (c.exhaust i tc).bus = c.bus := rfl
    rw [finalState_ok, announcements_proceed, execution_none (proceed_elsewhere _), send_bus,
      send_bus, announcements_append, announcements_append, told, sent]
    simp [modify, bus]

/-- What has been announced in a session, given the executions of steps that have begun. -/
structure Announced (c : Coordinator td) (begun : List (String × String)) : Prop where
  /-- Before the start only the testing tool can have been configured. -/
  setup : c.Setup → begun = [] ∧ announcements c.bus =
    if c.state = .waitingForTestsuiteConfig then [] else [.toolConfigured]
  /-- Later, each execution and the report have been announced. -/
  session : c.Begun → ∃ opening, (opening = [.toolConfigured] ∨
      opening = [.toolConfigured, .suiteStarted]) ∧
    announcements c.bus = opening ++ begun.map (fun pair => .step pair.1 pair.2) ++
      closing c.state

/-- Without an announcement and a change of phase, everything announced is the same. -/
theorem Announced.of_same {begun : List (String × String)} {after : Coordinator td}
    (announced : c.Announced begun) (bus : announcements after.bus = announcements c.bus)
    (state : after.state = c.state) : after.Announced begun := by
  constructor
  · intro setup
    rw [bus, state]
    exact announced.setup (by rwa [Setup, state] at setup)
  · intro later
    rw [bus, state]
    exact announced.session (by rwa [Begun, Setup, state] at later)

/-- The announcements of a session that goes on. -/
theorem Announced.proceed {begun new : List (String × String)} {after : Coordinator td}
    (announced : c.Announced begun) (late : c.Begun) (going : c.state ≠ .testsuiteFinished)
    (later : after.Begun)
    (bus : announcements after.bus = announcements c.bus ++
      new.map (fun pair => .step pair.1 pair.2) ++ closing after.state) :
    after.Announced (begun ++ new) := by
  refine ⟨fun setup => absurd setup later, fun _ => ?_⟩
  obtain ⟨opening, known, earlier⟩ := announced.session late
  refine ⟨opening, known, ?_⟩
  rw [bus, earlier, closing, if_neg going]
  simp

/-- An execution that begins is the one that is under way, unless it was before. -/
theorem begins_fresh {after : Coordinator td}
    (fresh : c.awaited = none ∨ after.awaited ≠ c.awaited) : c.begins after = after.execution := by
  unfold begins
  split
  · rename_i same
    have idle := fresh.resolve_right fun apart => apart same
    rw [execution, same, idle]
  · rfl

/-- Without a change of the awaited step no execution begins. -/
theorem begins_same {after : Coordinator td} (same : after.awaited = c.awaited) :
    c.begins after = [] := if_pos same

/-- When no step is awaited afterwards, no execution begins. -/
theorem begins_elsewhere {after : Coordinator td}
    (elsewhere : after.state ≠ .waitingForStepExecuted) : c.begins after = [] := by
  unfold begins
  split
  · rfl
  · exact execution_none elsewhere

/-- Recording a node leaves the step that is awaited. -/
theorem Recorded.awaited {before after : Coordinator td} (recorded : Recorded before after) :
    after.awaited = before.awaited ∧ after.execution = before.execution := by
  have same : after.awaited = before.awaited := by
    unfold Coordinator.awaited
    rw [recorded.currentTc, recorded.testcase]
    rcases recorded.state with state | ⟨earlier, later⟩
    · rw [state]
    · rw [earlier, later]
      rfl
  refine ⟨same, ?_⟩
  rw [execution, same, recorded.testcase]
  rfl

/-- The handling of a node keeps what was announced. -/
theorem Recorded.announced {before after : Coordinator td} {begun : List (String × String)}
    (recorded : Recorded before after) (announced : before.Announced begun) :
    after.Announced begun := by
  rcases recorded.state with state | ⟨earlier, later⟩
  · exact announced.of_same recorded.announces state
  · have late : before.Begun := by
      rintro (wrong | wrong) <;> cases earlier.symm.trans wrong
    refine ⟨?_, fun _ => ?_⟩
    · rintro (wrong | wrong) <;> cases later.symm.trans wrong
    · obtain ⟨opening, known, same⟩ := announced.session late
      refine ⟨opening, known, ?_⟩
      rw [recorded.announces, same, earlier, later]
      rfl

/-- Executing the next step leaves no step awaited that was left behind. -/
theorem Advance.awaited_ne {services : Services} {i : Fin td.size} {k : Nat}
    {result : EStateM.Result PyException (Coordinator td) Unit}
    (advance : Advance services c i result) (current : c.testsuite.currentTc = some i)
    (ongoing : (c.testsuite.testcase i).Ongoing)
    (before : k < (c.testsuite.testcase i).stepIt) :
    (finalState result).awaited ≠ some (i, k) := by
  cases advance with
  | @execute later tc step fetched _ _ _ =>
    obtain ⟨-, -, -, -, low, -, after⟩ := ongoing.nextStep_some fetched
    have at_step : tc.currentStep = some later := by rw [after]; rfl
    have here : ((c.fetch i tc).testsuite.testcase i).currentStep = some later := by
      simpa [fetch, modify, TestCase.changeState] using at_step
    have same : (c.fetch i tc).testsuite.currentTc = some i := current
    have state : (c.fetch i tc).state = .waitingForStepExecuted := rfl
    have apart : later ≠ k := by omega
    simp [Coordinator.awaited, same, here, state, apart]
  | refuse _ _ _ =>
    rw [awaited_none fun wrong => by cases wrong]
    simp
  | interrupt _ _ _ =>
    rw [awaited_none fun wrong => by cases wrong]
    simp
  | complete _ _ _ =>
    rw [finalState_ok, awaited_none (proceed_elsewhere _)]
    simp

/-- What has been announced afterwards, the execution that begins included. -/
def Follows (c : Coordinator td) (begun : List (String × String)) (after : Coordinator td) : Prop :=
  after.Announced (begun ++ c.begins after)

/-- Executing the next step announces what it begins. -/
theorem Advance.follows {before : Coordinator td} {begun : List (String × String)}
    {services : Services} {i : Fin td.size}
    {result : EStateM.Result PyException (Coordinator td) Unit}
    (advance : Advance services before i result) (announced : c.Announced begun)
    (late : c.Begun) (going : c.state ≠ .testsuiteFinished)
    (bus : announcements before.bus = announcements c.bus)
    (current : before.testsuite.currentTc = some i)
    (ongoing : (before.testsuite.testcase i).Ongoing)
    (fresh : c.awaited = none ∨ (finalState result).awaited ≠ c.awaited) :
    c.Follows begun (finalState result) := by
  have sent := advance.announces current ongoing
  rw [bus] at sent
  rw [Follows, begins_fresh fresh]
  exact announced.proceed late going advance.begun sent

/-- The handling of a node announces nothing. -/
theorem Recorded.follows {before after : Coordinator td} {begun : List (String × String)}
    (recorded : Recorded before after) (follows : c.Follows begun before) :
    c.Follows begun after := by
  have same : c.begins after = c.begins before := by
    unfold begins
    rw [recorded.awaited.1, recorded.awaited.2]
  rw [Follows, same]
  exact recorded.announced follows

/-- Neither does the announcement of a start. -/
theorem Follows.started {after : Coordinator td} {begun : List (String × String)}
    (follows : c.Follows begun after) : c.Follows begun (finalState after.announceStarted) := by
  obtain ⟨messages, sent, routine⟩ := announceStarted_routine after
  rw [sent]
  have same : (after.send messages).Announced (begun ++ c.begins after) := by
    refine Announced.of_same follows ?_ rfl
    rw [send_bus, announcements_append, announcements_routine routine, List.append_nil]
  exact same

/-- A configuration message that advances the session arrives where it repeats nothing. -/
theorem Advancing.node {event : Event} {services : Services}
    (advancing : c.Advancing (.event event services))
    (kind : controlEventsTriggers event = some .iutConfigurationExecuted) : ¬ c.RepeatsOnNode := by
  cases event with
  | configurationExecuted node ipv6Address => exact advancing rfl
  | agentTunStarted message => exact advancing rfl
  | _ => cases kind

/-- **Moves that advance the session announce what they begin, once.** -/
theorem Move.follows {begun : List (String × String)}
    {result : EStateM.Result PyException (Coordinator td) Bool} (move : Move c input result)
    (coherent : Coherent c) (announced : c.Announced begun) (advancing : c.Advancing input) :
    c.Follows begun (finalState result) := by
  have unchanged {after : Coordinator td} (same : after.Announced begun)
      (awaited : after.awaited = c.awaited) : c.Follows begun after := by
    rw [Follows, begins_same awaited, List.append_nil]
    exact same
  have elsewhere {after : Coordinator td} (same : after.Announced begun)
      (apart : after.state ≠ .waitingForStepExecuted) : c.Follows begun after := by
    rw [Follows, begins_elsewhere apart, List.append_nil]
    exact same
  have proceeds {before : Coordinator td} (going : ongoing c.state = true ∨
      c.state = .preparingNextStep) (bus : announcements before.bus = announcements c.bus) :
      before.proceed.Announced begun := by
    have late : c.Begun := by
      rintro (state | state) <;> rw [state] at going <;> rcases going with wrong | wrong <;>
        cases wrong
    have past : c.state ≠ .testsuiteFinished := by
      intro state
      rw [state] at going
      rcases going with wrong | wrong <;> cases wrong
    have sent : announcements before.proceed.bus = announcements c.bus ++
        ([] : List (String × String)).map (fun pair => .step pair.1 pair.2) ++
          closing before.proceed.state := by
      rw [announcements_proceed, bus]
      simp
    simpa using announced.proceed late past (proceed_begun _) sent
  have configures {before : Coordinator td} (i : Fin td.size) (going : ongoing c.state = true)
      (bus : announcements before.bus = announcements c.bus) :
      (before.configure i).Announced begun := by
    have late : c.Begun := by
      rintro (state | state) <;> rw [state] at going <;> cases going
    have past : c.state ≠ .testsuiteFinished := by
      intro state
      rw [state] at going
      cases going
    have later : (before.configure i).Begun := by rintro (wrong | wrong) <;> cases wrong
    have sent : announcements (before.configure i).bus = announcements c.bus ++
        ([] : List (String × String)).map (fun pair => .step pair.1 pair.2) ++
          closing (before.configure i).state := by
      rw [announcements_configure, bus]
      simp [closing, configure]
    simpa using announced.proceed late past later sent
  cases move with
  | ignored => exact unchanged announced rfl
  | refused => exact unchanged announced rfl
  | @empty _ _ after empty setup state _ sent =>
    rw [finalState_error]
    refine elsewhere (announced.of_same ?_ state) ?_
    · rcases sent with sent | sent
      · rw [sent, announcements_append, announcements_tunnels, List.append_nil]
      · rw [sent]
    · rw [state]
      rcases setup with state | state <;> rw [state] <;> decide
  | @configured sessionId users configuration services ts nonempty state skipped =>
    obtain ⟨nothing, earlier⟩ := announced.setup (.inl state)
    refine elsewhere ⟨fun _ => ⟨nothing, ?_⟩, fun late => absurd (.inr rfl) late⟩
      (fun wrong => by cases wrong)
    have setup : (c.withTestsuite ts).Setup := .inl state
    change announcements (c.bus ++ [(c.withTestsuite ts).setupMessage]) = _
    rw [announcements_append, earlier, announcements_setup setup]
    simp [state]
  | @skippedEarly id services j state found =>
    have idle : c.testsuite.currentTc ≠ some j := by
      cases coherent with
      | setup _ idle _ | finished _ idle _ _ _ => simp [idle]
      | waiting waits _ _ _ => rcases waits with wrong | wrong <;> cases state.symm.trans wrong
      | executing _ wrong _ _ _ | stuck _ wrong _ _ _ => cases state.symm.trans wrong
    exact absurd (.inl state) (advancing j found idle)
  | recordedEarly nonempty setup kind =>
    refine absurd ?_ (advancing.node kind)
    exact setup.imp (fun state => ⟨state, nonempty⟩) .inl
  | @started services ts _ setup _ =>
    rw [finalState_ok]
    obtain ⟨nothing, earlier⟩ := announced.setup setup
    subst nothing
    refine elsewhere ⟨fun wrong => absurd wrong (proceed_begun _), fun _ => ?_⟩ (proceed_elsewhere _)
    rw [announcements_proceed, send_bus, send_bus, announcements_append, announcements_append,
      announcements_tunnels, withTestsuite_bus, earlier]
    have setup' : (c.withTestsuite ts).Setup := setup
    rw [announcements_setup setup']
    rcases setup with state | state
    · exact ⟨_, .inl rfl, by simp [state]⟩
    · exact ⟨_, .inr rfl, by simp [state]⟩
  | recordedWaiting _ _ =>
    rw [finalState_andThen_ok]
    exact unchanged ((recordNode_recorded _).announced announced) (recordNode_recorded _).awaited.1
  | recordedExecuting state _ _ _ _ kind =>
    exact absurd (.inr (.inr (.inl state))) (advancing.node kind)
  | recordedFinished state kind => exact absurd (.inr (.inr (.inr state))) (advancing.node kind)
  | retried state current exhausted _ advance =>
    rw [finalState_andThen_ok]
    have late : c.Begun := by rintro (wrong | wrong) <;> cases state.symm.trans wrong
    have going : c.state ≠ .testsuiteFinished := by
      rw [state]
      decide
    have idle : c.awaited = none := awaited_none (by rw [state]; decide)
    have follows := advance.follows announced late going rfl current exhausted.toOngoing (.inl idle)
    exact finalState_andThen follows fun _ later => (recordNode_recorded _).follows later
  | timedOut state =>
    rw [finalState_andThen_ok]
    exact unchanged ((announceReady_recorded state).announced announced)
      (announceReady_recorded state).awaited.1
  | executed waiting current advance =>
    rw [finalState_andThen_ok]
    have late : c.Begun := by
      rintro (wrong | wrong) <;> rw [Waiting, wrong] at waiting <;>
        rcases waiting with state | state <;> cases state
    have going : c.state ≠ .testsuiteFinished := by
      rcases waiting with state | state <;> rw [state] <;> decide
    have idle : c.awaited = none := by
      apply awaited_none
      rcases waiting with state | state <;> rw [state] <;> decide
    have configuring := coherent.configuring waiting current
    have follows := advance.follows announced late going
      (by rw [send_bus, announcements_append, announcements_routine (routine_sniffing _),
        List.append_nil]; rfl)
      current (by simpa [modify] using configuring.start) (.inl idle)
    exact finalState_andThen follows fun _ later => later.started
  | @answered event services i k step result state current executing at_step found _ _ _ advance =>
    rw [finalState_andThen_ok]
    have late : c.Begun := by rintro (wrong | wrong) <;> cases state.symm.trans wrong
    have going : c.state ≠ .testsuiteFinished := by
      rw [state]
      decide
    have bus : announcements (c.answered i k step event).bus = announcements c.bus := by
      unfold Coordinator.answered
      split <;> rfl
    have ongoing := answered_current event executing at_step found
    have waits : c.awaited = some (i, k) := by
      simp [awaited, state, current, at_step]
    have current' : (c.answered i k step event).testsuite.currentTc = some i := by
      rw [answered_currentTc]
      exact current
    have before : k < ((c.answered i k step event).testsuite.testcase i).stepIt := by
      obtain ⟨l, -, located, position, -⟩ := executing.current
      obtain rfl : l = k := Option.some.inj (located.symm.trans at_step)
      unfold Coordinator.answered
      split <;> simp [modify, TestCase.modifyStep, position]
    refine advance.follows announced late going bus current' ongoing (.inr ?_)
    rw [waits]
    exact advance.awaited_ne current' ongoing before
  | restarted accepted _ =>
    rw [finalState_ok]
    refine elsewhere (configures _ accepted ?_) fun wrong => by cases wrong
    rfl
  | selected accepted =>
    rw [finalState_ok]
    apply selectTestcase_rule
    · intro i
      refine elsewhere (configures i accepted ?_) fun wrong => by cases wrong
      rfl
    · refine elsewhere (proceeds (.inl accepted) ?_) (proceed_elsewhere _)
      rfl
  | @skippedCurrent id services i named accepted _ _ =>
    rw [finalState_ok]
    refine elsewhere (proceeds (.inl accepted) ?_) (proceed_elsewhere _)
    rw [send_bus, announcements_append]
    split <;> simp [announcements, Message.announcement]
  | @skippedOther id services j waiting _ _ =>
    rw [finalState_ok]
    refine elsewhere (announced.of_same rfl rfl) ?_
    rcases waiting with state | state <;> rw [withTestsuite_state, state] <;> decide
  | @skippedInstead id services i waiting _ _ =>
    rw [finalState_ok]
    refine elsewhere (announced.of_same rfl rfl) ?_
    rcases waiting with state | state <;> rw [withTestsuite_state, state] <;> decide
  | @skippedExecuting id services i j k step state current _ _ _ found apart =>
    have other : c.testsuite.currentTc ≠ some j := fun same =>
      apart (Option.some.inj (current.symm.trans same))
    exact absurd (.inr state) (advancing j found other)
  | aborted accepted _ =>
    rw [finalState_ok]
    refine elsewhere (proceeds accepted ?_) (proceed_elsewhere _)
    rfl

/-- What is sent is determined by the bus. -/
theorem announcesNothing_iff {after : Coordinator td} {sent : List Message}
    (bus : after.bus = c.bus ++ sent) : c.AnnouncesNothing after ↔ announcements sent = [] := by
  constructor
  · rintro ⟨other, same, nothing⟩
    rw [List.append_cancel_left (bus.symm.trans same)]
    exact nothing
  · exact fun nothing => ⟨sent, bus, nothing⟩

/-- An input that publishes nothing announces nothing. -/
theorem announcesNothing_of_bus {after : Coordinator td} (bus : after.bus = c.bus) :
    c.AnnouncesNothing after := ⟨[], bus.trans (List.append_nil _).symm, rfl⟩

/-- A configuration message announces what entering the state again does. -/
theorem node_announces {event : Event} {services : Services} {left : Coordinator td}
    {sent : List Message} (coherent : Coherent c)
    (kind : controlEventsTriggers event = some .iutConfigurationExecuted)
    (reentered : c.reenter services = .ok () left) (bus : left.bus = c.bus ++ sent) :
    c.AnnouncesNothing (next upper c (.event event services)) ↔ announcements sent = [] := by
  obtain ⟨ready, appended, routine⟩ := (recordNode_recorded (c := left) (some event)).routine
  have silent := announcements_routine routine
  have sends : (next upper c (.event event services)).bus = c.bus ++ (sent ++ ready) := by
    rw [next, handle_configuration kind coherent.resting, reentered, andThen_ok,
      finalState_andThen_ok, appended, bus, List.append_assoc]
  rw [announcesNothing_iff sends, announcements_append, silent, List.append_nil]

/-- A coordinator that is stranded with an open step is stranded again. -/
theorem advance_stranded {i : Fin td.size} (services : Services)
    (current : c.testsuite.currentTc = some i)
    (exhausted : (c.testsuite.testcase i).Exhausted) (blocked : (c.testsuite.testcase i).Open) :
    ∃ exception left, c.advance services = .error exception left ∧ left.bus = c.bus := by
  have advance : Advance services c i (c.advance services) :=
    advance_cases current exhausted.toOngoing
  generalize c.advance services = result at advance
  cases advance with
  | execute wrong _ _ _ => cases exhausted.nextStep.symm.trans wrong
  | refuse _ _ _ => exact ⟨_, _, rfl, rfl⟩
  | interrupt fetched exhausted' outcome =>
    have ending := finishOutcome_ending services (td.id i) (c.analyzeRequest i) exhausted'
    rw [outcome] at ending
    have left := (exhaust_open exhausted.toOngoing fetched).mpr blocked
    cases ending with
    | unreadable complete _ _ _ => exact absurd left (not_open_of_complete complete)
  | complete fetched exhausted' outcome =>
    have ending := finishOutcome_ending services (td.id i) (c.analyzeRequest i) exhausted'
    rw [outcome] at ending
    have left := (exhaust_open exhausted.toOngoing fetched).mpr blocked
    cases ending with
    | completed complete _ _ => exact absurd left (not_open_of_complete complete)

/-- Entering `waiting_for_step_executed` again announces the step once more. -/
theorem Coherent.reenter_executing (coherent : Coherent c) (services : Services)
    (state : c.state = .waitingForStepExecuted) :
    ∃ sent, c.reenter services = .ok () (c.send sent) ∧ announcements sent ≠ [] := by
  cases coherent with
  | executing i _ current _ executing =>
    obtain ⟨k, step, at_step, -, found, -, executable⟩ := executing.current
    refine ⟨c.announceStep i step, ?_, ?_⟩
    · simp [Coordinator.reenter, state, announcement_executing current at_step found]
    · rw [announcements_step executable]
      simp
  | setup wrong _ _ | waiting wrong _ _ _ =>
    rcases wrong with wrong | wrong <;> cases state.symm.trans wrong
  | stuck _ wrong _ _ _ | finished wrong _ _ _ _ => cases state.symm.trans wrong

/-- **A configuration message announces nothing exactly when its state does not on being entered and
left.** -/
theorem node_announcesNothing {event : Event} {services : Services} (coherent : Coherent c)
    (stranded : c.Stranded)
    (kind : controlEventsTriggers event = some .iutConfigurationExecuted) :
    c.AnnouncesNothing (next upper c (.event event services)) ↔ ¬ c.RepeatsOnNode := by
  by_cases repeats : c.RepeatsOnNode
  · refine iff_of_false ?_ (not_not_intro repeats)
    have nonempty : 0 < td.size := by
      rcases repeats with ⟨-, nonempty⟩ | state | state | state
      · exact nonempty
      · cases coherent with
        | setup _ _ nonempty => exact nonempty state
        | waiting _ nonempty _ _ | finished _ _ nonempty _ _ => exact nonempty
        | executing i _ _ _ _ | stuck i _ _ _ _ => exact i.pos
      · exact coherent.nonempty (by rw [state]; rfl)
      · cases coherent with
        | finished _ _ nonempty _ _ | waiting _ nonempty _ _ => exact nonempty
        | setup early _ _ => rcases early with wrong | wrong <;> cases state.symm.trans wrong
        | executing i _ _ _ _ | stuck i _ _ _ _ => exact i.pos
    have filled : td.size ≠ 0 := Nat.ne_of_gt nonempty
    rcases repeats with ⟨state, -⟩ | state | state | state
    · have reentered : c.reenter services = .ok () (c.send
          [.testingToolConfigured (testsuiteConfiguration c.testsuite)]) := by
        simp [reenter, state, filled]
      rw [node_announces coherent kind reentered rfl]
      simp [announcements, Message.announcement]
    · have reentered : c.reenter services = .ok () (c.send [.testSuiteStarted]) := by
        simp [reenter, state]
      rw [node_announces coherent kind reentered rfl]
      simp [announcements, Message.announcement]
    · obtain ⟨sent, reentered, announces⟩ := coherent.reenter_executing services state
      rw [node_announces coherent kind reentered rfl]
      exact announces
    · have reentered : c.reenter services = .ok () c.conclude := by
        simp [reenter, state]
      rw [node_announces coherent kind reentered rfl]
      simp [announcements, Message.announcement]
  · refine iff_of_true ?_ repeats
    have silent (reentered : c.reenter services = .ok () c) :
        c.AnnouncesNothing (next upper c (.event event services)) :=
      (node_announces coherent kind reentered (List.append_nil _).symm).mpr rfl
    cases coherent with
    | setup early idle nonempty =>
      rcases early with state | state
      · have empty : td.size = 0 := by
          by_contra filled
          exact repeats (.inl ⟨state, Nat.pos_of_ne_zero filled⟩)
        apply announcesNothing_of_bus
        rw [next, handle_configuration kind (by rw [state]; rfl)]
        simp [reenter, state, empty]
      · exact absurd (.inr (.inl state)) repeats
    | waiting waits _ _ _ =>
      apply silent
      rcases waits with state | state <;> simp [reenter, state]
    | executing _ state _ _ _ => exact absurd (.inr (.inr (.inl state))) repeats
    | finished state _ _ _ _ => exact absurd (.inr (.inr (.inr state))) repeats
    | stuck i state current others exhausted =>
      obtain ⟨j, here, blocked⟩ := stranded state
      obtain rfl : j = i := Option.some.inj (here.symm.trans current)
      obtain ⟨exception, left, raises, bus⟩ :=
        advance_stranded services current exhausted blocked
      apply announcesNothing_of_bus
      rw [next, handle_configuration kind (by rw [state]; rfl)]
      simp [reenter, state, raises, bus]

/-- **A request for skipping another test case announces nothing exactly when its state does not on
being entered and left.** -/
theorem skip_announcesNothing {id : String} {services : Services} {j : Fin td.size}
    (coherent : Coherent c) (found : td.find id = some j)
    (apart : c.testsuite.currentTc ≠ some j) :
    c.AnnouncesNothing (next upper c (.event (.testCaseSkip (some (some id))) services)) ↔
      ¬ c.RepeatsOnSkip := by
  have refused (closed : accepts c.state .skipTestcase = false) (calm : ¬ c.RepeatsOnSkip) :
      c.AnnouncesNothing (next upper c (.event (.testCaseSkip (some (some id))) services)) ↔
        ¬ c.RepeatsOnSkip := by
    refine iff_of_true (announcesNothing_of_bus ?_) calm
    rw [next, handle_refused rfl closed]
    split <;> rfl
  have handled (accepted : ongoing c.state = true) :
      c.handle upper (.event (.testCaseSkip (some (some id))) services) =
        andThen ((c.withTestsuite (c.testsuite.skip j)).reenter services) (.ok true) := by
    have unnamed : c.testsuite.currentTc.filter (td.id · = id) = none := by
      cases current : c.testsuite.currentTc with
      | none => rfl
      | some i =>
        have different : td.id i ≠ id := by
          intro same
          rw [← same, TestDescriptions.find_id] at found
          exact apart (current.trans found)
        simp [Option.filter, different]
    rw [handle_testCaseSkip accepted]
    simp only [skipTestcase, unnamed, found, Option.some_or]
  cases coherent with
  | setup early idle nonempty =>
    rcases early with state | state
    · have filled : td.size ≠ 0 := Nat.ne_of_gt j.pos
      have bus : (next upper c (.event (.testCaseSkip (some (some id))) services)).bus = c.bus ++
          [.testingToolConfigured (testsuiteConfiguration (c.testsuite.skip j))] := by
        rw [next, handle_testCaseSkip_before state idle]
        simp [skipBefore, found, reenter, state, filled]
      rw [announcesNothing_iff bus]
      simp [announcements, Message.announcement, RepeatsOnSkip, state]
    · apply refused
      · rw [state]
        rfl
      · rintro (wrong | wrong) <;> cases state.symm.trans wrong
  | waiting waits nonempty others configuring =>
    refine iff_of_true ?_ ?_
    · apply announcesNothing_of_bus
      have accepted : ongoing c.state = true := by
        rcases waits with state | state <;> rw [state] <;> rfl
      have silent : (c.withTestsuite (c.testsuite.skip j)).reenter services =
          .ok () (c.withTestsuite (c.testsuite.skip j)) := by
        rcases waits with state | state <;> simp [reenter, state]
      rw [next, handled accepted, silent, finalState_andThen_ok]
      rfl
    · rintro (wrong | wrong) <;> rw [Waiting, wrong] at waits <;>
        rcases waits with state | state <;> cases state
  | executing i state current others executing =>
    have kept : Coherent (c.withTestsuite (c.testsuite.skip j)) :=
      (Coherent.executing i state current others executing).skip j (.inr apart)
    obtain ⟨sent, reentered, announces⟩ := kept.reenter_executing services state
    have bus : (next upper c (.event (.testCaseSkip (some (some id))) services)).bus =
        c.bus ++ sent := by
      rw [next, handled (by rw [state]; rfl), reentered, finalState_andThen_ok]
      rfl
    rw [announcesNothing_iff bus]
    exact iff_of_false announces (not_not_intro (.inr state))
  | stuck _ state _ _ _ | finished state _ _ _ _ =>
    apply refused
    · rw [state]
      rfl
    · rintro (wrong | wrong) <;> cases state.symm.trans wrong

/-- The notes of an observer who writes down each execution of a step that begins. -/
def noteExecutions (upper : String → String) (begun : List (String × String))
    (c : Coordinator td) (input : Input) : List (String × String) :=
  begun ++ c.begins (next upper c input)

/-- A session whose inputs all advance it announces what it begins, once. -/
theorem observed_announced {pair : Coordinator td × List (String × String)}
    (reached : Runs.Observed (next upper) (fun c input => Survives upper c input ∧ c.Advancing input)
      (noteExecutions upper) (initial upper td testsuiteName, []) pair) :
    pair.1.Announced pair.2 := by
  have tame (c : Coordinator td) (input : Input)
      (permitted : Survives upper c input ∧ c.Advancing input) :
      input.Known td ∨ Survives upper c input := .inr permitted.1
  induction reached with
  | init =>
    rw [initial_eq]
    exact ⟨fun _ => ⟨rfl, rfl⟩, fun late => absurd (.inl rfl) late⟩
  | @step pair input earlier permitted announced =>
    have before : Reached upper testsuiteName
        (fun c input => Survives upper c input ∧ c.Advancing input) pair.1 := earlier.unobserved
    have move := reached_move tame before permitted
    exact move.follows (reached_coherent tame before) announced permitted.2

/-- The announcements of steps are about their executions. -/
theorem step?_announced (begun : List (String × String)) :
    (begun.map fun pair => Announcement.step pair.1 pair.2).filterMap Announcement.step? =
      begun := by
  rw [List.filterMap_map]
  exact List.filterMap_some

/-- How often each announcement has been made. -/
theorem Announced.counts {begun : List (String × String)} (announced : c.Announced begun) :
    (announcements c.bus).count .toolConfigured ≤ 1 ∧
      (announcements c.bus).count .suiteStarted ≤ 1 ∧
      (announcements c.bus).filterMap Announcement.step? = begun ∧
      (announcements c.bus).count .suiteReport =
        if c.state = .testsuiteFinished then 1 else 0 := by
  have steps (other : Announcement) (apart : other.step? = none) :
      (begun.map fun pair => Announcement.step pair.1 pair.2).count other = 0 := by
    rw [List.count_eq_zero]
    intro member
    obtain ⟨pair, -, rfl⟩ := List.mem_map.mp member
    cases apart
  by_cases setup : c.Setup
  · obtain ⟨rfl, sent⟩ := announced.setup setup
    rw [sent]
    rcases setup with state | state <;> simp [state, Announcement.step?]
  · obtain ⟨opening, known, sent⟩ := announced.session setup
    have configured := steps .toolConfigured rfl
    have started := steps .suiteStarted rfl
    have reported := steps .suiteReport rfl
    rw [sent]
    simp only [List.count_append, List.filterMap_append, configured, started, reported,
      step?_announced]
    rcases known with rfl | rfl <;> by_cases past : c.state = .testsuiteFinished <;>
      simp [closing, past, Announcement.step?, List.filterMap_cons]

/-- **Events that do not advance a session announce nothing, but in the states that announce
something on being left and entered.** In a session that avoids those events, the configuration and
the start are announced at most once, each execution of a step exactly once, and the report exactly
once at the end. -/
theorem announced_once (upper : String → String) (td : TestDescriptions) (testsuiteName : String) :
    (∀ c : Coordinator td, Reached upper testsuiteName (Survives upper) c →
      (∀ event services, controlEventsTriggers event = some .iutConfigurationExecuted →
        (c.AnnouncesNothing (next upper c (.event event services)) ↔ ¬ c.RepeatsOnNode)) ∧
      ∀ id services j, td.find id = some j → c.testsuite.currentTc ≠ some j →
        (c.AnnouncesNothing (next upper c (.event (.testCaseSkip (some (some id))) services)) ↔
          ¬ c.RepeatsOnSkip)) ∧
    ∀ (c : Coordinator td) (begun : List (String × String)),
      Runs.Observed (next upper) (fun c input => Survives upper c input ∧ c.Advancing input)
        (noteExecutions upper) (initial upper td testsuiteName, []) (c, begun) →
      (announcements c.bus).count .toolConfigured ≤ 1 ∧
      (announcements c.bus).count .suiteStarted ≤ 1 ∧
      (announcements c.bus).filterMap Announcement.step? = begun ∧
      (announcements c.bus).count .suiteReport =
        if c.state = .testsuiteFinished then 1 else 0 := by
  constructor
  · intro c reached
    have coherent := reached_coherent (fun _ _ survives => .inr survives) reached
    constructor
    · intro event services kind
      exact node_announcesNothing coherent (reached_stranded reached) kind
    · intro id services j found apart
      exact skip_announcesNothing coherent found apart
  · intro c begun reached
    exact (observed_announced reached).counts

/-- A configuration message that arrives while the first step of the small suite is executed
announces that step once more. -/
theorem configuration_announces_again :
    Reached id "coap" (Survives id) stimuliAwaited ∧
      announcements (next id stimuliAwaited (.event (.configurationExecuted (some "coap_client")
        (some (some "bbbb::1"))) noServices)).bus = [.toolConfigured,
          .step "TD_COAP_CORE_01" "TD_COAP_CORE_01_step_01",
          .step "TD_COAP_CORE_01" "TD_COAP_CORE_01_step_01"] ∧
      ¬ stimuliAwaited.AnnouncesNothing (next id stimuliAwaited (.event
        (.configurationExecuted (some "coap_client") (some (some "bbbb::1"))) noServices)) := by
  refine ⟨stimuliAwaited_reached, by decide +kernel, ?_⟩
  rintro ⟨sent, bus, nothing⟩
  have same := congrArg announcements bus
  rw [announcements_append, nothing, List.append_nil] at same
  revert same
  decide +kernel

end Coordinator

end Ioppytest
