import Ioppytest.Lib.Alternation
import Ioppytest.Properties.Survival
import Ioppytest.TestCoordinator.Sending

/-!
# The captures of the sniffer

A capture is started with each execution of a test case. It is stopped when the execution comes to
its end, and when the test case is skipped by its id, but not when it is restarted, left by selecting
another one, aborted, or skipped without an id. In sessions that leave no test case in one of these
ways, a capture is running exactly while a test case is executed.
-/

namespace Ioppytest

open Raising Alternation

variable {td : TestDescriptions}

/-- Whether a message starts or stops a capture. -/
def Message.sniffing : Message → Option Bool
  | .sniffingStart .. => some true
  | .sniffingStop => some false
  | _ => none

/-- A capture that was started has not been stopped. -/
def capturing (messages : List Message) : Bool := isOpen Message.sniffing false messages

/-- No capture is started while an earlier one has not been stopped. -/
def CapturesApart (messages : List Message) : Prop :=
  ∀ before captureId filterProto filterIf linkId after,
    messages = before ++ .sniffingStart captureId filterProto filterIf linkId :: after →
      capturing before = false

/-- Captures are apart exactly when starts and stops alternate. -/
theorem capturesApart_iff {messages : List Message} :
    CapturesApart messages ↔ Alternates Message.sniffing false messages := by
  rw [alternates_iff]
  constructor
  · intro apart before entry after split opens
    cases entry with
    | sniffingStart captureId filterProto filterIf linkId =>
      exact apart before captureId filterProto filterIf linkId after split
    | _ => cases opens
  · exact fun apart before _ _ _ _ after split => apart before _ after split rfl

/-- Alternation is decided message by message. -/
instance (messages : List Message) : Decidable (CapturesApart messages) :=
  decidable_of_iff _ capturesApart_iff.symm

namespace Coordinator

variable {upper : String → String} {testsuiteName : String} {c : Coordinator td} {input : Input}

/-- Every configuration has one link. -/
def SingleLinks (td : TestDescriptions) : Prop :=
  ∀ config ∈ td.tcConfigs, config.topology.length = 1

/-- The links of each configuration are counted. -/
instance (td : TestDescriptions) : Decidable (SingleLinks td) :=
  inferInstanceAs (Decidable (∀ config ∈ td.tcConfigs, _))

/-- The ways of leaving a test case that do not look at the capture. -/
def leavesTestcase : Input → Bool
  | .event .testCaseRestart _ => true
  | .event (.testCaseSelect _) _ => true
  | .event (.testCaseSkip (some none)) _ => true
  | .abortTestcase => true
  | _ => false

/-- The input does not leave a test case under execution in one of these ways. Where the end of a
test case was refused, only the abort does. -/
def StopsCapture (c : Coordinator td) (input : Input) : Prop :=
  leavesTestcase input = true →
    c.state ≠ .waitingForStepExecuted ∧ (input = .abortTestcase → c.state ≠ .preparingNextStep)

/-- Whether an input stops a capture is decided by its event and the state. -/
instance (c : Coordinator td) (input : Input) : Decidable (c.StopsCapture input) :=
  inferInstanceAs (Decidable (_ → _))

/-- A test case is being executed, or its end was refused. -/
def executes : FsmState → Bool
  | .waitingForStepExecuted => true
  | .preparingNextStep => true
  | _ => false

/-- Starts and stops alternate, and a capture is running if and only if `busy` says so. -/
structure Captures (busy : Bool) (c : Coordinator td) : Prop where
  /-- Starts and stops alternate. -/
  alternates : Alternates Message.sniffing false c.bus
  /-- Whether a capture is running. -/
  running : capturing c.bus = busy

/-- A capture is running exactly while a test case is executed. -/
def Apart (c : Coordinator td) : Prop := c.Captures (executes c.state)

/-- Other messages change nothing about the captures. -/
theorem Captures.quiet {busy : Bool} {after : Coordinator td} {sent : List Message}
    (captures : c.Captures busy) (bus : after.bus = c.bus ++ sent)
    (quiet : Quiet Message.sniffing sent) : after.Captures busy := by
  constructor
  · rw [bus, alternates_append]
    exact ⟨captures.alternates, quiet.alternates⟩
  · rw [bus, capturing, isOpen_append, quiet.isOpen]
    exact captures.running

/-- So does anything that publishes nothing. -/
theorem Captures.of_bus {busy : Bool} {after : Coordinator td} (captures : c.Captures busy)
    (bus : after.bus = c.bus) : after.Captures busy :=
  captures.quiet (bus.trans (List.append_nil _).symm) fun _ member => by cases member

/-- The stop of a capture leaves none running. -/
theorem Captures.stop {busy : Bool} {after : Coordinator td} {sent : List Message}
    (captures : c.Captures busy) (bus : after.bus = c.bus ++ .sniffingStop :: sent)
    (quiet : Quiet Message.sniffing sent) : after.Captures false := by
  constructor
  · rw [bus, alternates_append]
    exact ⟨captures.alternates, fun opens => (by cases opens), quiet.alternates⟩
  · rw [bus, capturing, isOpen_append]
    exact quiet.isOpen

/-- Configuring nodes starts and stops no capture. -/
theorem quiet_configurationExecute {sent : List Message}
    (asks : ∀ message ∈ sent, message.IsConfigurationExecute) : Quiet Message.sniffing sent := by
  intro message member
  obtain ⟨_, _, _, _, rfl⟩ := asks message member
  rfl

/-- Announcing a step starts and stops no capture. -/
theorem quiet_announceStep (c : Coordinator td) (i : Fin td.size) (step : Step) :
    Quiet Message.sniffing (c.announceStep i step) := by
  intro message member
  rcases announceStep_mem member with ⟨_, _, _, _, rfl⟩ | ⟨_, _, _, rfl⟩ <;> rfl

/-- Opening the tunnels starts and stops no capture. -/
theorem quiet_tunnels (ts : TestSuite td) : Quiet Message.sniffing (tunnels ts) := by
  intro message member
  obtain ⟨_, _, _, rfl⟩ := tunnels_mem member
  rfl

/-- Leaving the setup starts and stops no capture. -/
theorem quiet_setupMessage (c : Coordinator td) : Quiet Message.sniffing [c.setupMessage] := by
  intro message member
  rw [List.mem_singleton.mp member, setupMessage]
  split <;> rfl

/-- With one link, the start of a test case starts one capture. -/
theorem sniffingMessages_single (single : SingleLinks td) (i : Fin td.size) :
    ∃ captureId filterProto filterIf linkId sent,
      sniffingMessages i = .sniffingStart captureId filterProto filterIf linkId :: sent ∧
        Quiet Message.sniffing sent := by
  have inside : td.config i ∈ td.tcConfigs :=
    List.mem_of_find?_eq_some (TestDescriptions.config?_eq i)
  obtain ⟨link, only⟩ := List.length_eq_one_iff.mp (single _ inside)
  have starts : sniffingMessages i = Handler.linkMessages (some (td.id i)) link := by
    simp only [sniffingMessages, only, List.flatMap_cons, List.flatMap_nil, List.append_nil]
  refine ⟨_, _, _, _, _, starts, ?_⟩
  intro message member
  split at member
  · rw [List.mem_singleton.mp member]
    rfl
  · cases member

/-- The start of a test case starts a capture. -/
theorem Captures.start {after : Coordinator td} {i : Fin td.size} (captures : c.Captures false)
    (single : SingleLinks td) (bus : after.bus = c.bus ++ sniffingMessages i) :
    after.Captures true := by
  obtain ⟨captureId, filterProto, filterIf, linkId, sent, starts, quiet⟩ :=
    sniffingMessages_single single i
  rw [starts] at bus
  constructor
  · rw [bus, alternates_append]
    exact ⟨captures.alternates, fun _ => captures.running, quiet.alternates⟩
  · rw [bus, capturing, isOpen_append]
    exact quiet.isOpen

/-- Going on with the next test case stops no capture. -/
theorem Captures.proceed_running {busy : Bool} (captures : c.Captures busy) :
    c.proceed.Captures busy := by
  rcases proceed_sends c with ⟨-, sent, bus, asks⟩ | ⟨-, bus⟩
  · exact captures.quiet bus (quiet_configurationExecute asks)
  · refine captures.quiet bus fun message member => ?_
    rw [List.mem_singleton.mp member]
    rfl

/-- Without a capture running, the next test case can be prepared. -/
theorem Captures.proceed (captures : c.Captures false) : c.proceed.Apart := by
  have idle : executes c.proceed.state = false := by
    rcases proceed_sends c with ⟨state, -⟩ | ⟨state, -⟩ <;> rw [state] <;> rfl
  rw [Apart, idle]
  exact captures.proceed_running

/-- Configuring a test case starts and stops no capture. -/
theorem Captures.configure (captures : c.Captures false) (i : Fin td.size) :
    (c.configure i).Apart := by
  obtain ⟨sent, bus, asks⟩ := configure_sends c i
  exact captures.quiet bus (quiet_configurationExecute asks)

/-- The handling of a node keeps captures apart. -/
theorem Recorded.apart {before after : Coordinator td} (recorded : Recorded before after)
    (apart : before.Apart) : after.Apart := by
  have same : executes after.state = executes before.state := by
    rcases recorded.state with same | ⟨earlier, later⟩
    · rw [same]
    · rw [earlier, later]
      rfl
  obtain ⟨ready, bus, announces⟩ := recorded.messages
  rw [Apart, same]
  refine Captures.quiet apart bus fun message member => ?_
  obtain ⟨_, _, rfl⟩ := announces message member
  rfl

/-- While a capture is running, executing the next step keeps it running or stops it with the end of
the test case, unless the services answer with something that cannot be read. -/
theorem Advance.apart {services : Services} {i : Fin td.size}
    {result : EStateM.Result PyException (Coordinator td) Unit}
    (advance : Advance services c i result) (captures : c.Captures true)
    (caught : ∀ exception, raised result = some exception →
      exception.caughtByHandleControl = true) : (finalState result).Apart := by
  cases advance with
  | execute _ _ _ _ => exact captures.quiet rfl (quiet_announceStep _ _ _)
  | refuse _ _ _ => exact captures.of_bus rfl
  | @interrupt tc exception requests fetched exhausted outcome =>
    have ending := finishOutcome_ending services (td.id i) (c.analyzeRequest i) exhausted
    rw [outcome] at ending
    cases ending with
    | unreadable _ _ _ uncaught => exact absurd (caught _ rfl) (by simp [uncaught])
  | @complete tc report requests fetched exhausted outcome =>
    apply Captures.proceed
    have sent := finishOutcome_requests services (td.id i) (c.analyzeRequest i)
      (tc.changeState .readyForAnalysis)
    rw [outcome] at sent
    rcases sent with ⟨exception, wrong⟩ | rfl | ⟨pcap, rfl⟩
    · cases wrong
    · refine captures.stop (by simp [exhaust, modify]; rfl) ?_
      simp [Quiet, Message.sniffing]
    · refine captures.stop (by simp [exhaust, modify]; rfl) ?_
      simp [Quiet, Message.sniffing, analyzeRequest]

/-- **A move that leaves no capture behind keeps captures apart.** -/
theorem Move.apart {result : EStateM.Result PyException (Coordinator td) Bool}
    (move : Move c input result) (single : SingleLinks td) (coherent : Coherent c)
    (apart : c.Apart) (stops : c.StopsCapture input)
    (caught : ∀ event services exception, input = .event event services →
      raised result = some exception → exception.caughtByHandleControl = true) :
    (finalState result).Apart := by
  have idle (elsewhere : executes c.state = false) : c.Captures false := by
    rw [Apart, elsewhere] at apart
    exact apart
  have early (setup : c.Setup) : c.Captures false :=
    idle (by rcases setup with state | state <;> rw [state] <;> rfl)
  have waits (waiting : c.Waiting) : c.Captures false :=
    idle (by rcases waiting with state | state <;> rw [state] <;> rfl)
  have waits_of (accepted : ongoing c.state = true) (elsewhere : c.state ≠ .waitingForStepExecuted) :
      c.Captures false := by
    apply waits
    revert accepted elsewhere
    unfold Waiting
    cases c.state <;> decide
  have busy (state : c.state = .waitingForStepExecuted) : c.Captures true := by
    rw [Apart, state] at apart
    exact apart
  cases move with
  | ignored => exact apart
  | refused => exact apart
  | empty _ _ state _ sent =>
    rw [finalState_error, Apart, state]
    rcases sent with sent | sent
    · exact Captures.quiet apart sent (quiet_tunnels _)
    · exact Captures.of_bus apart sent
  | configured _ state _ => exact (early (.inl state)).quiet rfl (quiet_setupMessage _)
  | skippedEarly _ _ => exact Captures.quiet apart rfl (quiet_setupMessage _)
  | recordedEarly _ _ _ =>
    rw [finalState_andThen_ok]
    have sent : (c.send [c.setupMessage]).Apart :=
      Captures.quiet apart rfl (quiet_setupMessage _)
    exact (recordNode_recorded _).apart sent
  | @started services ts _ setup _ =>
    rw [finalState_ok]
    apply Captures.proceed
    have opened : ((c.withTestsuite ts).send (tunnels ts)).Captures false :=
      (early setup).quiet rfl (quiet_tunnels _)
    exact opened.quiet rfl (quiet_setupMessage _)
  | recordedWaiting _ _ =>
    rw [finalState_andThen_ok]
    exact (recordNode_recorded _).apart apart
  | @recordedExecuting event services i k step _ _ _ _ _ _ =>
    rw [finalState_andThen_ok]
    have sent : (c.send (c.announceStep i step)).Apart :=
      Captures.quiet apart rfl (quiet_announceStep _ _ _)
    exact (recordNode_recorded _).apart sent
  | recordedFinished state _ =>
    rw [finalState_andThen_ok]
    have concluded : c.conclude.Apart := by
      refine (idle (by rw [state]; rfl)).quiet rfl fun message member => ?_
      rw [List.mem_singleton.mp member]
      rfl
    exact (recordNode_recorded _).apart concluded
  | retried state _ _ _ advance =>
    rw [finalState_andThen_ok]
    have running : c.Captures true := by
      rw [Apart, state] at apart
      exact apart
    have advanced := advance.apart running fun exception raises =>
      caught _ _ exception rfl (raised_andThen (raised_andThen raises))
    exact finalState_andThen advanced fun _ later => (recordNode_recorded _).apart later
  | timedOut state =>
    rw [finalState_andThen_ok]
    exact (announceReady_recorded state).apart apart
  | @executed id services i result waiting _ advance =>
    rw [finalState_andThen_ok]
    have running : ((c.modify i (·.changeState .executing)).send (sniffingMessages i)).Captures
        true := (waits waiting).start single rfl
    have advanced := advance.apart running fun exception raises =>
      caught _ _ exception rfl (raised_andThen (raised_andThen raises))
    refine finalState_andThen advanced fun after later => ?_
    obtain ⟨messages, sent, announces⟩ := announceStarted_sends after
    rw [sent]
    refine Captures.quiet later rfl fun message member => ?_
    obtain ⟨_, rfl⟩ := announces message member
    rfl
  | @answered event services i k step result state _ _ _ _ _ _ _ advance =>
    rw [finalState_andThen_ok]
    have running : (c.answered i k step event).Captures true := by
      unfold Coordinator.answered
      split <;> exact (busy state).of_bus rfl
    exact advance.apart running fun exception raises =>
      caught _ _ exception rfl (raised_andThen raises)
  | @restarted services i accepted _ =>
    have changed : (c.modify i (·.reinit)).Captures false := (waits_of accepted (stops rfl).1).of_bus rfl
    exact changed.configure i
  | selected accepted =>
    rw [finalState_ok]
    have idle := waits_of accepted (stops rfl).1
    apply selectTestcase_rule
    · intro i
      refine Captures.configure ?_ i
      exact idle.of_bus rfl
    · exact Captures.proceed (idle.of_bus rfl)
  | @skippedCurrent id services i named accepted current same =>
    rw [finalState_ok]
    apply Captures.proceed
    by_cases state : c.state = .waitingForStepExecuted
    · -- Only a request that names the test case gets here, and it stops the capture.
      cases named with
      | false =>
        subst same
        exact absurd state (stops rfl).1
      | true =>
        have executing : (c.testsuite.testcase i).state = some .executing := by
          cases coherent with
          | executing j _ here _ executing =>
            obtain rfl : j = i := Option.some.inj (here.symm.trans current)
            exact executing.state
          | setup wrong _ _ | waiting wrong _ _ _ =>
            rcases wrong with wrong | wrong <;> cases state.symm.trans wrong
          | stuck _ wrong _ _ _ | finished wrong _ _ _ _ => cases state.symm.trans wrong
        have stopped : (c.withTestsuite (c.testsuite.skip i)).Captures true :=
          (busy state).of_bus rfl
        have sent : (((c.withTestsuite (c.testsuite.skip i)).send [.sniffingStop]).bus) =
            (c.withTestsuite (c.testsuite.skip i)).bus ++ [.sniffingStop] := rfl
        simpa [executing] using stopped.stop sent fun _ member => by cases member
    · have idle : (c.withTestsuite (c.testsuite.skip i)).Captures false :=
        (waits_of accepted state).of_bus rfl
      split
      · exact idle.stop rfl fun _ member => by cases member
      · exact idle.quiet rfl fun _ member => by cases member
  | skippedOther _ _ _ => exact Captures.of_bus apart rfl
  | skippedInstead _ _ _ => exact Captures.of_bus apart rfl
  | skippedExecuting _ _ _ _ _ _ _ => exact Captures.quiet apart rfl (quiet_announceStep _ _ _)
  | aborted accepted _ =>
    rw [finalState_ok]
    apply Captures.proceed
    exact (waits_of (accepted.resolve_right ((stops rfl).2 rfl)) (stops rfl).1).of_bus rfl

/-- An input that leaves a test case in another way stops no capture. -/
theorem leaves_capture (coherent : Coherent c) (captures : c.Captures true)
    (leaves : ¬ c.StopsCapture input) : (next upper c input).Captures true := by
  have configured {before : Coordinator td} (same : before.bus = c.bus) (i : Fin td.size) :
      (before.configure i).Captures true := by
    obtain ⟨sent, bus, asks⟩ := configure_sends before i
    exact (captures.of_bus same).quiet bus (quiet_configurationExecute asks)
  have proceeded {before : Coordinator td} (same : before.bus = c.bus) :
      before.proceed.Captures true := (captures.of_bus same).proceed_running
  have executing (elsewhere : input ≠ .abortTestcase) : c.state = .waitingForStepExecuted := by
    by_contra other
    exact leaves fun _ => ⟨other, fun same => absurd same elsewhere⟩
  have harmless (stays : leavesTestcase input = false) : False := by
    refine leaves fun wrong => ?_
    rw [stays] at wrong
    cases wrong
  cases input with
  | timeout => exact (harmless rfl).elim
  | abortTestcase =>
    have accepted : ongoing c.state = true ∨ c.state = .preparingNextStep := by
      by_contra refused
      refine leaves fun _ => ⟨fun state => refused (.inl ?_), fun _ state => refused (.inr state)⟩
      rw [state]
      rfl
    rw [next, handle_abortTestcase accepted, finalState_andThen_ok]
    unfold abortTestcase
    cases c.testsuite.currentTc with
    | none => exact captures
    | some i => exact proceeded rfl
  | event event services =>
    have accepted (state : c.state = .waitingForStepExecuted) : ongoing c.state = true := by
      rw [state]
      rfl
    cases event with
    | testCaseRestart =>
      have state : c.state = .waitingForStepExecuted := executing (by simp)
      rw [next, handle_testCaseRestart (accepted state), finalState_andThen_ok]
      unfold restartTestcase
      cases c.testsuite.currentTc.filter (td.id · ≠ "") with
      | none => exact captures
      | some i =>
        rw [finalState_ok]
        refine configured ?_ i
        rfl
    | testCaseSelect id =>
      have state : c.state = .waitingForStepExecuted := executing (by simp)
      rw [next, handle_testCaseSelect (coherent.nonempty (accepted state)) (accepted state),
        finalState_ok]
      apply selectTestcase_rule
      · intro i
        refine configured ?_ i
        rfl
      · exact proceeded rfl
    | testCaseSkip id =>
      rcases id with - | - | id
      · exact (harmless rfl).elim
      · have state : c.state = .waitingForStepExecuted := executing (by simp)
        rw [next, handle_testCaseSkip (accepted state), finalState_andThen_ok]
        cases current : c.testsuite.currentTc with
        | none =>
          simp only [skipTestcase, current, finalState_error]
          exact captures
        | some i =>
          simp only [skipTestcase, current, finalState_ok]
          refine proceeded ?_
          simp
      · exact (harmless rfl).elim
    | _ => exact (harmless rfl).elim

/-- A start that is accepted while a capture is running starts another one. -/
theorem start_overlaps {id : PyString.Attribute} {services : Services} (single : SingleLinks td)
    (coherent : Coherent c) (captures : c.Captures true) (waits : c.Waiting)
    (attended : c.testsuite.currentTc ≠ none) :
    ¬ CapturesApart (next upper c (.event (.testCaseStart id) services)).bus := by
  obtain ⟨i, current⟩ := Option.ne_none_iff_exists'.mp attended
  have configuring := coherent.configuring waits current
  obtain ⟨captureId, filterProto, filterIf, linkId, sent, starts, -⟩ :=
    sniffingMessages_single single i
  have started : ∃ after, (next upper c (.event (.testCaseStart id) services)).bus =
      c.bus ++ .sniffingStart captureId filterProto filterIf linkId :: after := by
    obtain ⟨result, advance, handled⟩ := handle_execution upper services id waits
      current configuring
    obtain ⟨later, bus, -⟩ := advance.publishes (fun _ _ => trivial) current
      (fun _ _ _ _ _ _ => trivial)
    have first : ∃ after, (finalState result).bus =
        c.bus ++ .sniffingStart captureId filterProto filterIf linkId :: after := by
      rw [bus, starts]
      exact ⟨sent ++ later, by simp [modify]⟩
    rw [next, handled, finalState_andThen_ok]
    obtain ⟨after, bus⟩ := first
    cases result with
    | error exception state => exact ⟨after, bus⟩
    | ok _ state =>
      obtain ⟨messages, announced, -⟩ := announceStarted_sends state
      refine ⟨after ++ messages, ?_⟩
      rw [finalState_ok] at bus
      rw [andThen_ok, announced, send_bus, bus]
      simp
  obtain ⟨after, bus⟩ := started
  intro apart
  have idle := apart c.bus captureId filterProto filterIf linkId after bus
  rw [captures.running] at idle
  cases idle

/-- **Captures are apart in every session that leaves no test case under execution by a restart, a
selection, an abort or a request for skipping without an id**; and after an input that does, the
next start of a test case overlaps. -/
theorem captures_apart (upper : String → String) (td : TestDescriptions) (testsuiteName : String)
    (single : SingleLinks td) (c : Coordinator td)
    (reached : Reached upper testsuiteName
      (fun c input => Survives upper c input ∧ c.StopsCapture input) c) :
    CapturesApart c.bus ∧
      ∀ input, Survives upper c input → ¬ c.StopsCapture input →
        (next upper c input).Waiting → (next upper c input).testsuite.currentTc ≠ none →
          ∀ id services, ¬ CapturesApart
            (next upper (next upper c input) (.event (.testCaseStart id) services)).bus := by
  have tame (c : Coordinator td) (input : Input)
      (permitted : Survives upper c input ∧ c.StopsCapture input) :
      input.Known td ∨ Survives upper c input := .inr permitted.1
  have coherent := reached_coherent tame reached
  have apart : c.Apart := by
    refine reached.invariant ?_ fun c input earlier apart permitted => ?_
    · rw [initial_eq]
      exact ⟨trivial, rfl⟩
    · refine (reached_move tame earlier permitted).apart single (reached_coherent tame earlier) apart
        permitted.2 ?_
      rintro event services exception rfl raises
      exact permitted.1 exception raises
  refine ⟨capturesApart_iff.mpr apart.alternates, ?_⟩
  intro input survives leaves waits attended id services
  have running : c.Captures true := by
    have busy : executes c.state = true := by
      by_contra elsewhere
      refine leaves fun _ => ⟨fun state => elsewhere ?_, fun _ state => elsewhere ?_⟩ <;>
        rw [state] <;> rfl
    rw [Apart, busy] at apart
    exact apart
  have move : Move c input (c.handle upper input) :=
    handle_move coherent (oriented coherent (.inr survives))
  exact start_overlaps single (move.coherent coherent) (leaves_capture coherent running leaves)
    waits attended

/-- The small suite while its second test case is executed, after the first one was finished. -/
def secondExecuted : Coordinator smallSuite :=
  afterwards [.event .testSuiteStart noServices, .event (.testCaseStart none) noServices,
    .event (.stepStimuliExecuted none) noServices,
    .event (.stepVerifyExecuted (some (some true)) none) smallServices,
    .event (.testCaseStart none) noServices]

/-- Two captures of the small suite are apart, and a restart of its second test case leads to an
overlap. -/
theorem captures_apart_small : CapturesApart secondExecuted.bus ∧
    ¬ CapturesApart (next id (next id secondExecuted (.event .testCaseRestart noServices))
      (.event (.testCaseStart none) noServices)).bus := by
  have facts := captures_apart id smallSuite "coap" (by decide) secondExecuted
    (afterwards_reached (by decide +kernel))
  exact ⟨facts.1, facts.2 (.event .testCaseRestart noServices) (by decide +kernel)
    (by decide +kernel) (.inl (by decide +kernel)) (by decide +kernel) none noServices⟩

/-- Starting a test case of the small suite again after a restart overlaps with its first capture. -/
theorem restart_overlaps : SingleLinks smallSuite ∧
    Reached id "coap" (Survives id) (afterwards [.event .testSuiteStart noServices,
      .event (.testCaseStart none) noServices, .event .testCaseRestart noServices,
      .event (.testCaseStart none) noServices]) ∧
    ¬ CapturesApart (afterwards [.event .testSuiteStart noServices,
      .event (.testCaseStart none) noServices, .event .testCaseRestart noServices,
      .event (.testCaseStart none) noServices]).bus :=
  ⟨by decide, afterwards_reached (by decide +kernel), by decide +kernel⟩

end Coordinator

end Ioppytest
