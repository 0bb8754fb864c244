import Ioppytest.Properties.Survival
import Ioppytest.TestCoordinator.Sending
import Ioppytest.EventBus.Starts

/-!
# Starts and the test cases they start

A start puts the waiting test case into execution, whichever it is. No part of the coordinator looks
at the id in it, so a start that is late starts a test case that was not announced when it was sent.
It is never late in a session in which the coordinator stays with its test case while a start is
under way, and in which users start the current one only.
-/

namespace Ioppytest

open Raising

variable {td : TestDescriptions}

namespace TestCase

/-- The test case has been put into `executing`: it is in this state or in a later one of its
execution. -/
def PutIntoExecution (tc : TestCase) : Prop :=
  tc.state = some .executing ∨ tc.state = some .readyForAnalysis ∨ tc.state = some .analyzing ∨
    tc.state = some .finished

/-- Whether a test case is put into execution is its state. -/
instance (tc : TestCase) : Decidable tc.PutIntoExecution :=
  inferInstanceAs (Decidable (_ ∨ _))

end TestCase

namespace Coordinator

variable {upper : String → String} {c : Coordinator td} {input : Input} {services : Services}
  {i : Fin td.size}

/-- Handling the input puts the test case into execution. -/
def PutsIntoExecution (upper : String → String) (c : Coordinator td) (input : Input)
    (i : Fin td.size) : Prop :=
  ¬ (c.testsuite.testcase i).PutIntoExecution ∧
    ((next upper c input).testsuite.testcase i).PutIntoExecution

/-- Whether an input puts a test case into execution is decided by handling it. -/
instance (upper : String → String) (c : Coordinator td) (input : Input) (i : Fin td.size) :
    Decidable (c.PutsIntoExecution upper input i) :=
  inferInstanceAs (Decidable (_ ∧ _))

/-- Executing the next step leaves the test case in execution, and puts no other one into it. -/
theorem Advance.execution {result : EStateM.Result PyException (Coordinator td) Unit}
    (advance : Advance services c i result) (begun : (c.testsuite.testcase i).PutIntoExecution)
    (j : Fin td.size) :
    ((finalState result).testsuite.testcase j).PutIntoExecution ↔
      (c.testsuite.testcase j).PutIntoExecution := by
  refine @Advance.each td (fun j tc => tc.PutIntoExecution ↔
    (c.testsuite.testcase j).PutIntoExecution) c services i result advance
    (fun j tc same blank => ?_) (fun _ _ same => same) (fun k tc _ => ?_) (fun tc _ => ?_)
    (fun _ => Iff.rfl) j
  · refine Iff.trans ?_ same
    simp [TestCase.PutIntoExecution, blank]
  · exact iff_of_true (.inl rfl) begun
  · exact ⟨iff_of_true (.inr (.inl rfl)) begun, iff_of_true (.inr (.inr (.inl rfl))) begun,
      fun report _ _ => iff_of_true (.inr (.inr (.inr rfl))) begun⟩

/-- **A start puts the waiting test case into execution**, whatever id it carries. -/
theorem start_puts_iff (id : PyString.Attribute) (coherent : Coherent c) (j : Fin td.size) :
    c.PutsIntoExecution upper (.event (.testCaseStart id) services) j ↔
      c.Waiting ∧ c.testsuite.currentTc = some j := by
  by_cases waits : c.Waiting
  · cases current : c.testsuite.currentTc with
    | none =>
      have refused : next upper c (.event (.testCaseStart id) services) = c := by
        rw [next, handle_testCaseStart waits]
        simp [startTestcase, current]
      simp [PutsIntoExecution, refused]
    | some i =>
      have configuring := coherent.configuring waits current
      obtain ⟨result, advance, handled⟩ := handle_execution upper services id waits current
        configuring
      let begun := (c.modify i (·.changeState .executing)).send (sniffingMessages i)
      have here : (begun.testsuite.testcase i).PutIntoExecution := by
        simp [begun, modify, TestCase.PutIntoExecution]
      have after : ((next upper c (.event (.testCaseStart id) services)).testsuite.testcase
          j).PutIntoExecution ↔ (begun.testsuite.testcase j).PutIntoExecution := by
        rw [next, handled, finalState_andThen_ok]
        refine @finalState_andThen _ (Coordinator td) _ _
          (fun state => (state.testsuite.testcase j).PutIntoExecution ↔ _) _ _
          (advance.execution here j) fun state same => ?_
        obtain ⟨messages, sent, -⟩ := announceStarted_sends state
        rw [sent]
        exact same
      have fresh : ¬ (c.testsuite.testcase i).PutIntoExecution := by
        simp [TestCase.PutIntoExecution, configuring.state]
      rw [PutsIntoExecution, after]
      by_cases same : i = j
      · subst same
        simp [fresh, here, waits]
      · have apart : j ≠ i := fun equal => same equal.symm
        simp [begun, modify, same, apart]
  · have refused : next upper c (.event (.testCaseStart id) services) = c := by
      rw [next, handle_refused rfl (startTestcase_closed waits)]
      split <;> rfl
    simp [PutsIntoExecution, refused, waits]

/-- A step that an IUT executes lies ahead in the current test case. -/
def stepAhead (c : Coordinator td) : Bool :=
  c.testsuite.currentTc.any fun i =>
    ((c.testsuite.testcase i).sequence.drop (c.testsuite.testcase i).stepIt).any
      (·.type.isExecutable)

/-- The input may end or leave the current test case, or begin the session. -/
def movesOn (c : Coordinator td) : Input → Bool
  | .event (.testCaseStart _) _ => !c.stepAhead
  | .event (.stepStimuliExecuted _) _ => !c.stepAhead
  | .event (.stepVerifyExecuted _ _) _ => !c.stepAhead
  | .event (.stepCheckExecuted _ _) _ => !c.stepAhead
  | .event (.configurationExecuted _ _) _ => c.state == .preparingNextStep
  | .event (.agentTunStarted _) _ => c.state == .preparingNextStep
  | .event (.testCaseSkip (some (some id))) _ =>
    (td.find id).isNone || namesCurrent c.testsuite (some id)
  | .event (.testCaseSkip _) _ => true
  | .event (.testCaseSelect _) _ => true
  | .event .testSuiteStart _ => true
  | .abortTestcase => true
  | _ => false

/-- With a step ahead, executing the next step stays with the test case. -/
theorem Advance.stays {result : EStateM.Result PyException (Coordinator td) Unit}
    (advance : Advance services c i result)
    (ahead : ¬ ∃ after, (c.testsuite.testcase i).nextStep = (none, after)) :
    (finalState result).testsuite.currentTc = c.testsuite.currentTc := by
  cases advance with
  | execute _ _ _ _ => rfl
  | refuse fetched _ _ | interrupt fetched _ _ | complete fetched _ _ =>
    exact absurd ⟨_, fetched⟩ ahead

/-- An executable step is among those that are left. -/
theorem stepAhead_current (current : c.testsuite.currentTc = some i) (ahead : c.stepAhead = true) :
    ∃ step ∈ (c.testsuite.testcase i).sequence.drop (c.testsuite.testcase i).stepIt,
      step.type.isExecutable = true := by
  simpa [stepAhead, current] using ahead

/-- Other inputs leave the current test case what it is. -/
theorem Move.stays {result : EStateM.Result PyException (Coordinator td) Bool}
    (move : Move c input result) (coherent : Coherent c) (stays : c.movesOn input = false) :
    (finalState result).testsuite.currentTc = c.testsuite.currentTc := by
  have recorded (event : Option Event) (before : Coordinator td) :
      (finalState (before.recordNode event)).testsuite.currentTc = before.testsuite.currentTc :=
    (recordNode_recorded event).currentTc
  have configures {event : Event} {services : Services}
      (kind : controlEventsTriggers event = some .iutConfigurationExecuted)
      (stays : c.movesOn (.event event services) = false) : c.state ≠ .preparingNextStep := by
    cases event with
    | configurationExecuted _ _ | agentTunStarted _ => exact beq_eq_false_iff_ne.mp stays
    | _ => cases kind
  have answers {event : Event} {services : Services}
      (kind : controlEventsTriggers event = some .stepExecuted)
      (stays : c.movesOn (.event event services) = false) : c.stepAhead = true := by
    cases event with
    | stepStimuliExecuted _ | stepVerifyExecuted _ _ | stepCheckExecuted _ _ =>
      exact (Bool.not_eq_false' _).mp stays
    | _ => cases kind
  cases move with
  | ignored | refused => rfl
  | empty nothing _ _ idle _ =>
    rw [finalState_error, idle]
    cases current : c.testsuite.currentTc with
    | none => rfl
    | some i => exact absurd i.pos (by omega)
  | configured _ state skipped =>
    exact skipped.currentTc.trans (coherent.idle (.inl state)).symm
  | @skippedEarly id _ j state found =>
    refine TestSuite.skip_currentTc_of_ne ?_
    simp [coherent.idle (.inl state)]
  | recordedEarly _ _ _ | recordedWaiting _ _ | recordedExecuting _ _ _ _ _ _
  | recordedFinished _ _ =>
    rw [finalState_andThen_ok]
    exact recorded _ _
  | started _ _ _ | selected _ | aborted _ _ => cases stays
  | retried state _ _ kind _ => exact absurd state (configures kind stays)
  | timedOut state =>
    rw [finalState_andThen_ok]
    exact (announceReady_recorded state).currentTc
  | @executed id services i _ waits current advance =>
    have configuring := coherent.configuring waits current
    have ahead : ¬ ∃ after, ((c.testsuite.testcase i).changeState .executing).nextStep =
        (none, after) := by
      rw [configuring.ends_iff]
      obtain ⟨step, member, executable⟩ :=
        stepAhead_current current ((Bool.not_eq_false' _).mp stays)
      intro blocked
      rw [blocked step (List.mem_of_mem_drop member)] at executable
      cases executable
    rw [finalState_andThen_ok]
    refine @finalState_andThen _ (Coordinator td) _ _
      (fun state => state.testsuite.currentTc = c.testsuite.currentTc) _ _
      (advance.stays (by simpa [modify] using ahead)) fun state same => ?_
    obtain ⟨messages, sent, -⟩ := announceStarted_sends state
    rw [sent]
    exact same
  | @answered event services i k step _ state current executing at_step found kind _ _ advance =>
    obtain ⟨later, member, executable⟩ := stepAhead_current current (answers kind stays)
    obtain ⟨j, located⟩ := List.getElem?_of_mem member
    rw [List.getElem?_drop] at located
    have ahead : ¬ ∃ after, ((c.answered i k step event).testsuite.testcase i).nextStep =
        (none, after) := by
      rw [answered_over event executing at_step found]
      intro blocked
      obtain ⟨k', _, at_step', position, -⟩ := executing.current
      obtain rfl : k = k' := Option.some.inj (at_step.symm.trans at_step')
      rw [blocked _ later located (by omega)] at executable
      cases executable
    rw [finalState_andThen_ok, advance.stays ahead, answered_currentTc]
  | restarted _ current => exact current.symm
  | @skippedCurrent id services i named _ current same =>
    cases named <;> simp [same, movesOn, namesCurrent, current] at stays
  | skippedOther _ _ apart => exact TestSuite.skip_currentTc_of_ne apart
  | skippedInstead _ unknown _ => simp [movesOn, unknown] at stays
  | @skippedExecuting _ _ i j _ _ _ current _ _ _ _ apart =>
    refine TestSuite.skip_currentTc_of_ne fun same => apart ?_
    exact Option.some.inj (current.symm.trans same)

variable (upper input) in
/-- What an input publishes announces the test case as ready that is current afterwards. -/
theorem sends_ready (coherent : Coherent c) :
    c.Sends (fun message => ∀ testcaseId, message.ready? = some testcaseId →
      (next upper c input).testsuite.getCurrentTestcaseId = some testcaseId)
      (next upper c input) := by
  by_cases disorients : Disorients c input
  · obtain ⟨i, handled⟩ := handle_disorienting_eq upper coherent disorients
    rw [next, handled]
    exact .of_bus rfl
  have move : Move c input (c.handle upper input) := handle_move coherent disorients
  refine move.publishes ?_ ?_ ?_ ?_
  · intro message incidental testcaseId ready
    cases message with
    | testCaseReady _ _ => cases incidental
    | _ => cases ready
  · intro other messages _ announced message member testcaseId ready
    simp only [TestSuite.announcement, Option.bind_eq_some_iff, Option.map_eq_some_iff] at announced
    obtain ⟨_, _, _, _, rfl⟩ := announced
    rcases Handler.stepExecuteMessage_mem member with ⟨_, _, _, _, rfl⟩ | ⟨_, _, _, rfl⟩ <;>
      cases ready
  · intro id services i _ _ message member testcaseId ready
    rcases sniffingMessages_mem member with ⟨_, _, _, _, rfl⟩ | ⟨_, rfl⟩ <;> cases ready
  · rintro _ ⟨_, tc, rfl, current⟩ testcaseId ready
    rw [← Option.some.inj ready]
    exact current

end Coordinator

namespace ReadyStage

/-- A start may still come of it without a user. -/
def Starting : ReadyStage → Prop
  | .ready (.userMock ids) testcaseId => declines ids testcaseId = false
  | .reply (.testCaseStart _) => True
  | _ => False

/-- Messages that start a test case are recognised by their stage. -/
instance : DecidablePred Starting := fun stage => by
  unfold Starting
  split <;> infer_instance

variable {startId : PyString.Attribute} {stage after : ReadyStage}

/-- A start comes only of what could come to one before. -/
theorem starting_of_received (becomes : stage.received startId = some after)
    (starting : after.Starting) : stage.Starting := by
  cases stage with
  | ready recipient testcaseId =>
    cases recipient with
    | userMock ids =>
      cases becomes
      unfold UserMock.handleTestCaseReady at starting
      split at starting
      · cases starting
      · rename_i accepted
        exact Bool.eq_false_iff.mpr accepted
    | messageTranslator =>
      cases becomes
      cases starting
    | automatedIut ids =>
      obtain ⟨event, declined, rfl⟩ := Option.map_eq_some_iff.mp becomes
      unfold AutomatedIut.handleTestCaseReady at declined
      split at declined <;> cases declined
      cases starting
  | pending _ | reply _ =>
    cases becomes
    exact starting

/-- A user starts with the button for it. -/
theorem starting_of_answered {currentTc : Option String} {action : String}
    (becomes : stage.answered currentTc action = some after) (starting : after.Starting) :
    stage.Starting ∨ action = "tc_start" := by
  cases stage with
  | pending testcaseId =>
    simp only [answered, MessageTranslator.translateReadyReply] at becomes
    split at becomes
    · rename_i translated
      split at translated
      · cases translated
        cases becomes
        by_cases starts : action = "tc_start"
        · exact .inr starts
        · rw [if_neg starts] at starting
          cases starting
      · cases translated
    · cases becomes
  | ready _ _ | reply _ =>
    cases becomes
    exact .inl starting

end ReadyStage

namespace StartBus

open Coordinator

variable {p : Participants} {bus : StartBus td} {action : Action} {letter : Letter}

/-- Only announcements are published, and they name their test case. -/
theorem mem_publish {messages : List Message} (member : letter ∈ publish p messages) :
    ∃ message ∈ messages, message.ready? = some letter.origin := by
  obtain ⟨testcaseId, announced, inside⟩ := List.mem_flatMap.mp member
  obtain ⟨message, among, ready⟩ := List.mem_filterMap.mp announced
  obtain ⟨recipient, -, rfl⟩ := List.mem_map.mp inside
  exact ⟨message, among, ready⟩

/-- Sessions that the coordinator survives go through coherent states. -/
theorem reached_coherent (reached : Reached p (Survived p) bus) : Coherent bus.coordinator := by
  have handled {bus : StartBus td} {input : Input} (coherent : Coherent bus.coordinator)
      (survives : Survives p.upper bus.coordinator input) :
      Coherent (bus.handle p input).coordinator :=
    (handle_move coherent (oriented coherent (.inr survives))).coherent coherent
  induction reached with
  | init => exact initial_coherent
  | @step bus action earlier survived coherent =>
    cases action with
    | control input => exact handled coherent (survived input rfl)
    | observe _ | receive _ | answer _ _ => exact coherent
    | deliver n services =>
      unfold next
      dsimp only
      cases reply : bus.reply? n with
      | none => exact coherent
      | some event =>
        refine handled coherent (survived (.event event services) ?_)
        simp [input?, reply]

/-- The start, when it is delivered, puts no test case into execution but the one that it goes back
to. -/
def StartsOwn (p : Participants) (bus : StartBus td) (n : Nat) (services : Services) : Prop :=
  ∀ id origin, bus.underWay[n]? = some ⟨.reply (.testCaseStart id), origin⟩ →
    ∀ i, bus.coordinator.PutsIntoExecution p.upper (.event (.testCaseStart id) services) i →
      td.id i = origin

/-- No test case but the one that the start goes back to waits. -/
def Timely (bus : StartBus td) (n : Nat) : Prop :=
  ∀ id origin, bus.underWay[n]? = some ⟨.reply (.testCaseStart id), origin⟩ →
    ∀ i, bus.coordinator.Waiting → bus.coordinator.testsuite.currentTc = some i → td.id i = origin

/-- Timely starts start the test cases that they go back to. -/
theorem startsOwn_iff (p : Participants) (coherent : Coherent bus.coordinator) (n : Nat)
    (services : Services) : bus.StartsOwn p n services ↔ bus.Timely n := by
  refine forall_congr' fun id => forall_congr' fun origin => forall_congr' fun _ => ?_
  refine forall_congr' fun i => ?_
  rw [start_puts_iff id coherent i, and_imp]

/-- What is under way besides what an action takes to the coordinator. -/
def besides (bus : StartBus td) : Action → List Letter
  | .deliver n _ => (bus.alter n fun _ => none).underWay
  | _ => bus.underWay

/-- The place of the announcement that a user starts the test case of. -/
def started? : Action → Option Nat
  | .answer n action => if action = "tc_start" then some n else none
  | _ => none

/-- The coordinator stays with its test case while a start is under way, and users start the current
one only. -/
structure Orderly (p : Participants) (bus : StartBus td) (action : Action) : Prop where
  /-- The coordinator survives what it handles. -/
  survived : bus.Survived p action
  /-- Nothing moves on while a start is under way. -/
  undisturbed : ∀ input ∈ bus.input? action, bus.coordinator.movesOn input = true →
    ∀ letter ∈ bus.besides action, ¬ letter.stage.Starting
  /-- Users do not start a test case that is not the current one. -/
  attentive : ∀ n ∈ started? action, ∀ letter ∈ bus.underWay[n]?,
    bus.coordinator.testsuite.getCurrentTestcaseId = some letter.origin

/-- Order is decided by the answer that is given. -/
instance (p : Participants) (bus : StartBus td) (action : Action) :
    Decidable (Orderly p bus action) :=
  decidable_of_iff (bus.Survived p action ∧
      (∀ input ∈ bus.input? action, bus.coordinator.movesOn input = true →
        ∀ letter ∈ bus.besides action, ¬ letter.stage.Starting) ∧
      ∀ n ∈ started? action, ∀ letter ∈ bus.underWay[n]?,
        bus.coordinator.testsuite.getCurrentTestcaseId = some letter.origin)
    ⟨fun ⟨survived, undisturbed, attentive⟩ => ⟨survived, undisturbed, attentive⟩,
      fun orderly => ⟨orderly.survived, orderly.undisturbed, orderly.attentive⟩⟩

/-- Whatever comes to a start goes back to the current test case. -/
def Bound (bus : StartBus td) : Prop :=
  ∀ letter ∈ bus.underWay, letter.stage.Starting →
    bus.coordinator.testsuite.getCurrentTestcaseId = some letter.origin

/-- A change that makes starts only of what could come to one, or goes back to the current test
case. -/
theorem Bound.alter {n : Nat} {change : ReadyStage → Option ReadyStage} (bound : Bound bus)
    (changed : ∀ letter after, bus.underWay[n]? = some letter → change letter.stage = some after →
      after.Starting → letter.stage.Starting ∨
        bus.coordinator.testsuite.getCurrentTestcaseId = some letter.origin) :
    Bound (bus.alter n change) := by
  intro letter member starting
  rcases InFlight.mem_alter member with early | ⟨earlier, there, becomes⟩
  · exact bound letter early starting
  · obtain ⟨after, same, rfl⟩ := Option.map_eq_some_iff.mp becomes
    rcases changed earlier after there same starting with before | current
    · exact bound earlier (List.mem_of_getElem? there) before
    · exact current

/-- The coordinator handles an input, and moves on only if no start is under way. -/
theorem Bound.handle {input : Input} (bound : Bound bus) (coherent : Coherent bus.coordinator)
    (survives : Survives p.upper bus.coordinator input)
    (undisturbed : bus.coordinator.movesOn input = true →
      ∀ letter ∈ bus.underWay, ¬ letter.stage.Starting) : Bound (bus.handle p input) := by
  intro letter member starting
  rcases List.mem_append.mp member with early | late
  · have stays : bus.coordinator.movesOn input = false := Bool.eq_false_iff.mpr fun moves =>
      undisturbed moves letter early starting
    have move : Move bus.coordinator input (bus.coordinator.handle p.upper input) :=
      handle_move coherent (oriented coherent (.inr survives))
    have same := bound letter early starting
    rw [TestSuite.getCurrentTestcaseId, ← move.stays coherent stays] at same
    exact same
  · obtain ⟨sent, bus_eq, announces⟩ := sends_ready p.upper input coherent
    have published : (finalState (bus.coordinator.handle p.upper input)).bus.drop
        bus.coordinator.bus.length = sent := by
      rw [show finalState (bus.coordinator.handle p.upper input) =
        Coordinator.next p.upper bus.coordinator input from rfl, bus_eq, List.drop_left]
    rw [published] at late
    obtain ⟨message, among, ready⟩ := mem_publish late
    exact announces message among letter.origin ready

/-- **Orderly sessions keep starts bound to the current test case.** -/
theorem Bound.next (bound : Bound bus) (coherent : Coherent bus.coordinator)
    (orderly : Orderly p bus action) : Bound (bus.next p action) := by
  cases action with
  | control input =>
    exact bound.handle coherent (orderly.survived input rfl) (orderly.undisturbed input rfl)
  | observe _ => exact bound
  | receive n =>
    have updated : Bound (bus.update (bus.underWay[n]?.bind (·.stage.shown))) := bound
    refine updated.alter fun letter after _ becomes starting => ?_
    exact .inl (ReadyStage.starting_of_received becomes starting)
  | answer n action =>
    refine bound.alter fun letter after there becomes starting => ?_
    rcases ReadyStage.starting_of_answered becomes starting with before | rfl
    · exact .inl before
    · exact .inr (orderly.attentive n rfl letter there)
  | deliver n services =>
    unfold StartBus.next
    dsimp only
    cases reply : bus.reply? n with
    | none => exact bound
    | some event =>
      have given : .event event services ∈ bus.input? (.deliver n services) := by
        simp [input?, reply]
      have taken : Bound (bus.alter n fun _ => none) :=
        bound.alter fun _ _ _ becomes => by cases becomes
      exact taken.handle coherent (orderly.survived _ given) (orderly.undisturbed _ given)

/-- In orderly sessions starts are bound. -/
theorem reached_bound (reached : Reached p (Orderly p) bus) :
    Coherent bus.coordinator ∧ Bound bus := by
  have coherent {bus : StartBus td} (reached : Reached p (Orderly p) bus) :
      Coherent bus.coordinator :=
    reached_coherent (reached.mono fun _ _ orderly => orderly.survived)
  have bound : Bound bus :=
    reached.invariant (fun _ member => by cases member) fun _ _ earlier bound orderly =>
      bound.next (coherent earlier) orderly
  exact ⟨coherent reached, bound⟩

/-- A start that is bound is timely. -/
theorem Bound.timely (bound : Bound bus) (n : Nat) : bus.Timely n := by
  intro id origin there i _ current
  have same := bound _ (List.mem_of_getElem? there) trivial
  rw [TestSuite.getCurrentTestcaseId, current] at same
  exact Option.some.inj same

/-- **A start puts only the test case that it goes back to into execution exactly when it is timely,
and it always is in an orderly session.** -/
theorem starts_bound (p : Participants) :
    (∀ bus : StartBus td, Reached p (Survived p) bus → ∀ n services,
      bus.StartsOwn p n services ↔ bus.Timely n) ∧
    ∀ bus : StartBus td, Reached p (Orderly p) bus → ∀ n services,
      bus.StartsOwn p n services := by
  constructor
  · intro bus reached n services
    exact startsOwn_iff p (reached_coherent reached) n services
  · intro bus reached n services
    obtain ⟨coherent, bound⟩ := reached_bound reached
    exact (startsOwn_iff p coherent n services).mpr (bound.timely n)

section Small

/-- An automated IUT that declares the second test case of the small suite only, and the UI
adaptor. -/
def smallParticipants : Participants where
  upper := id
  testsuiteName := "coap"
  startId := none
  recipients := [.automatedIut (some ["TD_COAP_CORE_02"]), .messageTranslator]

/-- The bus after some actions. -/
def afterActions (actions : List Action) : StartBus smallSuite :=
  actions.foldl (next smallParticipants) (initial smallParticipants smallSuite)

/-- The first test case is announced, and a user starts it. -/
def startRequested : List Action :=
  [.control (.event .testSuiteStart noServices), .control .timeout, .receive 1,
    .answer 1 "tc_start"]

/-- The start starts the first test case. -/
theorem starts_bound_small :
    (afterActions startRequested).coordinator.PutsIntoExecution id
        (.event (.testCaseStart (some (some "TD_COAP_CORE_01"))) noServices) smallFirst ∧
      (afterActions startRequested).StartsOwn smallParticipants 1 noServices := by
  have permitted : Runs.AllAllowed (next smallParticipants) (Orderly smallParticipants)
      (initial smallParticipants smallSuite) startRequested := by decide +kernel
  exact ⟨by decide +kernel, (starts_bound smallParticipants).2 _ permitted.reachable 1 noServices⟩

/-- When the IUT has the first test case skipped before the start is delivered, the start of the
first test case starts the second one. -/
theorem late_start_starts_next :
    ¬ ∀ bus : StartBus smallSuite, Reached smallParticipants (Survived smallParticipants) bus →
      ∀ n services, bus.StartsOwn smallParticipants n services := by
  intro claimed
  have permitted : Runs.AllAllowed (next smallParticipants) (Survived smallParticipants)
      (initial smallParticipants smallSuite)
      (startRequested ++ [.receive 0, .deliver 0 noServices]) := by decide +kernel
  have same := claimed _ permitted.reachable 0 noServices (some (some "TD_COAP_CORE_01"))
    "TD_COAP_CORE_01" (by decide +kernel) smallSecond (by decide +kernel)
  exact absurd same (by decide +kernel)

end Small

end StartBus

end Ioppytest
