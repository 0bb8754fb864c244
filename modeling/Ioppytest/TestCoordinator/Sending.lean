import Ioppytest.TestCoordinator.Sessions
import Ioppytest.TestCoordinator.Endings

/-!
# What is published

The messages that the parts of a move append to the bus. A property of the bus is kept by a move if
these messages keep it.
-/

namespace Ioppytest

open Raising

variable {td : TestDescriptions}

/-- The message asks a user to configure a node. -/
def Message.IsConfigurationExecute (message : Message) : Prop :=
  ∃ configurationId node description tc,
    message = .configurationExecute configurationId node description tc

/-- The message asks for the execution of a step. -/
def Message.IsStepExecute (message : Message) : Prop :=
  (∃ description step tc target, message = .stepStimuliExecute description step tc target) ∨
    ∃ description step tc, message = .stepVerifyExecute description step tc

/-- The message neither announces the course of the session nor reports on it. -/
def Message.Routine : Message → Prop
  | .testingToolConfigured _ => False
  | .testSuiteStarted => False
  | .stepStimuliExecute .. => False
  | .stepVerifyExecute .. => False
  | .testCaseVerdict .. => False
  | .testSuiteReport _ => False
  | _ => True

namespace Handler

/-- The messages for the nodes of a test case. -/
theorem configurationExecuteMessages_mem {config : TestConfig} {tc : TestCaseInfo}
    {message : Message} (member : message ∈ configurationExecuteMessages config tc) :
    message.IsConfigurationExecute := by
  obtain ⟨description, -, rfl⟩ := List.mem_map.mp member
  exact ⟨_, _, _, _, rfl⟩

/-- The messages for a step. -/
theorem stepExecuteMessage_mem {step : Step} {tc : TestCaseInfo} {target : Option String}
    {message : Message} (member : message ∈ stepExecuteMessage step tc target) :
    message.IsStepExecute := by
  unfold stepExecuteMessage at member
  dsimp only at member
  split at member
  · exact .inl ⟨_, _, _, _, List.mem_singleton.mp member⟩
  · exact .inr ⟨_, _, _, List.mem_singleton.mp member⟩
  · cases member
  · cases member

end Handler

/-- The requests that the end of a test case sends to the services. -/
def FinishOutcome.requests : FinishOutcome → List Message
  | .refused _ => []
  | .interrupted _ requests => requests
  | .completed _ requests => requests

/-- An end that is not refused stops and fetches the capture, and has it analyzed unless it could
not be fetched. -/
theorem finishOutcome_requests (services : Services) (captureId : String)
    (analyze : String → Message) (tc : TestCase) :
    (∃ exception, finishOutcome services captureId analyze tc = .refused exception) ∨
    (finishOutcome services captureId analyze tc).requests =
      [.sniffingStop, .sniffingGetCapture captureId] ∨
    ∃ pcap, (finishOutcome services captureId analyze tc).requests =
      [.sniffingStop, .sniffingGetCapture captureId, analyze pcap] := by
  unfold finishOutcome
  cases tc.checkAllStepsFinished with
  | error exception => exact .inl ⟨exception, rfl⟩
  | ok past =>
    cases past with
    | false => exact .inl ⟨_, rfl⟩
    | true =>
      refine .inr ?_
      dsimp only
      cases Handler.captureOf services.getCapture with
      | error exception => exact .inl rfl
      | ok answer =>
        cases answer with
        | error message => exact .inl rfl
        | ok pcap =>
          refine .inr ⟨pcap, ?_⟩
          dsimp only
          cases Handler.analysisOf services.analysis with
          | error exception => rfl
          | ok answer =>
            cases answer with
            | error message => rfl
            | ok items =>
              dsimp only
              cases TestCase.analysisReport tc.sequence items <;> rfl

/-- So each of its requests stops or fetches the capture, or has it analyzed. -/
theorem requests_mem {services : Services} {captureId : String} {analyze : String → Message}
    {tc : TestCase} {message : Message}
    (member : message ∈ (finishOutcome services captureId analyze tc).requests) :
    message = .sniffingStop ∨ message = .sniffingGetCapture captureId ∨
      ∃ pcap, message = analyze pcap := by
  rcases finishOutcome_requests services captureId analyze tc with
    ⟨exception, refused⟩ | sent | ⟨pcap, sent⟩
  · rw [refused] at member
    cases member
  · rw [sent] at member
    simp only [List.mem_cons, List.not_mem_nil, or_false] at member
    exact member.imp_right .inl
  · rw [sent] at member
    simp only [List.mem_cons, List.not_mem_nil, or_false] at member
    exact member.imp_right (Or.imp_right fun same => ⟨pcap, same⟩)

namespace Coordinator

variable {c : Coordinator td} {message : Message}

/-- The messages for the tunnels. -/
theorem tunnels_mem {ts : TestSuite td} (member : message ∈ tunnels ts) :
    ∃ name ipv6Prefix ipv6Host, message = .agentTunStart name ipv6Prefix ipv6Host := by
  obtain ⟨entry, -, rfl⟩ := List.mem_map.mp member
  exact ⟨_, _, _, rfl⟩

/-- The messages that announce a step. -/
theorem announceStep_mem {i : Fin td.size} {step : Step}
    (member : message ∈ c.announceStep i step) : message.IsStepExecute :=
  Handler.stepExecuteMessage_mem member

/-- The requests for tunnels are routine. -/
theorem routine_tunnels (ts : TestSuite td) : ∀ message ∈ tunnels ts, message.Routine := by
  intro message member
  obtain ⟨_, _, _, rfl⟩ := tunnels_mem member
  trivial

/-- The start of a test case starts the sniffer, and packet loss on lossy links. -/
theorem sniffingMessages_mem {i : Fin td.size} (member : message ∈ sniffingMessages i) :
    (∃ captureId filterProto filterIf linkId,
      message = .sniffingStart captureId filterProto filterIf linkId) ∨
      ∃ packets, message = .routingStartLossyLink packets := by
  obtain ⟨link, -, inside⟩ := List.mem_flatMap.mp member
  unfold Handler.linkMessages at inside
  rcases List.mem_cons.mp inside with rfl | lossy
  · exact .inl ⟨_, _, _, _, rfl⟩
  · split at lossy
    · exact .inr ⟨_, List.mem_singleton.mp lossy⟩
    · cases lossy

/-- These messages are routine, too. -/
theorem routine_sniffing (i : Fin td.size) :
    ∀ message ∈ (sniffingMessages i : List Message), message.Routine := by
  intro message member
  rcases sniffingMessages_mem member with ⟨_, _, _, _, rfl⟩ | ⟨_, rfl⟩ <;> trivial

/-- So are the requests for configuring nodes. -/
theorem routine_configurationExecute {sent : List Message}
    (asks : ∀ message ∈ sent, message.IsConfigurationExecute) :
    ∀ message ∈ sent, message.Routine := by
  intro message member
  obtain ⟨_, _, _, _, rfl⟩ := asks message member
  trivial

/-- So are the requests of the end of a test case. -/
theorem routine_requests (services : Services) (c : Coordinator td) (i : Fin td.size)
    (tc : TestCase) :
    ∀ message ∈ (finishOutcome services (td.id i) (c.analyzeRequest i) tc).requests,
      message.Routine := by
  intro message member
  rcases requests_mem member with rfl | rfl | ⟨pcap, rfl⟩ <;> trivial

/-- So is what the handling of a node publishes. -/
theorem Recorded.routine {before after : Coordinator td} (recorded : Recorded before after) :
    ∃ sent, after.bus = before.bus ++ sent ∧ ∀ message ∈ sent, message.Routine := by
  obtain ⟨ready, bus, announces⟩ := recorded.messages
  refine ⟨ready, bus, fun message member => ?_⟩
  obtain ⟨_, _, rfl⟩ := announces message member
  trivial

/-- So is the announcement of a start. -/
theorem announceStarted_routine (c : Coordinator td) :
    ∃ sent, finalState c.announceStarted = c.send sent ∧ ∀ message ∈ sent, message.Routine := by
  obtain ⟨messages, sent, announces⟩ := announceStarted_sends c
  refine ⟨messages, sent, fun message member => ?_⟩
  obtain ⟨_, rfl⟩ := announces message member
  trivial

/-- Configuring a test case asks users to configure its nodes. -/
theorem configure_sends (c : Coordinator td) (i : Fin td.size) :
    ∃ sent, (c.configure i).bus = c.bus ++ sent ∧
      ∀ message ∈ sent, message.IsConfigurationExecute :=
  ⟨_, rfl, fun _ member => Handler.configurationExecuteMessages_mem member⟩

/-- Going on with the next test case configures it or reports the session. -/
theorem proceed_sends (c : Coordinator td) :
    (c.proceed.state = .waitingForIutConfigurationExecuted ∧
      ∃ sent, c.proceed.bus = c.bus ++ sent ∧ ∀ message ∈ sent, message.IsConfigurationExecute) ∨
    (c.proceed.state = .testsuiteFinished ∧
      c.proceed.bus = c.bus ++ [.testSuiteReport c.proceed.testsuite.report]) := by
  unfold proceed
  cases c.testsuite.pending with
  | none => exact .inr ⟨rfl, rfl⟩
  | some i => exact .inl ⟨rfl, configure_sends c i⟩

end Coordinator

/-- The message neither announces a test case as ready nor asks for the execution of a step, nor
does it start the sniffer or packet loss. -/
def Message.Incidental : Message → Prop
  | .testCaseReady .. => False
  | .stepStimuliExecute .. => False
  | .stepVerifyExecute .. => False
  | .sniffingStart .. => False
  | .routingStartLossyLink _ => False
  | _ => True

namespace Coordinator

/-- What is published between two states has a property. -/
def Sends (property : Message → Prop) (before after : Coordinator td) : Prop :=
  ∃ sent, after.bus = before.bus ++ sent ∧ ∀ message ∈ sent, property message

section Sends

variable {property : Message → Prop} {c between after : Coordinator td}

/-- Nothing is sent when the bus stays the same. -/
theorem Sends.of_bus (same : after.bus = c.bus) : c.Sends property after :=
  ⟨[], by rw [same, List.append_nil], by simp⟩

/-- Nothing is sent when nothing happens. -/
theorem Sends.refl (c : Coordinator td) : c.Sends property c := .of_bus rfl

/-- What is sent one after the other. -/
theorem Sends.trans (first : c.Sends property between) (second : between.Sends property after) :
    c.Sends property after := by
  obtain ⟨early, earlier, these⟩ := first
  obtain ⟨late, later, those⟩ := second
  refine ⟨early ++ late, by rw [later, earlier, List.append_assoc], fun message member => ?_⟩
  rcases List.mem_append.mp member with member | member
  · exact these message member
  · exact those message member

/-- What is sent by sending. -/
theorem Sends.send {sent : List Message} (fits : ∀ message ∈ sent, property message) :
    c.Sends property (c.send sent) := ⟨sent, rfl, fits⟩

/-- A weaker property holds of what is sent. -/
theorem Sends.mono {weaker : Message → Prop} (sends : c.Sends property after)
    (weaken : ∀ message, property message → weaker message) : c.Sends weaker after := by
  obtain ⟨sent, bus, fits⟩ := sends
  exact ⟨sent, bus, fun message member => weaken message (fits message member)⟩

/-- Two computations in a row. -/
theorem Sends.andThen {α β : Type} {result : EStateM.Result PyException (Coordinator td) α}
    {rest : Coordinator td → EStateM.Result PyException (Coordinator td) β}
    (first : c.Sends property (finalState result))
    (further : ∀ value state, result = .ok value state →
      Sends property state (finalState (rest state))) :
    c.Sends property (finalState (andThen result rest)) := by
  cases result with
  | error exception state => exact first
  | ok value state => exact first.trans (further value state rfl)

/-- The message announces that the current test case is ready. -/
def AnnouncesReady (c : Coordinator td) (message : Message) : Prop :=
  ∃ configuration tc, message = .testCaseReady configuration tc ∧
    c.testsuite.getCurrentTestcaseId = some tc.testcaseId

/-- The end of the configuration is announced for the current test case. -/
theorem sends_announceReady (c : Coordinator td) :
    c.Sends (finalState c.announceReady).AnnouncesReady (finalState c.announceReady) := by
  unfold announceReady
  cases current : c.testsuite.currentTc with
  | none => exact .of_bus rfl
  | some i =>
    refine ⟨_, rfl, fun message member => ⟨_, _, List.mem_singleton.mp member, ?_⟩⟩
    simp [TestSuite.getCurrentTestcaseId, current, verboseTestcaseInfo, testcaseInfo]

/-- So it is when a node is handled. -/
theorem sends_recordNode (c : Coordinator td) (event : Option Event) :
    c.Sends (finalState (c.recordNode event)).AnnouncesReady (finalState (c.recordNode event)) := by
  unfold recordNode
  cases Handler.nodeUpdate event with
  | error exception => exact .of_bus rfl
  | ok node =>
    dsimp only
    split
    · split
      · exact sends_announceReady _
      · split <;> exact .of_bus rfl
    · exact .of_bus rfl

variable (incidental : ∀ message : Message, message.Incidental → property message)

include incidental

/-- What configuring a test case sends. -/
theorem sends_configure (c : Coordinator td) (i : Fin td.size) :
    c.Sends property (c.configure i) := by
  obtain ⟨sent, bus, asks⟩ := configure_sends c i
  refine ⟨sent, bus, fun message member => ?_⟩
  obtain ⟨_, _, _, _, rfl⟩ := asks message member
  exact incidental _ trivial

/-- What going on to the next test case sends. -/
theorem sends_proceed (c : Coordinator td) : c.Sends property c.proceed := by
  rcases proceed_sends c with ⟨-, sent, bus, asks⟩ | ⟨-, bus⟩
  · refine ⟨sent, bus, fun message member => ?_⟩
    obtain ⟨_, _, _, _, rfl⟩ := asks message member
    exact incidental _ trivial
  · refine ⟨_, bus, fun message member => ?_⟩
    rw [List.mem_singleton.mp member]
    exact incidental _ trivial

/-- What opening the tunnels sends. -/
theorem sends_tunnels (ts : TestSuite td) : ∀ message ∈ tunnels ts, property message := by
  intro message member
  obtain ⟨_, _, _, rfl⟩ := tunnels_mem member
  exact incidental _ trivial

/-- What leaving the setup sends. -/
theorem sends_setupMessage (c : Coordinator td) :
    ∀ message ∈ [c.setupMessage], property message := by
  intro message member
  rw [List.mem_singleton.mp member, setupMessage]
  split <;> exact incidental _ trivial

/-- What announcing the start sends. -/
theorem sends_announceStarted (c : Coordinator td) :
    c.Sends property (finalState c.announceStarted) := by
  obtain ⟨messages, sent, announces⟩ := announceStarted_sends c
  rw [sent]
  refine .send fun message member => ?_
  obtain ⟨_, rfl⟩ := announces message member
  exact incidental _ trivial

/-- What the end of a test case requests from the services. -/
theorem sends_requests (services : Services) (c : Coordinator td) (i : Fin td.size)
    (tc : TestCase) :
    ∀ message ∈ (finishOutcome services (td.id i) (c.analyzeRequest i) tc).requests,
      property message := by
  intro message member
  rcases requests_mem member with rfl | rfl | ⟨pcap, rfl⟩ <;> exact incidental _ trivial

/-- Executing the next step of the current test case announces a step, or ends the test case. -/
theorem Advance.publishes {services : Services} {i : Fin td.size}
    {result : EStateM.Result PyException (Coordinator td) Unit}
    (advance : Advance services c i result) (current : c.testsuite.currentTc = some i)
    (steps : ∀ (other : Coordinator td) (messages : List Message),
      other.testsuite.addressingTable = c.testsuite.addressingTable →
      other.testsuite.announcement = some messages → ∀ message ∈ messages, property message) :
    c.Sends property (finalState result) := by
  cases advance with
  | @execute k tc step fetched found executable executing =>
    have announced : (c.fetch i tc).testsuite.announcement =
        some ((c.fetch i tc).announceStep i step) := by
      obtain ⟨_, _, _, -, -, -, -, rfl⟩ := TestCase.nextStepFrom_some fetched
      exact announcement_fetch _ current rfl found
    exact ⟨_, rfl, steps (c.fetch i tc) _ rfl announced⟩
  | refuse _ _ _ => exact .of_bus rfl
  | @interrupt tc exception requests _ _ outcome =>
    refine ⟨requests, rfl, fun message member => ?_⟩
    refine sends_requests incidental services c i (tc.changeState .readyForAnalysis) message ?_
    rw [outcome]
    exact member
  | @complete tc report requests _ _ outcome =>
    have asked : ∀ message ∈ requests, property message := fun message member => by
      refine sends_requests incidental services c i (tc.changeState .readyForAnalysis) message ?_
      rw [outcome]
      exact member
    have ended : c.Sends property ((c.exhaust i tc).modify i (·.reported report)) := .of_bus rfl
    refine Sends.trans (((ended.trans (.send asked)).trans (.send ?_))) (sends_proceed incidental _)
    intro message member
    simp only [List.mem_cons, List.not_mem_nil, or_false] at member
    rcases member with rfl | rfl <;> exact incidental _ trivial

/-- **What a move publishes**: the announcement of a step with the addresses at that moment, what
starts the sniffer and packet loss with a test case, the announcement that the current test case is
ready, and incidental messages. -/
theorem Move.publishes {input : Input} {result : EStateM.Result PyException (Coordinator td) Bool}
    (move : Move c input result)
    (steps : ∀ (other : Coordinator td) (messages : List Message),
      other.testsuite.addressingTable = c.testsuite.addressingTable →
      other.testsuite.announcement = some messages → ∀ message ∈ messages, property message)
    (starts : ∀ id services i, input = .event (.testCaseStart id) services →
      c.testsuite.currentTc = some i → ∀ message ∈ sniffingMessages i, property message)
    (readies : ∀ message, (finalState result).AnnouncesReady message → property message) :
    c.Sends property (finalState result) := by
  cases move with
  | ignored => exact .refl c
  | refused => exact .refl c
  | empty _ _ _ _ sent =>
    rcases sent with bus | bus
    · exact ⟨_, bus, sends_tunnels incidental _⟩
    · exact .of_bus bus
  | configured _ _ _ => exact ⟨_, rfl, sends_setupMessage incidental _⟩
  | skippedEarly _ _ => exact ⟨_, rfl, sends_setupMessage incidental _⟩
  | recordedEarly _ _ _ =>
    rw [finalState_andThen_ok] at readies ⊢
    exact Sends.trans (.send (sends_setupMessage incidental c))
      ((sends_recordNode _ _).mono readies)
  | @started _ ts _ _ _ =>
    have opened : c.Sends property ((c.withTestsuite ts).send (tunnels ts)) :=
      ⟨_, rfl, sends_tunnels incidental ts⟩
    have announced : c.Sends property (((c.withTestsuite ts).send (tunnels ts)).send
        [(c.withTestsuite ts).setupMessage]) :=
      opened.trans (.send (sends_setupMessage incidental (c.withTestsuite ts)))
    exact announced.trans (sends_proceed incidental _)
  | recordedWaiting _ _ =>
    rw [finalState_andThen_ok] at readies ⊢
    exact (sends_recordNode _ _).mono readies
  | recordedExecuting _ current at_step found _ _ =>
    rw [finalState_andThen_ok] at readies ⊢
    have announced := announcement_executing current at_step found
    exact Sends.trans (.send (steps c _ rfl announced)) ((sends_recordNode _ _).mono readies)
  | recordedFinished _ _ =>
    rw [finalState_andThen_ok] at readies ⊢
    refine Sends.trans ⟨_, rfl, fun message member => ?_⟩ ((sends_recordNode _ _).mono readies)
    rw [List.mem_singleton.mp member]
    exact incidental _ trivial
  | retried _ current _ _ advance =>
    rw [finalState_andThen_ok] at readies ⊢
    refine (advance.publishes incidental current steps).andThen fun value state same => ?_
    subst same
    exact (sends_recordNode _ _).mono readies
  | timedOut state =>
    rw [finalState_andThen_ok] at readies ⊢
    exact (sends_announceReady c).mono readies
  | @executed id services i _ _ current advance =>
    rw [finalState_andThen_ok]
    have started : c.Sends property ((c.modify i (·.changeState .executing)).send
        (sniffingMessages i)) := ⟨_, rfl, starts id services i rfl current⟩
    exact (started.trans (advance.publishes incidental current steps)).andThen
      fun _ state _ => sends_announceStarted incidental state
  | @answered event services i k step _ _ current _ _ _ _ _ _ advance =>
    rw [finalState_andThen_ok]
    have same : (c.answered i k step event).bus = c.bus ∧
        (c.answered i k step event).testsuite.addressingTable = c.testsuite.addressingTable := by
      unfold Coordinator.answered
      split <;> exact ⟨rfl, rfl⟩
    refine Sends.trans (.of_bus same.1) (advance.publishes incidental ?_ ?_)
    · rw [answered_currentTc]
      exact current
    · rw [same.2]
      exact steps
  | restarted _ _ => exact sends_configure incidental _ _
  | selected _ =>
    exact @selectTestcase_rule td (fun after => c.Sends property after) _ _
      (fun i => sends_configure incidental _ i) (sends_proceed incidental _)
  | @skippedCurrent _ _ i named _ _ _ =>
    refine Sends.trans ⟨_, rfl, fun message member => ?_⟩ (sends_proceed incidental _)
    split at member
    · rw [List.mem_singleton.mp member]
      exact incidental _ trivial
    · cases member
  | skippedOther _ _ _ => exact .of_bus rfl
  | skippedInstead _ _ _ => exact .of_bus rfl
  | @skippedExecuting _ _ i j k step _ current at_step found _ _ apart =>
    have elsewhere : c.testsuite.currentTc ≠ some j := fun same =>
      apart (Option.some.inj (current.symm.trans same))
    have kept : (c.testsuite.skip j).currentTc = some i := by
      rw [TestSuite.skip_currentTc_of_ne elsewhere, current]
    have here : (c.testsuite.skip j).testcase i = c.testsuite.testcase i :=
      TestSuite.skip_testcase_of_ne apart
    have announced := announcement_executing (c := c.withTestsuite (c.testsuite.skip j)) kept
      (by rw [withTestsuite_testsuite, here]; exact at_step)
      (by rw [withTestsuite_testsuite, here]; exact found)
    have addresses : (c.testsuite.skip j).addressingTable = c.testsuite.addressingTable := by
      simp only [TestSuite.skip, elsewhere, ↓reduceIte]
      split <;> rfl
    exact ⟨_, rfl, steps (c.withTestsuite (c.testsuite.skip j)) _ addresses announced⟩
  | aborted _ _ =>
    have left (ts : TestSuite td) : c.Sends property (c.withTestsuite ts) := .of_bus rfl
    exact (left _).trans (sends_proceed incidental _)

end Sends

end Coordinator

end Ioppytest
