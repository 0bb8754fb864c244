import Ioppytest.TestCoordinator.Sending

/-!
# The end of a test case on the bus

Only the end of a test case asks the services about a capture, and only there is a verdict
published. A move has at most one such end, of the test case that was current, and publishes nothing
of the kind around it.
-/

namespace Ioppytest

open Raising

variable {td : TestDescriptions}

/-- The message asks a service about a capture, or gives a verdict. -/
def Message.concludes : Message → Bool
  | .sniffingGetCapture _ => true
  | .interopTestCaseAnalyze .. => true
  | .testCaseVerdict .. => true
  | _ => false

/-- The message does not belong to the end of a test case. -/
def Message.Apart (message : Message) : Prop := message.concludes = false

/-- What the end of a test case publishes. -/
def FinishOutcome.published (info : TestCaseInfo) : FinishOutcome → List Message
  | .refused _ => []
  | .interrupted _ requests => requests
  | .completed report requests => requests ++ [.testCaseFinished info, .testCaseVerdict report info]

namespace Coordinator

variable {services : Services} {i : Fin td.size} {analyze : String → Message}
  {c between after : Coordinator td} {input : Input}

/-- What is published between two states is the end of a test case, and messages around it that do
not belong to it. Those before it are routine. One capture is saved, the one that the sniffer answers
with. -/
def Consults (services : Services) (i : Fin td.size) (analyze : String → Message)
    (c after : Coordinator td) : Prop :=
  after.captures = (c.save services.captureFile).captures ∧
    ∃ before ended later tc info,
      after.bus = c.bus ++ (before ++ ended ++ later) ∧ info.testcaseId = td.id i ∧
        ended = (finishOutcome services (td.id i) analyze tc).published info ∧
        (∀ message ∈ before, message.Apart ∧ message.Routine) ∧ ∀ message ∈ later, message.Apart

/-- Saving looks at the captures only. -/
theorem save_captures_congr {one other : Coordinator td} (same : one.captures = other.captures)
    (file : Option (String × List UInt8)) : (one.save file).captures = (other.save file).captures := by
  simp only [save, same]

/-- Routine messages before the end of a test case. -/
theorem Consults.following
    (sends : c.Sends (fun message => message.Apart ∧ message.Routine) between)
    (kept : between.captures = c.captures) (consults : Consults services i analyze between after) :
    Consults services i analyze c after := by
  obtain ⟨early, earlier, these⟩ := sends
  obtain ⟨saved, before, ended, later, tc, info, bus, named, ending, apart, others⟩ := consults
  refine ⟨saved.trans (save_captures_congr kept _), early ++ before, ended, later, tc, info, ?_, named,
    ending, ?_, others⟩
  · rw [bus, earlier]
    simp only [List.append_assoc]
  · intro message member
    exact (List.mem_append.mp member).elim (these message) (apart message)

/-- Other messages after the end of a test case. -/
theorem Consults.followed (consults : Consults services i analyze c between)
    (sends : between.Sends Message.Apart after) (kept : after.captures = between.captures) :
    Consults services i analyze c after := by
  obtain ⟨late, afterwards, these⟩ := sends
  obtain ⟨saved, before, ended, later, tc, info, bus, named, ending, apart, others⟩ := consults
  refine ⟨kept.trans saved, before, ended, later ++ late, tc, info, ?_, named, ending, apart, ?_⟩
  · rw [afterwards, bus]
    simp only [List.append_assoc]
  · intro message member
    exact (List.mem_append.mp member).elim (others message) (these message)

/-- Configuring a test case consults no service. -/
theorem apart_configure (c : Coordinator td) (i : Fin td.size) :
    c.Sends Message.Apart (c.configure i) := by
  obtain ⟨sent, bus, asks⟩ := configure_sends c i
  refine ⟨sent, bus, fun message member => ?_⟩
  obtain ⟨_, _, _, _, rfl⟩ := asks message member
  rfl

/-- Ending the session consults no service. -/
theorem apart_conclude (c : Coordinator td) : c.Sends Message.Apart c.conclude := by
  refine ⟨_, rfl, fun message member => ?_⟩
  rw [List.mem_singleton.mp member]
  rfl

/-- Going on to the next test case consults no service. -/
theorem apart_proceed (c : Coordinator td) : c.Sends Message.Apart c.proceed := by
  unfold proceed
  cases c.testsuite.pending with
  | none => exact apart_conclude _
  | some i => exact apart_configure c i

/-- Going on to the next test case saves nothing. -/
theorem proceed_captures (c : Coordinator td) : c.proceed.captures = c.captures := by
  unfold proceed
  cases c.testsuite.pending <;> rfl

/-- Opening the tunnels consults no service. -/
theorem apart_tunnels (ts : TestSuite td) : ∀ message ∈ tunnels ts, message.Apart := by
  intro message member
  obtain ⟨_, _, _, rfl⟩ := tunnels_mem member
  rfl

/-- Leaving the setup consults no service. -/
theorem apart_setupMessage (c : Coordinator td) : ∀ message ∈ [c.setupMessage], message.Apart := by
  intro message member
  rw [List.mem_singleton.mp member, setupMessage]
  split <;> rfl

/-- Announcing a step consults no service. -/
theorem apart_announceStep (c : Coordinator td) (i : Fin td.size) (step : Step) :
    ∀ message ∈ c.announceStep i step, message.Apart := by
  intro message member
  rcases announceStep_mem member with ⟨_, _, _, _, rfl⟩ | ⟨_, _, _, rfl⟩ <;> rfl

/-- Starting the sniffer consults no service for a capture. -/
theorem apart_sniffingMessages (i : Fin td.size) :
    ∀ message ∈ (sniffingMessages i : List Message), message.Apart := by
  intro message member
  rcases sniffingMessages_mem member with ⟨_, _, _, _, rfl⟩ | ⟨_, rfl⟩ <;> rfl

/-- Announcing the start consults no service. -/
theorem apart_announceStarted (c : Coordinator td) :
    c.Sends Message.Apart (finalState c.announceStarted) := by
  obtain ⟨messages, sent, announces⟩ := announceStarted_sends c
  rw [sent]
  refine .send fun message member => ?_
  obtain ⟨_, rfl⟩ := announces message member
  rfl

/-- Announcing a start saves nothing. -/
theorem announceStarted_captures (c : Coordinator td) :
    (finalState c.announceStarted).captures = c.captures := by
  obtain ⟨messages, sent, -⟩ := announceStarted_sends c
  rw [sent]
  rfl

/-- Recording a node consults no service. -/
theorem Recorded.apart_messages {before after : Coordinator td} (recorded : Recorded before after) :
    before.Sends Message.Apart after := by
  obtain ⟨ready, bus, announces⟩ := recorded.messages
  refine ⟨ready, bus, fun message member => ?_⟩
  obtain ⟨_, _, rfl⟩ := announces message member
  rfl

/-- Executing the next step publishes its announcement or the end of the test case. -/
theorem Advance.consults {result : EStateM.Result PyException (Coordinator td) Unit}
    (advance : Advance services c i result) :
    c.Sends Message.Apart (finalState result) ∨
      Consults services i (c.analyzeRequest i) c (finalState result) := by
  cases advance with
  | execute _ _ _ _ => exact .inl ⟨_, rfl, apart_announceStep _ _ _⟩
  | refuse _ _ _ => exact .inl (.of_bus rfl)
  | @interrupt tc exception requests _ _ outcome =>
    right
    refine ⟨rfl, [], requests, [], tc.changeState .readyForAnalysis, testcaseInfo c.testsuite i, ?_,
      rfl, ?_, by simp, by simp⟩
    · rw [List.nil_append, List.append_nil]
      rfl
    · rw [outcome]
      rfl
  | @complete tc report requests _ _ outcome =>
    right
    have ended := fun info => congrArg (FinishOutcome.published info) outcome
    have begun (info : TestCaseInfo) (named : info.testcaseId = td.id i) :
        Consults services i (c.analyzeRequest i) c
          (((c.exhaust i tc).consulted services i (·.reported report) requests).send
            [.testCaseFinished info, .testCaseVerdict report info]) := by
      refine ⟨rfl, [], requests ++ [.testCaseFinished info, .testCaseVerdict report info], [],
        tc.changeState .readyForAnalysis, info, ?_, named, (ended info).symm, by simp, by simp⟩
      rw [List.nil_append, List.append_nil, ← List.append_assoc]
      rfl
    exact (begun _ rfl).followed (apart_proceed _) (proceed_captures _)

/-- **Only the end of the current test case asks the services about a capture and gives a
verdict.** -/
theorem Move.consults {result : EStateM.Result PyException (Coordinator td) Bool}
    (move : Move c input result) :
    c.Sends Message.Apart (finalState result) ∨
      ∃ event services i, input = .event event services ∧ c.testsuite.currentTc = some i ∧
        Consults services i (c.analyzeRequest i) c (finalState result) := by
  cases move with
  | ignored => exact .inl (.refl c)
  | refused => exact .inl (.refl c)
  | empty _ _ _ _ sent =>
    left
    rcases sent with bus | bus
    · exact ⟨_, bus, apart_tunnels _⟩
    · exact .of_bus bus
  | configured _ _ _ => exact .inl ⟨_, rfl, apart_setupMessage _⟩
  | skippedEarly _ _ => exact .inl ⟨_, rfl, apart_setupMessage _⟩
  | recordedEarly _ _ _ =>
    left
    rw [finalState_andThen_ok]
    exact Sends.trans (.send (apart_setupMessage c)) (recordNode_recorded _).apart_messages
  | @started _ ts _ _ _ =>
    left
    have opened : c.Sends Message.Apart ((c.withTestsuite ts).send (tunnels ts)) :=
      ⟨_, rfl, apart_tunnels ts⟩
    exact (opened.trans (.send (apart_setupMessage (c.withTestsuite ts)))).trans (apart_proceed _)
  | recordedWaiting _ _ =>
    left
    rw [finalState_andThen_ok]
    exact (recordNode_recorded _).apart_messages
  | @recordedExecuting _ _ i k step _ _ _ _ _ _ =>
    left
    rw [finalState_andThen_ok]
    exact Sends.trans (.send (apart_announceStep c i step)) (recordNode_recorded _).apart_messages
  | recordedFinished _ _ =>
    left
    rw [finalState_andThen_ok]
    exact (apart_conclude c).trans (recordNode_recorded _).apart_messages
  | @retried event services i result _ current _ _ advance =>
    rw [finalState_andThen_ok]
    have recorded (state : Coordinator td) :
        state.Sends Message.Apart (finalState (state.recordNode (some event))) :=
      (recordNode_recorded _).apart_messages
    cases advance.consults with
    | inl sends => exact .inl (sends.andThen fun _ state _ => recorded state)
    | inr consults =>
      refine .inr ⟨event, services, i, rfl, current, ?_⟩
      cases result with
      | ok value state =>
        exact consults.followed (recorded state) (recordNode_recorded _).captures
      | error exception state => exact consults
  | timedOut state =>
    left
    rw [finalState_andThen_ok]
    exact (announceReady_recorded state).apart_messages
  | @executed id services i result _ current advance =>
    rw [finalState_andThen_ok]
    have started : c.Sends (fun message => message.Apart ∧ message.Routine)
        ((c.modify i (·.changeState .executing)).send (sniffingMessages i)) :=
      ⟨_, rfl, fun message member =>
        ⟨apart_sniffingMessages i message member, routine_sniffing i message member⟩⟩
    cases advance.consults with
    | inl sends =>
      have early := started.mono fun _ both => both.1
      exact .inl ((early.trans sends).andThen fun _ state _ => apart_announceStarted state)
    | inr consults =>
      refine .inr ⟨_, services, i, rfl, current, ?_⟩
      have ended : Consults services i (c.analyzeRequest i) c (finalState result) :=
        consults.following started rfl
      cases result with
      | ok value state =>
        exact ended.followed (apart_announceStarted state) (announceStarted_captures state)
      | error exception state => exact ended
  | @answered event services i k step result _ current _ _ _ _ _ _ advance =>
    rw [finalState_andThen_ok]
    have same : (c.answered i k step event).bus = c.bus ∧
        (c.answered i k step event).analyzeRequest i = c.analyzeRequest i ∧
        (c.answered i k step event).captures = c.captures := by
      unfold Coordinator.answered
      split <;> exact ⟨rfl, rfl, rfl⟩
    have marked {property : Message → Prop} : c.Sends property (c.answered i k step event) :=
      .of_bus same.1
    cases advance.consults with
    | inl sends => exact .inl (Sends.trans marked sends)
    | inr consults =>
      rw [same.2.1] at consults
      exact .inr ⟨event, services, i, rfl, current, consults.following marked same.2.2⟩
  | restarted _ _ => exact .inl (apart_configure _ _)
  | selected _ =>
    exact .inl (@selectTestcase_rule td (fun after => c.Sends Message.Apart after) _ _
      (fun i => apart_configure _ i) (apart_proceed _))
  | @skippedCurrent _ _ i named _ _ _ =>
    left
    refine Sends.trans ⟨_, rfl, fun message member => ?_⟩ (apart_proceed _)
    split at member
    · rw [List.mem_singleton.mp member]
      rfl
    · cases member
  | skippedOther _ _ _ => exact .inl (.of_bus rfl)
  | skippedInstead _ _ _ => exact .inl (.of_bus rfl)
  | skippedExecuting _ _ _ _ _ _ _ => exact .inl ⟨_, rfl, apart_announceStep _ _ _⟩
  | aborted _ _ =>
    have left (ts : TestSuite td) : c.Sends Message.Apart (c.withTestsuite ts) := .of_bus rfl
    exact .inl ((left _).trans (apart_proceed _))

end Coordinator

end Ioppytest
