import Ioppytest.Properties.Announcements
import Ioppytest.EventBus.Bus
import Ioppytest.Lib.InFlight

/-!
# Answers and the steps they answer

An answer finishes the step that the coordinator waits for when it arrives, if it is about the type
of that step. No answer says which step, test case or execution it goes back to, so one that is late
finishes a step that it does not answer. It is never late in a session in which the coordinator is
left alone while an answer is outstanding, and in which every request is answered by one party.
-/

namespace Ioppytest

open Raising

variable {td : TestDescriptions}

namespace TestCase

/-- The step at a position is finished. -/
def Finished (tc : TestCase) (k : Nat) : Prop :=
  tc.sequence[k]?.bind Step.state = some .finished

/-- Whether a step is finished is its state. -/
instance (tc : TestCase) (k : Nat) : Decidable (tc.Finished k) :=
  inferInstanceAs (Decidable (_ = _))

/-- Fetching a step finishes none. -/
theorem Ongoing.finished_execute {tc after : TestCase} {k : Nat} (ongoing : tc.Ongoing)
    (fetched : tc.nextStep = (some k, after)) (j : Nat) :
    (after.changeState .executing).Finished j ↔ tc.Finished j := by
  obtain ⟨step, found, pristine, executable, -, -, rfl⟩ := ongoing.nextStep_some fetched
  have unfinished : step.state ≠ some .finished := by
    rw [pristine.1, Step.initialState, if_pos executable]
    decide
  have steps : (({ tc with currentStep := some k, stepIt := k + 1 }.modifyStep k
      (·.changeState (some .executing))).changeState .executing).sequence[j]? =
        tc.sequence[j]?.map fun step =>
          if k = j then step.changeState (some .executing) else step :=
    modifyStep_getElem? _ _ _ _
  unfold Finished
  rw [steps]
  by_cases here : k = j
  · subst here
    simp [found, unfinished]
  · simp [here]

/-- Neither does the end of the iterator. -/
theorem Ongoing.finished_exhaust {tc after : TestCase} (ongoing : tc.Ongoing)
    (fetched : tc.nextStep = (none, after)) (j : Nat) :
    (after.changeState .readyForAnalysis).Finished j ↔ tc.Finished j := by
  obtain ⟨-, _, _, rfl, -⟩ := ongoing.nextStep_none fetched
  exact Iff.rfl

end TestCase

namespace Coordinator

variable {upper : String → String} {testsuiteName : String} {c : Coordinator td} {input : Input}

/-- Executing the next step finishes no step. -/
theorem Advance.finished {services : Services} {i : Fin td.size}
    {result : EStateM.Result PyException (Coordinator td) Unit}
    (advance : Advance services c i result) (ongoing : (c.testsuite.testcase i).Ongoing)
    (j : Fin td.size) (k : Nat) :
    ((finalState result).testsuite.testcase j).Finished k ↔
      (c.testsuite.testcase j).Finished k := by
  refine @Advance.each td (fun j tc => tc.Finished k ↔ (c.testsuite.testcase j).Finished k)
    c services i result advance (fun _ _ same _ => same) (fun _ _ same => same)
    (fun _ _ fetched => ongoing.finished_execute fetched k) (fun tc fetched => ?_)
    (fun _ => Iff.rfl) j
  have past := ongoing.finished_exhaust fetched k
  exact ⟨past, past, fun _ _ _ => past⟩

/-- Handling the input finishes the step. -/
def Finishes (upper : String → String) (c : Coordinator td) (input : Input) (i : Fin td.size)
    (k : Nat) : Prop :=
  ¬ (c.testsuite.testcase i).Finished k ∧
    ((next upper c input).testsuite.testcase i).Finished k

/-- Whether an input finishes a step is decided by handling it. -/
instance (upper : String → String) (c : Coordinator td) (input : Input) (i : Fin td.size)
    (k : Nat) : Decidable (c.Finishes upper input i k) :=
  inferInstanceAs (Decidable (_ ∧ _))

/-- The step is awaited, and the event is about its type. -/
def Fitting (c : Coordinator td) (event : Event) (i : Fin td.size) (k : Nat) : Prop :=
  c.awaited = some (i, k) ∧
    ∃ step, (c.testsuite.testcase i).sequence[k]? = some step ∧ stepKind event = some step.type

/-- An answer is the answer to a step, has its attributes and is not blank. -/
theorem isAnswer_kind {event : Event} (answers : event.IsAnswer) :
    controlEventsTriggers event = some .stepExecuted ∧ malformed event = false ∧
      ∀ type, blank type event = false := by
  cases event with
  | stepStimuliExecuted node => exact ⟨rfl, rfl, fun type => by cases type <;> rfl⟩
  | stepVerifyExecuted verifyResponse node =>
    match verifyResponse with
    | none | some none => exact answers.elim
    | some (some response) => exact ⟨rfl, rfl, fun type => by cases type <;> rfl⟩
  | sessionConfiguration _ _ _ | configurationExecuted _ _ | agentTunStarted _ | testCaseStart _
  | stepCheckExecuted _ _ | testCaseSelect _ | testSuiteStart | testCaseRestart | testCaseSkip _
  | testCaseAbort => exact answers.elim

/-- An answer finishes the awaited step if it is about its type. -/
theorem answered_finished {event : Event} {i : Fin td.size} {k : Nat} {step : Step}
    (found : (c.testsuite.testcase i).sequence[k]? = some step)
    (under : step.state = some .executing) (j : Fin td.size) (l : Nat) :
    (¬ (c.testsuite.testcase j).Finished l ∧
      ((c.answered i k step event).testsuite.testcase j).Finished l) ↔
    (i, k) = (j, l) ∧ stepKind event = some step.type := by
  unfold answered
  by_cases fits : stepKind event = some step.type
  · rw [if_pos fits]
    by_cases here : j = i
    · subst here
      have steps : ((c.modify j (·.modifyStep k (answerTo event))).testsuite.testcase
          j).sequence[l]? = (c.testsuite.testcase j).sequence[l]?.map fun step =>
            if k = l then answerTo event step else step := by
        simpa [modify] using
          TestCase.modifyStep_getElem? (c.testsuite.testcase j) k (answerTo event) l
      unfold TestCase.Finished
      rw [steps]
      by_cases same : k = l
      · subst same
        simp [found, under, fits]
      · simp [same]
    · have apart : i ≠ j := fun same => here same.symm
      simp [modify, here, apart]
  · rw [if_neg fits]
    simp [fits]

/-- **An answer finishes the step that is awaited when it arrives**, and only if it is about its
type. -/
theorem finishes_iff (upper : String → String) (coherent : Coherent c) {event : Event}
    (answers : event.IsAnswer) (services : Services) (j : Fin td.size) (l : Nat) :
    c.Finishes upper (.event event services) j l ↔ c.Fitting event j l := by
  obtain ⟨kind, complete, filled⟩ := isAnswer_kind answers
  by_cases state : c.state = .waitingForStepExecuted
  · obtain ⟨i, current, executing⟩ := coherent.executes state
    obtain ⟨k, step, at_step, -, found, under, -⟩ := executing.current
    obtain ⟨result, handled, advance⟩ :=
      handle_answered upper services state current executing at_step found kind complete
        (filled step.type)
    have finished := advance.finished (answered_current event executing at_step found) j l
    have awaits : c.awaited = some (i, k) := by simp [awaited, state, current, at_step]
    rw [Finishes, next, handled, finalState_andThen_ok, finished,
      answered_finished found under, Fitting, awaits]
    constructor
    · rintro ⟨same, fits⟩
      cases same
      exact ⟨rfl, step, found, fits⟩
    · rintro ⟨same, other, here, fits⟩
      cases Option.some.inj same
      cases found.symm.trans here
      exact ⟨rfl, fits⟩
  · have refused : accepts c.state .stepExecuted = false := by
      cases here : c.state with
      | waitingForStepExecuted => exact absurd here state
      | _ => rfl
    have unchanged : next upper c (.event event services) = c := by
      rw [next, handle_refused kind refused]
      split <;> rfl
    rw [Finishes, unchanged, Fitting, awaited_none state]
    simp

section Requests

open EventBus (requests)

/-- The requests of two parts of the bus. -/
theorem requests_append (first second : List Message) :
    requests (first ++ second) = requests first ++ requests second :=
  List.filter_append ..

/-- Messages that request nothing. -/
theorem requests_nil {messages : List Message}
    (quiet : ∀ message ∈ messages, message.stepRequest? = none) : requests messages = [] := by
  unfold requests
  rw [List.filter_eq_nil_iff]
  intro message member
  simp [quiet message member]

/-- Routine messages request nothing. -/
theorem requests_routine {messages : List Message}
    (routine : ∀ message ∈ messages, message.Routine) : requests messages = [] := by
  apply requests_nil
  intro message member
  have here := routine message member
  cases message with
  | stepStimuliExecute _ _ _ _ | stepVerifyExecute _ _ _ => exact here.elim
  | _ => rfl

/-- Leaving the setup requests nothing. -/
theorem requests_setup (c : Coordinator td) : requests [c.setupMessage] = [] := by
  apply requests_nil
  intro message member
  rw [List.mem_singleton.mp member, setupMessage]
  split <;> rfl

/-- The announcement of a step is one request. -/
theorem requests_step {i : Fin td.size} {step : Step} (executable : step.type.isExecutable = true) :
    ∃ message, requests (c.announceStep i step) = [message] := by
  unfold announceStep Handler.stepExecuteMessage
  cases type : step.type with
  | stimuli => exact ⟨_, rfl⟩
  | verify => exact ⟨_, rfl⟩
  | check | feature =>
    rw [type] at executable
    cases executable

/-- Between two states at most one request is published, and then its step is awaited. -/
def Asks (before after : Coordinator td) : Prop :=
  ∃ sent, after.bus = before.bus ++ sent ∧
    (requests sent = [] ∨ ∃ message, requests sent = [message] ∧ after.awaited.isSome = true)

variable {before middle after : Coordinator td} {sent : List Message}

/-- Nothing is asked for when no message is a request. -/
theorem Asks.quiet (bus : after.bus = before.bus ++ sent) (quiet : requests sent = []) :
    before.Asks after :=
  ⟨sent, bus, .inl quiet⟩

/-- Nothing is asked for when nothing is sent. -/
theorem Asks.silent (bus : after.bus = before.bus) : before.Asks after :=
  .quiet (bus.trans (List.append_nil _).symm) rfl

/-- What is published before requests nothing. -/
theorem Asks.after_quiet (asks : middle.Asks after) (bus : middle.bus = before.bus ++ sent)
    (quiet : requests sent = []) : before.Asks after := by
  obtain ⟨later, appended, few⟩ := asks
  refine ⟨sent ++ later, by rw [appended, bus, List.append_assoc], ?_⟩
  rw [requests_append, quiet, List.nil_append]
  exact few

/-- Nor does what is published later, while the same step is awaited. -/
theorem Asks.then_quiet (asks : before.Asks middle) (bus : after.bus = middle.bus ++ sent)
    (quiet : requests sent = []) (same : after.awaited = middle.awaited) : before.Asks after := by
  obtain ⟨earlier, appended, few⟩ := asks
  refine ⟨earlier ++ sent, by rw [bus, appended, List.append_assoc], ?_⟩
  rw [requests_append, quiet, List.append_nil, same]
  exact few

/-- The handling of a node requests nothing. -/
theorem Asks.recorded (asks : before.Asks middle) (recorded : Recorded middle after) :
    before.Asks after := by
  obtain ⟨ready, bus, routine⟩ := recorded.routine
  exact asks.then_quiet bus (requests_routine routine) recorded.awaited.1

/-- Neither does the announcement of a start. -/
theorem Asks.started (asks : before.Asks middle) :
    before.Asks (finalState middle.announceStarted) := by
  obtain ⟨messages, sent, routine⟩ := announceStarted_routine middle
  rw [sent]
  exact asks.then_quiet rfl (requests_routine routine) rfl

/-- Configuring a test case requests the execution of no step. -/
theorem asks_configure (c : Coordinator td) (i : Fin td.size) : c.Asks (c.configure i) := by
  obtain ⟨sent, bus, configures⟩ := configure_sends c i
  exact .quiet bus (requests_routine (routine_configurationExecute configures))

/-- Neither does going on with the next test case. -/
theorem asks_proceed (c : Coordinator td) : c.Asks c.proceed := by
  rcases proceed_sends c with ⟨-, sent, bus, configures⟩ | ⟨-, bus⟩
  · exact .quiet bus (requests_routine (routine_configurationExecute configures))
  · exact .quiet bus rfl

/-- Executing the next step requests it. -/
theorem Advance.asks {services : Services} {i : Fin td.size}
    {result : EStateM.Result PyException (Coordinator td) Unit}
    (advance : Advance services c i result) (current : c.testsuite.currentTc = some i)
    (ongoing : (c.testsuite.testcase i).Ongoing) : c.Asks (finalState result) := by
  cases advance with
  | @execute k tc step fetched _ executable _ =>
    obtain ⟨message, one⟩ := requests_step (c := c.fetch i tc) (i := i) executable
    obtain ⟨-, -, -, -, -, -, after⟩ := ongoing.nextStep_some fetched
    have at_step : tc.currentStep = some k := by rw [after]; rfl
    have here : ((c.fetch i tc).testsuite.testcase i).currentStep = some k := by
      simpa [fetch, modify, TestCase.changeState] using at_step
    have awaits : (c.fetch i tc).awaited = some (i, k) := by
      have same : (c.fetch i tc).testsuite.currentTc = some i := current
      have state : (c.fetch i tc).state = .waitingForStepExecuted := rfl
      simp [awaited, same, state, here]
    refine ⟨_, rfl, .inr ⟨message, one, ?_⟩⟩
    have kept : ((c.fetch i tc).send ((c.fetch i tc).announceStep i step)).awaited =
        (c.fetch i tc).awaited := rfl
    rw [finalState_ok, kept, awaits]
    rfl
  | refuse _ _ _ => exact .silent rfl
  | @interrupt tc exception asked _ _ outcome =>
    have routine := routine_requests services c i (tc.changeState .readyForAnalysis)
    rw [outcome] at routine
    have quiet : requests asked = [] := requests_routine routine
    exact .quiet rfl quiet
  | @complete tc report asked _ _ outcome =>
    have routine := routine_requests services c i (tc.changeState .readyForAnalysis)
    rw [outcome] at routine
    have quiet : requests asked = [] := requests_routine routine
    have announced (ended : Coordinator td) (info : TestCaseInfo) :
        ended.Asks (ended.send [.testCaseFinished info, .testCaseVerdict report info]).proceed :=
      (asks_proceed _).after_quiet rfl rfl
    exact (announced _ _).after_quiet rfl quiet

/-- **A move requests at most one step**, the one that it leaves the machine waiting for. -/
theorem Move.asks {result : EStateM.Result PyException (Coordinator td) Bool}
    (move : Move c input result) (coherent : Coherent c) : c.Asks (finalState result) := by
  cases move with
  | ignored => exact .silent rfl
  | refused => exact .silent rfl
  | @empty _ _ after _ _ _ _ sent =>
    rcases sent with sent | sent
    · exact .quiet sent (requests_routine (routine_tunnels _))
    · exact .silent sent
  | configured _ _ _ => exact .quiet rfl (requests_setup _)
  | skippedEarly _ _ => exact .quiet rfl (requests_setup _)
  | recordedEarly _ _ _ =>
    rw [finalState_andThen_ok]
    have sent : c.Asks (c.send [c.setupMessage]) := .quiet rfl (requests_setup c)
    exact sent.recorded (recordNode_recorded _)
  | @started services ts _ _ _ =>
    have quiet : requests (tunnels ts ++ [(c.withTestsuite ts).setupMessage]) = [] := by
      rw [requests_append, requests_routine (routine_tunnels ts), requests_setup]
      rfl
    refine (asks_proceed _).after_quiet ?_ quiet
    rw [send_bus, send_bus, List.append_assoc]
    rfl
  | recordedWaiting _ _ =>
    rw [finalState_andThen_ok]
    have same : c.Asks c := .silent rfl
    exact same.recorded (recordNode_recorded _)
  | @recordedExecuting event services i k step state current at_step found executable _ =>
    rw [finalState_andThen_ok]
    obtain ⟨message, one⟩ := requests_step (c := c) (i := i) executable
    have awaits : (c.send (c.announceStep i step)).awaited = some (i, k) := by
      simp [awaited, state, current, at_step]
    have asks : c.Asks (c.send (c.announceStep i step)) :=
      ⟨_, rfl, .inr ⟨message, one, by rw [awaits]; rfl⟩⟩
    exact asks.recorded (recordNode_recorded _)
  | recordedFinished _ _ =>
    rw [finalState_andThen_ok]
    have asks : c.Asks c.conclude := .quiet rfl rfl
    exact asks.recorded (recordNode_recorded _)
  | retried _ current exhausted _ advance =>
    rw [finalState_andThen_ok]
    exact finalState_andThen (advance.asks current exhausted.toOngoing)
      fun _ asks => asks.recorded (recordNode_recorded _)
  | timedOut state =>
    rw [finalState_andThen_ok]
    have same : c.Asks c := .silent rfl
    exact same.recorded (announceReady_recorded state)
  | executed waiting current advance =>
    rw [finalState_andThen_ok]
    have configuring := coherent.configuring waiting current
    have asks := advance.asks current (by simpa [modify] using configuring.start)
    exact finalState_andThen (asks.after_quiet rfl (requests_routine (routine_sniffing _)))
      fun _ later => later.started
  | @answered event services i k step _ _ current executing at_step found _ _ _ advance =>
    rw [finalState_andThen_ok]
    have bus : (c.answered i k step event).bus = c.bus ++ [] := by
      rw [List.append_nil]
      unfold Coordinator.answered
      split <;> rfl
    have asks := advance.asks (by simpa using current)
      (answered_current event executing at_step found)
    exact asks.after_quiet bus rfl
  | restarted _ _ => exact (asks_configure _ _).after_quiet (List.append_nil _).symm rfl
  | selected _ =>
    rw [finalState_ok]
    apply selectTestcase_rule
    · exact fun i => (asks_configure _ i).after_quiet (List.append_nil _).symm rfl
    · exact (asks_proceed _).after_quiet (List.append_nil _).symm rfl
  | @skippedCurrent _ _ i named _ _ _ =>
    have quiet (running : Prop) [Decidable running] :
        requests (if running then [.sniffingStop] else []) = [] := by
      split <;> rfl
    exact (asks_proceed _).after_quiet rfl (quiet _)
  | skippedOther _ _ _ => exact .silent rfl
  | skippedInstead _ _ _ => exact .silent rfl
  | @skippedExecuting _ _ i j k step state current at_step _ executable _ apart =>
    have elsewhere : c.testsuite.currentTc ≠ some j := by
      rw [current]
      exact fun wrong => apart (Option.some.inj wrong)
    have kept : (c.testsuite.skip j).currentTc = some i := by
      rw [TestSuite.skip_currentTc_of_ne elsewhere, current]
    have same : (c.testsuite.skip j).testcase i = c.testsuite.testcase i :=
      TestSuite.skip_testcase_of_ne apart
    obtain ⟨message, one⟩ := requests_step (c := c.withTestsuite (c.testsuite.skip j)) (i := i)
      executable
    refine ⟨_, rfl, .inr ⟨message, one, ?_⟩⟩
    simp [awaited, state, kept, same, at_step]
  | aborted _ _ => exact (asks_proceed _).after_quiet (List.append_nil _).symm rfl

end Requests

/-- While a step is executed, the input is ignored: an event that is not accepted, an answer without
an attribute that its handler reads (on the bus there is none: a missing field is `None`), or the
timer of the configuration. -/
def Harmless (c : Coordinator td) : Input → Prop
  | .event event _ => ∀ name ∈ controlEventsTriggers event,
      accepts c.state name = true → malformed event = true
  | .abortTestcase => False
  | .timeout => True

/-- Harmless inputs are recognised by their event and the step. -/
instance (c : Coordinator td) : DecidablePred c.Harmless := fun input => by
  unfold Harmless
  split <;> infer_instance

/-- An answer that lacks an attribute is an answer. -/
theorem malformed_kind {event : Event} (lacks : malformed event = true) :
    controlEventsTriggers event = some .stepExecuted := by
  cases event with
  | stepVerifyExecuted _ _ | stepCheckExecuted _ _ => rfl
  | _ => cases lacks

/-- A harmless input changes nothing. -/
theorem Harmless.unchanged (upper : String → String) (harmless : c.Harmless input)
    (state : c.state = .waitingForStepExecuted) :
    handled (c.handle upper input) = false ∧ finalState (c.handle upper input) = c := by
  cases input with
  | event event services =>
    cases kind : controlEventsTriggers event with
    | none =>
      have ignored : c.handle upper (.event event services) = .ok false c := by
        rw [handle, dispatch, kind]
        rfl
      rw [ignored]
      exact ⟨rfl, rfl⟩
    | some name =>
      cases accepted : accepts c.state name with
      | false =>
        rw [handle_refused kind accepted]
        split <;> exact ⟨rfl, rfl⟩
      | true =>
        have lacks := harmless name kind accepted
        obtain ⟨message, reported⟩ := answer_malformed c.testsuite lacks
        rw [handle_stepExecuted (malformed_kind lacks) state]
        simp only [stepExecuted, reported, andThen_error]
        exact ⟨rfl, rfl⟩
  | abortTestcase => exact harmless.elim
  | timeout =>
    have ignored : c.handle upper .timeout = .ok false c := by
      rw [handle, if_neg (by rw [state]; decide)]
    rw [ignored]
    exact ⟨rfl, rfl⟩

end Coordinator

namespace Stage

/-- An answer may still come of it, if users leave the requests for automated IUTs to them. -/
def Answerable (d : Deployment) : Stage → Prop
  | .request none message | .pending message => message.node? ∉ d.automated.map some
  | .request (some node) message => message.node? = some node
  | .reply _ => True

/-- Whether a message can be answered is decided by its stage. -/
instance (d : Deployment) : DecidablePred (Answerable d) := fun stage => by
  unfold Answerable
  split <;> infer_instance

variable {d : Deployment} {stage after : Stage}

/-- What reaches its recipient could be answered before. -/
theorem Answerable.of_received (becomes : stage.received = some after)
    (answerable : after.Answerable d) : stage.Answerable d := by
  cases stage with
  | request node message =>
    cases node with
    | none =>
      cases becomes
      exact answerable
    | some node =>
      obtain ⟨event, answer, -⟩ := Option.map_eq_some_iff.mp becomes
      exact (AutomatedIut.onRequest_eq_some answer).2
  | pending _ | reply _ =>
    cases becomes
    exact answerable

/-- A reply that a user's answer becomes answers a step. -/
theorem isAnswer_of_answered {lower : String → String} {verifyNode : Option String}
    {action : String} {userInput : UserInput}
    (honest : ∀ event, stage = .reply event → event.IsAnswer)
    (becomes : stage.answered lower verifyNode action userInput = some after) :
    ∀ event, after = .reply event → event.IsAnswer := by
  rintro event rfl
  cases stage with
  | pending message =>
    simp only [answered] at becomes
    split at becomes
    · rename_i translated
      obtain ⟨_, rfl, same⟩ := Option.map_eq_some_iff.mp becomes
      cases same
      exact MessageTranslator.isAnswer translated
    · cases becomes
  | reply earlier => exact honest event (Option.some.inj becomes)
  | request node message => cases Option.some.inj becomes

/-- So does a reply that a request becomes. -/
theorem isAnswer_of_received (honest : ∀ event, stage = .reply event → event.IsAnswer)
    (becomes : stage.received = some after) : ∀ event, after = .reply event → event.IsAnswer := by
  rintro event rfl
  cases stage with
  | request node message =>
    cases node with
    | none => cases Option.some.inj becomes
    | some node =>
      obtain ⟨_, answer, same⟩ := Option.map_eq_some_iff.mp becomes
      cases same
      exact (AutomatedIut.onRequest_eq_some answer).1
  | reply earlier => exact honest event (Option.some.inj becomes)
  | pending message => cases Option.some.inj becomes

end Stage

namespace EventBus

open Coordinator

variable {d : Deployment} {bus : EventBus td} {action : Action} {parcel : Parcel td}

/-- Something under way changes, and keeps the note of what it goes back to. -/
theorem advance_underWay {n : Nat} {change : Stage → Option Stage} :
    (bus.advance n change).underWay = InFlight.alter bus.underWay n fun parcel =>
      (change parcel.stage).map (Parcel.mk · parcel.origin) := rfl

/-- What is under way after a change was there before, or comes of what was changed. -/
theorem mem_advance {n : Nat} {change : Stage → Option Stage}
    (member : parcel ∈ (bus.advance n change).underWay) :
    parcel ∈ bus.underWay ∨
      ∃ earlier ∈ bus.underWay, change earlier.stage = some parcel.stage := by
  rw [advance_underWay] at member
  rcases InFlight.mem_alter member with early | ⟨earlier, there, kept⟩
  · exact .inl early
  · obtain ⟨stage, becomes, rfl⟩ := Option.map_eq_some_iff.mp kept
    exact .inr ⟨earlier, List.mem_of_getElem? there, becomes⟩

/-- Only requests are published. -/
theorem mem_publish {origin : Option (Ticket td)} {messages : List Message}
    (member : parcel ∈ publish d origin messages) :
    parcel.origin = origin ∧ ∃ node message, parcel.stage = .request node message := by
  obtain ⟨message, -, inside⟩ := List.mem_flatMap.mp member
  obtain ⟨node, -, rfl⟩ := List.mem_map.mp inside
  exact ⟨rfl, node, message, rfl⟩

/-- The coordinator is coherent, and the answers on their way are answers to steps. -/
structure Sound (bus : EventBus td) : Prop where
  /-- The state of the machine and the progress of the test cases fit together. -/
  coherent : Coherent bus.coordinator
  /-- No answer lacks what the coordinator reads. -/
  answers : ∀ parcel ∈ bus.underWay, ∀ event, parcel.stage = .reply event → event.IsAnswer

/-- A change of what is under way that makes answers of requests only. -/
theorem Sound.advance {n : Nat} {change : Stage → Option Stage} (sound : Sound bus)
    (changed : ∀ stage after, (∀ event, stage = .reply event → event.IsAnswer) →
      change stage = some after → ∀ event, after = .reply event → event.IsAnswer) :
    Sound (bus.advance n change) := by
  refine ⟨sound.coherent, fun parcel member => ?_⟩
  rcases mem_advance member with early | ⟨earlier, there, becomes⟩
  · exact sound.answers parcel early
  · exact changed _ _ (sound.answers earlier there) becomes

/-- The coordinator handles an input that it survives. -/
theorem Sound.handle {input : Input} (sound : Sound bus)
    (survives : Survives d.upper bus.coordinator input) : Sound (bus.handle d input) := by
  have coherent := sound.coherent
  refine ⟨(handle_move coherent (oriented coherent (.inr survives))).coherent coherent, ?_⟩
  intro parcel member event reply
  rcases List.mem_append.mp member with early | late
  · exact sound.answers parcel early event reply
  · obtain ⟨-, _, _, request⟩ := mem_publish late
    cases request.symm.trans reply

/-- **Honest components keep the event bus sound.** -/
theorem Sound.next (sound : Sound bus) (honest : Honest d bus action) :
    Sound (bus.next d action) := by
  cases action with
  | control input => exact sound.handle (honest.survives input rfl)
  | receive n => exact sound.advance fun _ _ => Stage.isAnswer_of_received
  | answer n action userInput => exact sound.advance fun _ _ => Stage.isAnswer_of_answered
  | deliver n services =>
    unfold EventBus.next
    dsimp only
    cases given : bus.input? (.deliver n services) with
    | none => exact sound
    | some input =>
      have taken : Sound (bus.advance n fun _ => none) :=
        sound.advance fun _ _ _ becomes => by cases becomes
      exact taken.handle (honest.survives input given)

/-- A bus is sound at first. -/
theorem initial_sound (d : Deployment) : Sound (initial d td) :=
  ⟨initial_coherent, fun _ member => by cases member⟩

/-- The step executions that an answer may still be about, once for each that can come. -/
def outstanding (d : Deployment) (parcels : List (Parcel td)) : List (Option (Ticket td)) :=
  (parcels.filter fun parcel => decide (parcel.stage.Answerable d)).map (·.origin)

/-- What is outstanding of two parts. -/
theorem outstanding_append (first second : List (Parcel td)) :
    outstanding d (first ++ second) = outstanding d first ++ outstanding d second := by
  simp [outstanding]

/-- What is outstanding of a parcel and others. -/
theorem outstanding_cons (parcel : Parcel td) (rest : List (Parcel td)) :
    outstanding d (parcel :: rest) =
      if parcel.stage.Answerable d then parcel.origin :: outstanding d rest
      else outstanding d rest := by
  unfold outstanding
  by_cases answerable : parcel.stage.Answerable d <;> simp [answerable]

/-- A parcel that can be answered is outstanding. -/
theorem mem_outstanding {parcels : List (Parcel td)} (member : parcel ∈ parcels)
    (answerable : parcel.stage.Answerable d) : parcel.origin ∈ outstanding d parcels :=
  List.mem_map_of_mem (List.mem_filter.mpr ⟨member, decide_eq_true answerable⟩)

/-- A change that makes nothing answerable makes no further answer possible. -/
theorem outstanding_advance {n : Nat} {change : Stage → Option Stage}
    (kept : ∀ parcel after, bus.underWay[n]? = some parcel → change parcel.stage = some after →
      after.Answerable d → parcel.stage.Answerable d) :
    (outstanding d (bus.advance n change).underWay).Sublist (outstanding d bus.underWay) := by
  cases there : bus.underWay[n]? with
  | none =>
    rw [advance_underWay, InFlight.alter_none there]
  | some parcel =>
    have before := InFlight.split there
    have here : (outstanding d ((change parcel.stage).map
        (Parcel.mk · parcel.origin)).toList).Sublist (outstanding d [parcel]) := by
      cases becomes : change parcel.stage with
      | none => exact List.nil_sublist _
      | some after =>
        by_cases answerable : after.Answerable d
        · have earlier := kept parcel after there becomes answerable
          simp [outstanding, answerable, earlier]
        · simp [outstanding, answerable]
    have split : outstanding d bus.underWay = outstanding d (bus.underWay.take n) ++
        outstanding d [parcel] ++ outstanding d (bus.underWay.drop (n + 1)) := by
      rw [← outstanding_append, ← outstanding_append, List.append_assoc]
      exact congrArg _ before
    rw [split]
    simp only [advance, there, Option.bind_some, outstanding_append]
    exact ((List.Sublist.refl _).append here).append (List.Sublist.refl _)

/-- When an answer is the only one outstanding, none is once it has been taken. -/
theorem outstanding_take {n : Nat} (there : bus.underWay[n]? = some parcel)
    (answerable : parcel.stage.Answerable d) (few : (outstanding d bus.underWay).length ≤ 1) :
    outstanding d (bus.advance n fun _ => none).underWay = [] := by
  rw [InFlight.split there, outstanding_append, outstanding_cons, if_pos answerable,
    List.length_append, List.length_cons] at few
  have nothing : (outstanding d (bus.advance n fun _ => none).underWay).length = 0 := by
    simp only [advance, there, Option.bind_some, Option.map_none, Option.toList_none,
      List.append_nil, outstanding_append, List.length_append]
    omega
  exact List.length_eq_zero_iff.mp nothing

/-- The members of a list without duplicates that are all equal are at most one. -/
theorem length_le_one {α : Type} {list : List α} (distinct : list.Nodup)
    (same : ∀ x ∈ list, ∀ y ∈ list, x = y) : list.length ≤ 1 := by
  match list with
  | [] => exact Nat.zero_le 1
  | [_] => exact Nat.le_refl 1
  | x :: y :: rest =>
    have equal : x = y := same x (by simp) y (by simp)
    exact absurd (equal ▸ List.mem_cons_self) (List.nodup_cons.mp distinct).1

/-- A request can be answered by one party only. -/
theorem outstanding_publish {origin : Option (Ticket td)} {messages : List Message}
    {message : Message} (distinct : d.automated.Nodup) (one : requests messages = [message]) :
    (outstanding d (publish d origin messages)).length ≤ 1 := by
  have recipients : (none :: d.automated.map some).Nodup :=
    List.nodup_cons.mpr ⟨by simp, distinct.map (Option.some_injective _)⟩
  have same : ∀ x ∈ (none :: d.automated.map some).filter
        (fun node => decide (Stage.Answerable d (.request node message))),
      ∀ y ∈ (none :: d.automated.map some).filter
        (fun node => decide (Stage.Answerable d (.request node message))), x = y := by
    intro x first y second
    obtain ⟨there, x_answers⟩ := List.mem_filter.mp first
    obtain ⟨here, y_answers⟩ := List.mem_filter.mp second
    have x_answers := of_decide_eq_true x_answers
    have y_answers := of_decide_eq_true y_answers
    cases x with
    | none =>
      cases y with
      | none => rfl
      | some node =>
        have automated : message.node? ∈ d.automated.map some := by
          rw [show message.node? = some node from y_answers]
          exact (List.mem_cons.mp here).resolve_left (by simp)
        exact absurd automated x_answers
    | some node =>
      cases y with
      | none =>
        have automated : message.node? ∈ d.automated.map some := by
          rw [show message.node? = some node from x_answers]
          exact (List.mem_cons.mp there).resolve_left (by simp)
        exact absurd automated y_answers
      | some other => exact x_answers.symm.trans y_answers
  have few := length_le_one (recipients.filter _) same
  have counted : (outstanding d (publish d origin messages)).length =
      ((none :: d.automated.map some).filter
        (fun node => decide (Stage.Answerable d (.request node message)))).length := by
    rw [outstanding, publish, one, List.flatMap_singleton, List.filter_map, List.length_map,
      List.length_map]
    rfl
  rw [counted]
  exact few

/-- The place of the request that a user answers. -/
def answered? : Action → Option Nat
  | .answer n _ _ => some n
  | _ => none

/-- The coordinator is left alone while an answer is outstanding, and every request is answered by
one party. -/
structure Orderly (d : Deployment) (bus : EventBus td) (action : Action) : Prop
    extends Honest d bus action where
  /-- Nothing but the answer acts on the test case while one is outstanding. -/
  undisturbed : ∀ input ∈ control? action,
    outstanding d bus.underWay = [] ∨ bus.coordinator.Harmless input
  /-- Every automated IUT has a node of its own. -/
  distinct : d.automated.Nodup
  /-- Users leave the requests for automated IUTs to them. -/
  assisted : ∀ n ∈ answered? action, ∀ parcel ∈ bus.underWay[n]?, parcel.stage.Answerable d

/-- Order is decided by the answer that is given. -/
instance (d : Deployment) (bus : EventBus td) (action : Action) :
    Decidable (Orderly d bus action) :=
  decidable_of_iff (Honest d bus action ∧
      (∀ input ∈ control? action,
        outstanding d bus.underWay = [] ∨ bus.coordinator.Harmless input) ∧
      d.automated.Nodup ∧
      ∀ n ∈ answered? action, ∀ parcel ∈ bus.underWay[n]?, parcel.stage.Answerable d)
    ⟨fun ⟨honest, undisturbed, distinct, assisted⟩ =>
        ⟨honest, undisturbed, distinct, assisted⟩,
      fun orderly => ⟨orderly.toHonest, orderly.undisturbed, orderly.distinct, orderly.assisted⟩⟩

/-- At most one answer is outstanding, and it goes back to the step that the coordinator waits
for. -/
structure Bound (d : Deployment) (bus : EventBus td) : Prop where
  /-- At most one answer can come. -/
  few : (outstanding d bus.underWay).length ≤ 1
  /-- It is about the awaited step. -/
  own : ∀ origin ∈ outstanding d bus.underWay,
    origin.isSome = true ∧ origin = ticket bus.coordinator bus.executions

/-- While an answer is outstanding, a step is executed. -/
theorem Bound.executing (bound : Bound d bus) (some_out : outstanding d bus.underWay ≠ []) :
    bus.coordinator.state = .waitingForStepExecuted := by
  obtain ⟨origin, member⟩ := List.exists_mem_of_ne_nil _ some_out
  obtain ⟨given, same⟩ := bound.own origin member
  by_contra elsewhere
  have nothing : ticket bus.coordinator bus.executions = none := by
    rw [ticket, awaited_none elsewhere]
    rfl
  rw [same, nothing] at given
  cases given

/-- Requests and replies move on. -/
theorem Bound.advance {n : Nat} {change : Stage → Option Stage} (bound : Bound d bus)
    (kept : ∀ parcel after, bus.underWay[n]? = some parcel → change parcel.stage = some after →
      after.Answerable d → parcel.stage.Answerable d) : Bound d (bus.advance n change) := by
  have fewer := outstanding_advance kept
  exact ⟨fewer.length_le.trans bound.few, fun origin member => bound.own origin (fewer.subset member)⟩

/-- An input that is ignored changes nothing. -/
theorem Bound.harmless {input : Input} (bound : Bound d bus)
    (executing : bus.coordinator.state = .waitingForStepExecuted)
    (harmless : bus.coordinator.Harmless input) : Bound d (bus.handle d input) := by
  obtain ⟨unhandled, same⟩ := harmless.unchanged d.upper executing
  have unchanged : bus.handle d input = bus := by
    simp [handle, unhandled, same, publish, requests]
  rw [unchanged]
  exact bound

/-- An input that is handled when no answer is outstanding requests at most one step. -/
theorem Bound.handle {input : Input} (sound : Sound bus) (distinct : d.automated.Nodup)
    (survives : Survives d.upper bus.coordinator input)
    (quiet : outstanding d bus.underWay = []) : Bound d (bus.handle d input) := by
  have coherent := sound.coherent
  have move : Move bus.coordinator input (bus.coordinator.handle d.upper input) :=
    handle_move coherent (oriented coherent (.inr survives))
  obtain ⟨sent, appended, few⟩ := move.asks coherent
  have fresh : (bus.handle d input).underWay = bus.underWay ++
      publish d (ticket (bus.handle d input).coordinator (bus.handle d input).executions) sent := by
    have published : (finalState (bus.coordinator.handle d.upper input)).bus.drop
        bus.coordinator.bus.length = sent := by
      rw [appended, List.drop_left]
    simp only [EventBus.handle, published]
  rcases few with none_asked | ⟨message, one, awaits⟩
  · have nothing : outstanding d (bus.handle d input).underWay = [] := by
      rw [fresh, outstanding_append, quiet, publish, none_asked]
      rfl
    exact ⟨by simp [nothing], by simp [nothing]⟩
  · have asked : outstanding d (bus.handle d input).underWay = outstanding d
        (publish d (ticket (bus.handle d input).coordinator (bus.handle d input).executions)
          sent) := by
      rw [fresh, outstanding_append, quiet, List.nil_append]
    refine ⟨asked ▸ outstanding_publish distinct one, fun origin member => ?_⟩
    rw [asked] at member
    obtain ⟨parcel, published, rfl⟩ := List.mem_map.mp member
    have same := (mem_publish (List.mem_of_mem_filter published)).1
    refine ⟨?_, same⟩
    rw [same, ticket, Option.isSome_map]
    exact awaits

/-- **Orderly components keep answers bound to the awaited step.** -/
theorem Bound.next (sound : Sound bus) (bound : Bound d bus) (orderly : Orderly d bus action) :
    Bound d (bus.next d action) := by
  cases action with
  | control input =>
    have survives := orderly.survives input rfl
    by_cases quiet : outstanding d bus.underWay = []
    · exact Bound.handle sound orderly.distinct survives quiet
    · have harmless := (orderly.undisturbed input rfl).resolve_left quiet
      exact bound.harmless (bound.executing quiet) harmless
  | receive n => exact bound.advance fun _ _ _ => Stage.Answerable.of_received
  | answer n action userInput =>
    exact bound.advance fun parcel _ there _ _ => orderly.assisted n rfl parcel there
  | deliver n services =>
    unfold EventBus.next
    dsimp only
    cases given : bus.input? (.deliver n services) with
    | none => exact bound
    | some input =>
      obtain ⟨event, answer, -⟩ := Option.map_eq_some_iff.mp given
      obtain ⟨parcel, there, reply⟩ := Option.bind_eq_some_iff.mp answer
      have answerable : parcel.stage.Answerable d := by
        cases stage : parcel.stage with
        | reply _ => trivial
        | request _ _ | pending _ =>
          rw [stage] at reply
          cases reply
      have taken : Sound (bus.advance n fun _ => none) :=
        sound.advance fun _ _ _ becomes => by cases becomes
      exact Bound.handle taken orderly.distinct (orderly.survives input given)
        (outstanding_take there answerable bound.few)

/-- The answer, when it is delivered, finishes no step but the one that it goes back to. -/
def FinishesOwn (d : Deployment) (bus : EventBus td) (n : Nat) (services : Services) : Prop :=
  ∀ event origin, bus.underWay[n]? = some ⟨.reply event, origin⟩ →
    ∀ i k, bus.coordinator.Finishes d.upper (.event event services) i k →
      origin = some ⟨i, k, bus.executions i⟩

/-- The coordinator does not wait for another step of the answer's type, or for another execution of
the step that it goes back to. -/
def Timely (bus : EventBus td) (n : Nat) : Prop :=
  ∀ event origin, bus.underWay[n]? = some ⟨.reply event, origin⟩ →
    ∀ i k, bus.coordinator.Fitting event i k → origin = some ⟨i, k, bus.executions i⟩

/-- Timely answers finish the steps that they go back to. -/
theorem Sound.finishesOwn_iff (sound : Sound bus) (d : Deployment) (n : Nat) (services : Services) :
    bus.FinishesOwn d n services ↔ bus.Timely n := by
  refine forall_congr' fun event => forall_congr' fun origin => forall_congr' fun there => ?_
  have answers := sound.answers _ (List.mem_of_getElem? there) event rfl
  refine forall_congr' fun i => forall_congr' fun k => ?_
  rw [finishes_iff d.upper sound.coherent answers services i k]

/-- An answer that can be delivered is about the awaited step. -/
theorem Bound.timely (bound : Bound d bus) (n : Nat) : bus.Timely n := by
  rintro event origin there i k ⟨awaits, -⟩
  have member := mem_outstanding (d := d) (List.mem_of_getElem? there) trivial
  have same := (bound.own origin member).2
  rw [same, ticket, awaits]
  rfl

/-- No answer is outstanding at first. -/
theorem initial_bound (d : Deployment) : Bound d (initial d td) :=
  ⟨Nat.zero_le 1, fun _ member => by cases member⟩

/-- Honest sessions are sound. -/
theorem reached_sound (reached : Reached d (Honest d) bus) : Sound bus :=
  reached.invariant (initial_sound d) fun _ _ _ sound honest => sound.next honest

/-- Orderly sessions keep answers bound. -/
theorem reached_bound (reached : Reached d (Orderly d) bus) : Sound bus ∧ Bound d bus := by
  have sound {bus : EventBus td} (reached : Reached d (Orderly d) bus) : Sound bus :=
    reached_sound (reached.mono fun _ _ orderly => orderly.toHonest)
  have bound : Bound d bus :=
    reached.invariant (initial_bound d) fun _ _ earlier bound orderly =>
      bound.next (sound earlier) orderly
  exact ⟨sound reached, bound⟩

/-- **An answer finishes only the step that it goes back to exactly when it is timely, and it always
is in an orderly session.** -/
theorem replies_bound (d : Deployment) :
    (∀ bus : EventBus td, Reached d (Honest d) bus → ∀ n services,
      bus.FinishesOwn d n services ↔ bus.Timely n) ∧
    ∀ bus : EventBus td, Reached d (Orderly d) bus → ∀ n services,
      bus.FinishesOwn d n services := by
  constructor
  · intro bus reached n services
    exact (reached_sound reached).finishesOwn_iff d n services
  · intro bus reached n services
    obtain ⟨sound, bound⟩ := reached_bound reached
    exact (sound.finishesOwn_iff d n services).mpr (bound.timely n)

/-- Users execute the steps of the small suite. -/
def smallDeployment : Deployment where
  upper := id
  lower := id
  testsuiteName := "coap"
  automated := []
  verifyNode := none

/-- A user has executed the first step of the small suite. -/
def stimuliExecuted : List Action :=
  [.control (.event .testSuiteStart noServices), .control (.event (.testCaseStart none) noServices),
    .receive 0, .answer 0 "stimuli_executed" (.boolean true)]

/-- The event bus after some actions. -/
def afterActions (actions : List Action) : EventBus smallSuite :=
  actions.foldl (next smallDeployment) (initial smallDeployment smallSuite)

/-- The answer to the first step finishes the step that it was asked for. -/
theorem replies_bound_small :
    (afterActions stimuliExecuted).coordinator.Finishes id
      (.event (.stepStimuliExecuted (some "coap_client")) noServices) smallFirst 0 ∧
    (afterActions stimuliExecuted).FinishesOwn smallDeployment 0 noServices := by
  have permitted : Runs.AllAllowed (next smallDeployment) (Orderly smallDeployment)
      (initial smallDeployment smallSuite) stimuliExecuted := by decide +kernel
  exact ⟨by decide +kernel, (replies_bound smallDeployment).2 _ permitted.reachable 0 noServices⟩

/-- An answer that is still on its way when its test case is restarted finishes the same step of
the next execution. -/
theorem late_reply_finishes :
    ¬ ∀ bus : EventBus smallSuite, Reached smallDeployment (Honest smallDeployment) bus →
      ∀ n services, bus.FinishesOwn smallDeployment n services := by
  intro claimed
  have permitted : Runs.AllAllowed (next smallDeployment) (Honest smallDeployment)
      (initial smallDeployment smallSuite) (stimuliExecuted ++
        [.control (.event .testCaseRestart noServices),
          .control (.event (.testCaseStart none) noServices)]) := by decide +kernel
  have same := claimed _ permitted.reachable 0 noServices
    (.stepStimuliExecuted (some "coap_client")) (some ⟨smallFirst, 0, 1⟩) (by decide +kernel)
    smallFirst 0 (by decide +kernel)
  exact absurd same (by decide +kernel)

end EventBus

end Ioppytest
