import Ioppytest.TestCoordinator.Moves

/-!
# Sessions

The runs of a coordinator from its bootstrap. An uncaught exception ends the process that handles
the events of the bus, so most properties are about surviving runs; others assume instead that
requests for skipping and selecting name test cases of the suite. Both kinds of runs go through
coherent states only.
-/

namespace Ioppytest

open Raising Transitions

variable {td : TestDescriptions}

namespace Coordinator

/-- Requests for skipping and selecting carry no id or the id of a test case of the suite. -/
def Input.Known (td : TestDescriptions) : Input → Prop
  | .event (.testCaseSkip (some (some id))) _ => (td.find id).isSome
  | .event (.testCaseSelect (some (some id))) _ => (td.find id).isSome
  | _ => True

/-- `handle_control` returns: an exception that the event raises is one it catches. Aborts and the
timer are not handled there. -/
def Survives (upper : String → String) (c : Coordinator td) : Input → Prop
  | .event event services =>
    ∀ exception, raised (c.handle upper (.event event services)) = some exception →
      exception.caughtByHandleControl = true
  | _ => True

/-- Survival is decided by handling the input. -/
instance (upper : String → String) (c : Coordinator td) :
    (input : Input) → Decidable (Survives upper c input)
  | .event event services =>
    decidable_of_iff ((raised (c.handle upper (.event event services))).all
      PyException.caughtByHandleControl = true) (Option.all_eq_true _ _)
  | .abortTestcase => inferInstanceAs (Decidable True)
  | .timeout => inferInstanceAs (Decidable True)

/-- The input is handled by a transition that is completed. -/
def handled : EStateM.Result PyException (Coordinator td) Bool → Bool
  | .ok accepted _ => accepted
  | .error _ _ => false

/-- A completed transition leads to the next coordinator. -/
theorem handle_handled {upper : String → String} {c : Coordinator td} {input : Input}
    (accepted : handled (c.handle upper input) = true) :
    c.handle upper input = .ok true (next upper c input) := by
  unfold next
  cases result : c.handle upper input with
  | ok value after =>
    rw [result] at accepted
    obtain rfl : value = true := accepted
    rfl
  | error exception after =>
    rw [result] at accepted
    cases accepted

/-- The input, when it is handled, begins a new execution of the test case. -/
def reinitialises (c : Coordinator td) (i : Fin td.size) : Input → Bool
  | .event .testSuiteStart _ => true
  | .event .testCaseRestart _ => c.testsuite.currentTc == some i
  | .event (.testCaseSelect id) _ =>
    c.testsuite.currentTc == some i || id.bind c.testsuite.getTestcase == some i
  | _ => false

/-- The coordinator once it has been bootstrapped. -/
def initial (upper : String → String) (td : TestDescriptions) (testsuiteName : String) :
    Coordinator td :=
  finalState ((trigger upper noServices .bootstrap none).run (new td testsuiteName))

/-- The coordinators that a session reaches by allowed inputs. -/
abbrev Reached (upper : String → String) (testsuiteName : String)
    (allowed : Coordinator td → Input → Prop) : Coordinator td → Prop :=
  Runs.Reachable (next upper) allowed (initial upper td testsuiteName)

variable {upper : String → String} {testsuiteName : String} {c : Coordinator td} {input : Input}

/-- Bootstrapping leads to the state that waits for a configuration. -/
theorem initial_eq : initial upper td testsuiteName =
    (new td testsuiteName).withState .waitingForTestsuiteConfig := by
  have bootstrapped (c : Coordinator td) (state : c.state = .bootstrapping) :
      (fire upper noServices 15 (.event .bootstrapped) none).run c =
        .ok true (c.withState .waitingForTestsuiteConfig) := by
    rw [fire_unconditional _ _ _ state rfl]
    simp [follow, states, Handler.callback]
  have null : (new td testsuiteName).state = .null := rfl
  rw [initial, trigger_run _ _ null rfl]
  simp only [follow, callbacks_nil, callbacks_cons, machine_states, states, model_callback,
    model_setState, Handler.callback, EStateM.run_bind, andThen_ok]
  rw [bootstrapped _ rfl]
  rfl

/-- A coordinator is coherent at first. -/
theorem initial_coherent : Coherent (initial upper td testsuiteName) := by
  rw [initial_eq]
  exact .setup (.inl rfl) rfl fun late => by cases late

/-- An event that has no transition leaves a coordinator as it is. -/
theorem next_refused {event : Event} {services : Services} {name : TriggerName}
    (kind : controlEventsTriggers event = some name) (refused : accepts c.state name = false) :
    next upper c (.event event services) = c := by
  rw [next, handle_refused kind refused]
  split <;> rfl

/-- Leaving and entering a state of an ongoing session does not touch its test cases. -/
theorem reenter_testsuite {services : Services} (accepted : ongoing c.state = true) :
    (finalState (c.reenter services)).testsuite = c.testsuite := by
  unfold reenter
  cases state : c.state with
  | waitingForIutConfigurationExecuted | waitingForTestcaseStart => rfl
  | waitingForStepExecuted =>
    dsimp only
    split <;> rfl
  | _ =>
    rw [state] at accepted
    cases accepted

variable (upper) in
/-- While a session goes on, the current test case is skipped in place of an unknown one. -/
theorem next_skip_unknown {id : String} (services : Services) (unknown : td.find id = none)
    (accepted : ongoing c.state = true) :
    (next upper c (.event (.testCaseSkip (some (some id))) services)).testsuite =
      match c.testsuite.currentTc with
      | some i => c.testsuite.skip i
      | none => c.testsuite := by
  rw [next, handle_testCaseSkip accepted, finalState_andThen_ok]
  cases current : c.testsuite.currentTc with
  | none =>
    have raises : c.skipTestcase services (some (some id)) =
        .error (skipError (some id)) c := by
      simp [skipTestcase, current, unknown]
    rw [raises]
    rfl
  | some i =>
    have apart : td.id i ≠ id := TestDescriptions.find_eq_none.mp unknown i
    have instead : c.skipTestcase services (some (some id)) =
        (c.withTestsuite (c.testsuite.skip i)).reenter services := by
      simp [skipTestcase, current, unknown, Option.filter, apart]
    rw [instead]
    exact reenter_testsuite accepted

/-- Before the start there is no current test case. -/
theorem Coherent.idle (coherent : Coherent c) (setup : c.Setup) : c.testsuite.currentTc = none := by
  cases coherent with
  | setup _ idle _ | finished _ idle _ _ _ => exact idle
  | waiting wrong _ _ _ =>
    rcases setup with state | state <;> rcases wrong with wrong | wrong <;>
      cases state.symm.trans wrong
  | executing _ wrong _ _ _ | stuck _ wrong _ _ _ =>
    rcases setup with state | state <;> cases state.symm.trans wrong

/-- A suite without test cases is never left to be started. -/
theorem Coherent.started_nonempty (coherent : Coherent c)
    (state : c.state = .waitingForTestsuiteStart) : 0 < td.size := by
  cases coherent with
  | setup _ _ nonempty => exact nonempty state
  | waiting _ nonempty _ _ | finished _ _ nonempty _ _ => exact nonempty
  | executing i _ _ _ _ | stuck i _ _ _ _ => exact i.pos

/-- The start of a suite is accepted exactly until it is started, if it has test cases. -/
theorem handled_start_iff {services : Services} (coherent : Coherent c) :
    handled (c.handle upper (.event .testSuiteStart services)) = true ↔
      c.Setup ∧ 0 < td.size := by
  by_cases setup : c.Setup
  · by_cases nonempty : 0 < td.size
    · obtain ⟨ts, -, -, accepted⟩ :=
        handle_started upper services setup (coherent.idle setup) nonempty
      rw [accepted]
      exact iff_of_true rfl ⟨setup, nonempty⟩
    · have state : c.state = .waitingForTestsuiteConfig :=
        setup.resolve_right fun late => nonempty (coherent.started_nonempty late)
      obtain ⟨ts, reset, -⟩ := TestSuite.reinit_ok upper c.testsuite (coherent.idle setup)
      refine iff_of_false ?_ fun accepted => nonempty accepted.2
      rw [handle_testSuiteStart (.inl state)]
      simp [startTestsuite, reset, reenter, state, Nat.eq_zero_of_not_pos nonempty, handled]
  · have refused : accepts c.state .startTestsuite = false := by
      cases named : c.state with
      | waitingForTestsuiteConfig => exact absurd (.inl named) setup
      | waitingForTestsuiteStart => exact absurd (.inr named) setup
      | _ => rfl
    rw [handle_refused rfl refused]
    refine iff_of_false ?_ fun accepted => setup accepted.1
    split <;> exact Bool.false_ne_true

/-- Where no test case is at its end, leaving and entering the state returns to it. -/
theorem Coherent.reenter (coherent : Coherent c) (services : Services) (nonempty : 0 < td.size)
    (elsewhere : c.state ≠ .preparingNextStep) :
    ∃ left, c.reenter services = .ok () left ∧ left.state = c.state ∧
      left.testsuite.currentTc = c.testsuite.currentTc ∧
      left.testsuite.nodesConfigured = c.testsuite.nodesConfigured := by
  have filled : td.size ≠ 0 := Nat.ne_of_gt nonempty
  unfold Coordinator.reenter
  cases coherent with
  | setup early _ _ =>
    rcases early with state | state
    · simp only [state, filled, ↓reduceIte]
      exact ⟨_, rfl, state, rfl, rfl⟩
    · simp only [state]
      exact ⟨_, rfl, state, rfl, rfl⟩
  | waiting waits _ _ _ =>
    rcases waits with state | state
    · simp only [state]
      exact ⟨_, rfl, state, rfl, rfl⟩
    · simp only [state]
      exact ⟨_, rfl, state, rfl, rfl⟩
  | executing i state current _ executing =>
    obtain ⟨k, step, at_step, -, found, -, -⟩ := executing.current
    simp only [state, announcement_executing current at_step found]
    exact ⟨_, rfl, state, rfl, rfl⟩
  | stuck _ state _ _ _ => exact absurd state elsewhere
  | finished state _ _ _ _ =>
    simp only [state]
    exact ⟨_, rfl, rfl, rfl, rfl⟩

variable (upper) in
/-- Skipping an unknown test case while a step is executed skips the current one, which leaves no
step to be announced. -/
theorem handle_disorienting_eq (coherent : Coherent c) (disorients : Disorients c input) :
    ∃ i, c.handle upper input = .error .attributeError (c.withTestsuite (c.testsuite.skip i)) := by
  obtain ⟨state, id, services, rfl, unknown⟩ := disorients
  cases coherent with
  | executing i _ current others executing =>
    refine ⟨i, ?_⟩
    rw [handle_testCaseSkip (by rw [state]; rfl)]
    have unnamed : c.testsuite.currentTc.filter (td.id · = id) = none := by
      simp [current, Option.filter, TestDescriptions.find_eq_none.mp unknown i]
    have gone : (c.testsuite.skip i).announcement = none := by
      have idle := TestSuite.skip_currentTc c.testsuite i fun _ => by
        rw [executing.state]
        decide
      rw [if_pos current] at idle
      simp [TestSuite.announcement, idle]
    rw [current] at unnamed
    simp only [skipTestcase, current, unnamed, unknown, Option.none_or, reenter,
      withTestsuite_state, state, withTestsuite_testsuite, gone, andThen_error]
  | setup wrong _ _ | waiting wrong _ _ _ =>
    rcases wrong with wrong | wrong <;> rw [state] at wrong <;> cases wrong
  | stuck _ wrong _ _ _ | finished wrong _ _ _ _ =>
    rw [state] at wrong
    cases wrong

variable (upper) in
/-- It is not survived. -/
theorem handle_disorienting (coherent : Coherent c) (disorients : Disorients c input) :
    raised (c.handle upper input) = some .attributeError := by
  obtain ⟨i, handled⟩ := handle_disorienting_eq upper coherent disorients
  rw [handled, raised_error]

/-- Known ids and survival each exclude the input that coherence does not withstand. -/
theorem oriented (coherent : Coherent c)
    (tame : input.Known td ∨ Survives upper c input) : ¬ Disorients c input := by
  intro disorients
  have uncaught := handle_disorienting upper coherent disorients
  obtain ⟨-, id, services, rfl, unknown⟩ := disorients
  rcases tame with known | survives
  · simp [Input.Known, unknown] at known
  · exact absurd (survives _ uncaught) (by decide)

/-- **Sessions go through coherent states.** -/
theorem reached_coherent {allowed : Coordinator td → Input → Prop}
    (tame : ∀ c input, allowed c input → input.Known td ∨ Survives upper c input)
    (reached : Reached upper testsuiteName allowed c) : Coherent c :=
  reached.invariant initial_coherent fun _ _ _ coherent permitted =>
    (handle_move coherent (oriented coherent (tame _ _ permitted))).coherent coherent

/-- Every allowed input of a session is handled by a move. -/
theorem reached_move {allowed : Coordinator td → Input → Prop}
    (tame : ∀ c input, allowed c input → input.Known td ∨ Survives upper c input)
    (reached : Reached upper testsuiteName allowed c) (permitted : allowed c input) :
    Move c input (c.handle upper input) :=
  handle_move (reached_coherent tame reached)
    (oriented (reached_coherent tame reached) (tame _ _ permitted))

section Start

/-- The suite has been started. -/
def Begun (c : Coordinator td) : Prop := ¬ c.Setup

/-- Going on with the next test case does not lead back to the setup. -/
theorem proceed_begun (c : Coordinator td) : c.proceed.Begun := by
  intro early
  rcases proceed_state c with state | state <;> rw [Setup, state] at early <;>
    rcases early with wrong | wrong <;> cases wrong

/-- Executing the next step does not lead back to the setup. -/
theorem Advance.begun {services : Services} {i : Fin td.size}
    {result : EStateM.Result PyException (Coordinator td) Unit}
    (advance : Advance services c i result) : (finalState result).Begun := by
  cases advance with
  | execute _ _ _ _ => rintro (wrong | wrong) <;> cases wrong
  | refuse _ _ _ => rintro (wrong | wrong) <;> cases wrong
  | interrupt _ _ _ => rintro (wrong | wrong) <;> cases wrong
  | complete _ _ _ => exact proceed_begun _

/-- Neither does the handling of a node. -/
theorem Recorded.begun {before after : Coordinator td} (recorded : Recorded before after)
    (begun : before.Begun) : after.Begun := by
  rcases recorded.state with same | ⟨-, past⟩
  · rwa [Begun, Setup, same]
  · rw [Begun, Setup, past]
    decide

/-- Once the suite is started, no move leads back to the setup. -/
theorem Move.begun {result : EStateM.Result PyException (Coordinator td) Bool}
    (move : Move c input result) (begun : c.Begun) : (finalState result).Begun := by
  cases move with
  | ignored => exact begun
  | refused => exact begun
  | empty _ early _ _ _ => exact absurd early begun
  | configured _ state _ => exact absurd (.inl state) begun
  | skippedEarly state _ => exact absurd (.inl state) begun
  | recordedEarly _ early _ => exact absurd early begun
  | started _ early _ => exact absurd early begun
  | recordedWaiting _ _ =>
    rw [finalState_andThen_ok]
    exact (recordNode_recorded _).begun begun
  | recordedExecuting _ _ _ _ _ _ =>
    rw [finalState_andThen_ok]
    exact (recordNode_recorded _).begun begun
  | recordedFinished _ _ =>
    rw [finalState_andThen_ok]
    refine (recordNode_recorded _).begun ?_
    rintro (wrong | wrong) <;> cases wrong
  | retried _ _ _ _ advance =>
    rw [finalState_andThen_ok]
    exact finalState_andThen advance.begun fun _ later => (recordNode_recorded _).begun later
  | timedOut state =>
    rw [finalState_andThen_ok]
    exact (announceReady_recorded state).begun begun
  | executed _ _ advance =>
    rw [finalState_andThen_ok]
    refine finalState_andThen advance.begun fun after later => ?_
    obtain ⟨messages, sent, -⟩ := announceStarted_sends after
    rw [sent]
    exact later
  | answered _ _ _ _ _ _ _ _ advance =>
    rw [finalState_andThen_ok]
    exact advance.begun
  | restarted _ _ => rintro (wrong | wrong) <;> cases wrong
  | selected _ =>
    rw [finalState_ok]
    apply selectTestcase_rule
    · rintro i (wrong | wrong) <;> cases wrong
    · exact proceed_begun _
  | skippedCurrent _ _ _ => exact proceed_begun _
  | skippedOther _ _ _ => exact begun
  | skippedInstead _ _ _ => exact begun
  | skippedExecuting _ _ _ _ _ _ _ => exact begun
  | aborted _ _ => exact proceed_begun _

/-- Once it has been left, the state that waits for a configuration is not entered again. -/
theorem Move.past {result : EStateM.Result PyException (Coordinator td) Bool}
    (move : Move c input result) (past : c.state ≠ .waitingForTestsuiteConfig) :
    (finalState result).state ≠ .waitingForTestsuiteConfig := by
  by_cases begun : c.Begun
  · exact fun back => move.begun begun (.inl back)
  · have early : c.Setup := not_not.mp begun
    have idle := early.idle
    have elsewhere (waits : c.Waiting) : False := by
      have going := waits.accepts
      rw [idle.1] at going
      cases going
    have here (state : c.state = .waitingForStepExecuted) : False := by
      rcases early with wrong | wrong <;> cases state.symm.trans wrong
    cases move with
    | ignored => exact past
    | refused => exact past
    | empty _ _ same _ _ => rwa [finalState_error, same]
    | configured _ state _ | skippedEarly state _ => exact absurd state past
    | recordedEarly _ _ _ =>
      rw [finalState_andThen_ok]
      rcases (recordNode_recorded (c := c.send [c.setupMessage]) _).state with same | ⟨_, later⟩
      · rwa [same]
      · rw [later]
        decide
    | started _ _ _ => exact fun back => proceed_begun _ (.inl back)
    | recordedWaiting waits _ | skippedOther waits _ _ | skippedInstead waits _ _ =>
      exact (elsewhere waits).elim
    | executed waits _ _ => exact (elsewhere waits).elim
    | recordedExecuting state _ _ _ _ _ | answered state _ _ _ _ _ _ _ _
    | skippedExecuting state _ _ _ _ _ _ => exact (here state).elim
    | recordedFinished state _ => exact absurd state idle.2.2
    | retried state _ _ _ _ => exact absurd state idle.2.1
    | timedOut state => exact (elsewhere (.inl state)).elim
    | restarted going _ | selected going | skippedCurrent going _ _ =>
      rw [idle.1] at going
      cases going
    | aborted going _ =>
      rcases going with going | state
      · rw [idle.1] at going
        cases going
      · exact absurd state idle.2.1

/-- A session configuration is accepted by suites with test cases, and in one state. -/
theorem Move.accepted_configuration {sessionId : Option String} {users : Option (List String)}
    {configuration : Option SessionConfiguration} {services : Services}
    {result : EStateM.Result PyException (Coordinator td) Bool}
    (move : Move c (.event (.sessionConfiguration sessionId users configuration) services) result)
    (accepted : handled result = true) :
    0 < td.size ∧ c.state = .waitingForTestsuiteConfig ∧
      (finalState result).state = .waitingForTestsuiteStart := by
  cases move with
  | configured nonempty state _ => exact ⟨nonempty, state, rfl⟩
  | ignored => cases accepted
  | refused => cases accepted
  | empty _ _ _ _ _ => cases accepted
  | recordedEarly _ _ kind | recordedWaiting _ kind | recordedExecuting _ _ _ _ _ kind
  | recordedFinished _ kind | retried _ _ _ kind _ | answered _ _ _ _ _ kind _ _ _ => cases kind

/-- An accepted start leaves the setup. -/
theorem Move.accepted_start {services : Services} {first : Coordinator td}
    {result : EStateM.Result PyException (Coordinator td) Bool}
    (move : Move c (.event .testSuiteStart services) result) (accepted : result = .ok true first) :
    first.Begun := by
  cases move with
  | started _ _ _ =>
    injection accepted with _ same
    rw [← same]
    exact proceed_begun _
  | ignored => simp at accepted
  | refused => cases accepted
  | empty _ _ _ _ _ => cases accepted
  | recordedEarly _ _ kind | recordedWaiting _ kind | recordedExecuting _ _ _ _ _ kind
  | recordedFinished _ kind | retried _ _ _ kind _ | answered _ _ _ _ _ kind _ _ _ => cases kind

/-- The coordinators that a session reaches by allowed inputs once its suite has been started. -/
def Started (upper : String → String) (testsuiteName : String)
    (allowed : Coordinator td → Input → Prop) (c : Coordinator td) : Prop :=
  ∃ before services first, Reached upper testsuiteName allowed before ∧
    allowed before (.event .testSuiteStart services) ∧
    before.handle upper (.event .testSuiteStart services) = .ok true first ∧
    Runs.Reachable (next upper) allowed first c

variable {allowed : Coordinator td → Input → Prop}

/-- A session whose suite has been started is a session. -/
theorem Started.reached (started : Started upper testsuiteName allowed c) :
    Reached upper testsuiteName allowed c := by
  obtain ⟨before, services, first, reached, permitted, accepted, further⟩ := started
  have next_eq : next upper before (.event .testSuiteStart services) = first := by
    rw [next, accepted, finalState_ok]
  exact (next_eq ▸ Runs.Reachable.step reached permitted).trans further

/-- **A session does not return to its setup.** -/
theorem Started.begun (tame : ∀ c input, allowed c input → input.Known td ∨ Survives upper c input)
    (started : Started upper testsuiteName allowed c) : c.Begun := by
  obtain ⟨before, services, first, reached, permitted, accepted, further⟩ := started
  have next_eq : next upper before (.event .testSuiteStart services) = first := by
    rw [next, accepted, finalState_ok]
  have first_reached : Reached upper testsuiteName allowed first :=
    next_eq ▸ .step reached permitted
  have first_begun := (reached_move tame reached permitted).accepted_start accepted
  refine further.invariant first_begun fun state input earlier begun permitted => ?_
  exact (reached_move tame (first_reached.trans earlier) permitted).begun begun

end Start

section Small

/-- Two nodes on one link. -/
def smallConfig : TestConfig where
  id := "COAP_CFG_01"
  uri := "http://doc.f-interop.eu/tests/CoAP_CFG_01"
  nodes := ["coap_client", "coap_server"]
  topology := [⟨"link_01", ["coap_client", "coap_server"], "udp", none⟩]
  defaultAddressing := [⟨"coap_client", "bbbb", "1"⟩, ⟨"coap_server", "bbbb", "2"⟩]
  nodesDescription := [⟨"coap_server", "Start the server"⟩]

/-- A test case with a step of each kind. -/
def smallTestcase : TestCaseDescription where
  id := "TD_COAP_CORE_01"
  uri := "http://doc.f-interop.eu/tests/TD_COAP_CORE_01"
  objective := "Perform GET transaction(CON mode)"
  configurationId := "COAP_CFG_01"
  preConditions := ""
  notes := ""
  sequence := [
    ⟨"TD_COAP_CORE_01_step_01", .stimuli, "Send a GET request",
      some (Iut.mk "coap_client" "user_assisted" none), rfl, none, {}⟩,
    ⟨"TD_COAP_CORE_01_step_02", .check, "The request is confirmable", none, rfl,
      some .postponed, {}⟩,
    ⟨"TD_COAP_CORE_01_step_03", .verify, "The response is displayed",
      some (Iut.mk "coap_client" "user_assisted" none), rfl, none, {}⟩]

/-- A suite of that test case and a copy of it. -/
def smallSuite : TestDescriptions where
  tcConfigs := [smallConfig]
  testcases := [smallTestcase, { smallTestcase with id := "TD_COAP_CORE_02" }]
  configs_distinct := by decide
  distinct := by decide
  configured := by decide

/-- Its first test case. -/
def smallFirst : Fin smallSuite.size := ⟨0, by decide⟩

/-- Its second test case. -/
def smallSecond : Fin smallSuite.size := ⟨1, by decide⟩

/-- The services capture a request and find nothing wrong with it. -/
def smallServices : Services where
  getCapture := some ⟨some true, some "AAAA", some "TD_COAP_CORE_01.pcap", ""⟩
  analysis := some ⟨some true, some [("pass", "")], none, none, ""⟩

/-- A coordinator of the small suite after some inputs. -/
def afterwards (inputs : List Input) : Coordinator smallSuite :=
  inputs.foldl (next id) (initial id smallSuite "coap")

/-- Inputs of the small suite lead to a reached coordinator. -/
theorem afterwards_reached {allowed : Coordinator smallSuite → Input → Prop} {inputs : List Input}
    (permitted : Runs.AllAllowed (next id) allowed (initial id smallSuite "coap") inputs) :
    Reached id "coap" allowed (afterwards inputs) := permitted.reachable

/-- The small suite once it has been started. -/
def firstWaits : Coordinator smallSuite := afterwards [.event .testSuiteStart noServices]

/-- Starting the suite is survived. -/
theorem firstWaits_reached : Reached id "coap" (Survives id) firstWaits :=
  afterwards_reached (by decide +kernel)

/-- The small suite while the first step of its first test case, a stimuli, is executed. -/
def stimuliAwaited : Coordinator smallSuite :=
  afterwards [.event .testSuiteStart noServices, .event (.testCaseStart none) noServices]

/-- Starting a test case is survived. -/
theorem stimuliAwaited_reached : Reached id "coap" (Survives id) stimuliAwaited :=
  afterwards_reached (by decide +kernel)

end Small

end Coordinator

end Ioppytest
