import Ioppytest.TestCoordinator.Coherence

/-!
# Moves

The ways in which a coherent coordinator handles an input. Every property of a run is proved by
cases on them, and coherence itself is the first such property.
-/

namespace Ioppytest

open Raising

variable {td : TestDescriptions}

namespace Coordinator

/-- A request for skipping an unknown test case while a step is being executed. -/
def Disorients (c : Coordinator td) (input : Input) : Prop :=
  c.state = .waitingForStepExecuted ∧ ∃ id services,
    input = .event (.testCaseSkip (some (some id))) services ∧ td.find id = none

/-- The messages that open the tunnels of a suite. -/
def tunnels (ts : TestSuite td) : List Message :=
  ts.addressingTable.items.map fun (node, address) => .agentTunStart node address.1 address.2

/-- The message sent on leaving a state of the setup. -/
def setupMessage (c : Coordinator td) : Message :=
  if c.state = .waitingForTestsuiteConfig then
    .testingToolConfigured (testsuiteConfiguration c.testsuite)
  else .testSuiteStarted

/-- The ways in which a coherent coordinator handles an input: what it is, and what comes of it. -/
inductive Move (c : Coordinator td) : Input → EStateM.Result PyException (Coordinator td) Bool →
    Prop
  /-- The input is ignored. -/
  | ignored {input : Input} : Move c input (.ok false c)
  /-- The input raises without an effect. -/
  | refused {input : Input} {exception : PyException} : Move c input (.error exception c)
  /-- Without test cases the suite is never left to be started. -/
  | empty {input : Input} {exception : PyException} {after : Coordinator td} :
      td.size = 0 → c.Setup → after.state = c.state → after.testsuite.currentTc = none →
      (after.bus = c.bus ++ tunnels after.testsuite ∨ after.bus = c.bus) →
      Move c input (.error exception after)
  /-- The session is configured. -/
  | configured {sessionId : Option String} {users : Option (List String)}
      {configuration : Option SessionConfiguration} {services : Services} {ts : TestSuite td} :
      0 < td.size → c.state = .waitingForTestsuiteConfig →
      TestSuite.SkippedFrom c.testsuite ts →
      Move c (.event (.sessionConfiguration sessionId users configuration) services)
        (.ok true (((c.withTestsuite ts).send [(c.withTestsuite ts).setupMessage]).withState
          .waitingForTestsuiteStart))
  /-- A test case is skipped before the session is configured. -/
  | skippedEarly {id : String} {services : Services} {j : Fin td.size} :
      c.state = .waitingForTestsuiteConfig → td.find id = some j →
      Move c (.event (.testCaseSkip (some (some id))) services)
        (.ok true ((c.withTestsuite (c.testsuite.skip j)).send
          [(c.withTestsuite (c.testsuite.skip j)).setupMessage]))
  /-- A node is configured before the suite is started. -/
  | recordedEarly {event : Event} {services : Services} :
      0 < td.size → c.Setup →
      controlEventsTriggers event = some .iutConfigurationExecuted →
      Move c (.event event services)
        (andThen ((c.send [c.setupMessage]).recordNode (some event)) (.ok true))
  /-- The suite is started. -/
  | started {services : Services} {ts : TestSuite td} :
      0 < td.size → c.Setup →
      TestSuite.SkippedFrom { c.testsuite with
        testcase := fun i => (c.testsuite.testcase i).reinit } ts →
      Move c (.event .testSuiteStart services)
        (.ok true (((c.withTestsuite ts).send (tunnels ts)).send
          [(c.withTestsuite ts).setupMessage]).proceed)
  /-- A node is configured while a test case waits. -/
  | recordedWaiting {event : Event} {services : Services} : c.Waiting →
      controlEventsTriggers event = some .iutConfigurationExecuted →
      Move c (.event event services) (andThen (c.recordNode (some event)) (.ok true))
  /-- A node is configured while a step is executed. -/
  | recordedExecuting {event : Event} {services : Services} {i : Fin td.size} {k : Nat}
      {step : Step} : c.state = .waitingForStepExecuted → c.testsuite.currentTc = some i →
      (c.testsuite.testcase i).currentStep = some k →
      (c.testsuite.testcase i).sequence[k]? = some step → step.type.isExecutable = true →
      controlEventsTriggers event = some .iutConfigurationExecuted →
      Move c (.event event services)
        (andThen ((c.send (c.announceStep i step)).recordNode (some event)) (.ok true))
  /-- A node is configured once the session is over. -/
  | recordedFinished {event : Event} {services : Services} : c.state = .testsuiteFinished →
      controlEventsTriggers event = some .iutConfigurationExecuted →
      Move c (.event event services) (andThen (c.conclude.recordNode (some event)) (.ok true))
  /-- A node is configured while the end of a test case is pending. -/
  | retried {event : Event} {services : Services} {i : Fin td.size}
      {result : EStateM.Result PyException (Coordinator td) Unit} :
      c.state = .preparingNextStep → c.testsuite.currentTc = some i →
      (c.testsuite.testcase i).Exhausted →
      controlEventsTriggers event = some .iutConfigurationExecuted →
      Advance services c i result →
      Move c (.event event services)
        (andThen (andThen result (recordNode (some event))) (.ok true))
  /-- The configuration times out. -/
  | timedOut : c.state = .waitingForIutConfigurationExecuted →
      Move c .timeout (andThen c.announceReady (.ok true))
  /-- The execution of the current test case is started. -/
  | executed {id : PyString.Attribute} {services : Services} {i : Fin td.size}
      {result : EStateM.Result PyException (Coordinator td) Unit} : c.Waiting →
      c.testsuite.currentTc = some i →
      Advance services ((c.modify i (·.changeState .executing)).send (sniffingMessages i)) i
        result →
      Move c (.event (.testCaseStart id) services)
        (andThen (andThen result announceStarted) (.ok true))
  /-- The current step is answered. -/
  | answered {event : Event} {services : Services} {i : Fin td.size} {k : Nat} {step : Step}
      {result : EStateM.Result PyException (Coordinator td) Unit} :
      c.state = .waitingForStepExecuted → c.testsuite.currentTc = some i →
      (c.testsuite.testcase i).Executing → (c.testsuite.testcase i).currentStep = some k →
      (c.testsuite.testcase i).sequence[k]? = some step →
      controlEventsTriggers event = some .stepExecuted → malformed event = false →
      blank step.type event = false → Advance services (c.answered i k step event) i result →
      Move c (.event event services) (andThen result (.ok true))
  /-- The current test case is restarted. -/
  | restarted {services : Services} {i : Fin td.size} : ongoing c.state = true →
      c.testsuite.currentTc = some i →
      Move c (.event .testCaseRestart services) (.ok true ((c.modify i (·.reinit)).configure i))
  /-- A test case is selected. -/
  | selected {id : PyString.Attribute} {services : Services} : ongoing c.state = true →
      Move c (.event (.testCaseSelect id) services) (.ok true (c.selectTestcase id))
  /-- The current test case is skipped. -/
  | skippedCurrent {id : Option String} {services : Services} {i : Fin td.size} {named : Bool} :
      ongoing c.state = true → c.testsuite.currentTc = some i →
      id = (if named then some (td.id i) else none) →
      Move c (.event (.testCaseSkip (some id)) services) (.ok true (c.skipCurrent i named))
  /-- Another test case is skipped while one waits. -/
  | skippedOther {id : String} {services : Services} {j : Fin td.size} : c.Waiting →
      td.find id = some j → c.testsuite.currentTc ≠ some j →
      Move c (.event (.testCaseSkip (some (some id))) services)
        (.ok true (c.withTestsuite (c.testsuite.skip j)))
  /-- The waiting test case is skipped in place of an unknown one. -/
  | skippedInstead {id : String} {services : Services} {i : Fin td.size} : c.Waiting →
      td.find id = none → c.testsuite.currentTc = some i →
      Move c (.event (.testCaseSkip (some (some id))) services)
        (.ok true (c.withTestsuite (c.testsuite.skip i)))
  /-- Another test case is skipped while a step is executed. -/
  | skippedExecuting {id : String} {services : Services} {i j : Fin td.size} {k : Nat}
      {step : Step} : c.state = .waitingForStepExecuted → c.testsuite.currentTc = some i →
      (c.testsuite.testcase i).currentStep = some k →
      (c.testsuite.testcase i).sequence[k]? = some step → step.type.isExecutable = true →
      td.find id = some j → i ≠ j →
      Move c (.event (.testCaseSkip (some (some id))) services)
        (.ok true ((c.withTestsuite (c.testsuite.skip j)).send
          ((c.withTestsuite (c.testsuite.skip j)).announceStep i step)))
  /-- The current test case is aborted. -/
  | aborted {i : Fin td.size} : ongoing c.state = true ∨ c.state = .preparingNextStep →
      c.testsuite.currentTc = some i →
      Move c .abortTestcase
        (.ok true (c.withTestsuite { c.testsuite.modify i (·.abort) with
          currentTc := none }).proceed)

section Inversion

variable {upper : String → String} {services : Services} {c : Coordinator td} {event : Event}

/-- An event without a transition is ignored or refused. -/
theorem move_refused {name : TriggerName} (kind : controlEventsTriggers event = some name)
    (refused : accepts c.state name = false) :
    Move c (.event event services) (c.handle upper (.event event services)) := by
  rw [handle_refused kind refused]
  split
  · exact .ignored
  · exact .refused

/-- The message of a step that is being executed. -/
theorem announcement_executing {i : Fin td.size} {k : Nat} {step : Step}
    (current : c.testsuite.currentTc = some i)
    (at_step : (c.testsuite.testcase i).currentStep = some k)
    (found : (c.testsuite.testcase i).sequence[k]? = some step) :
    c.testsuite.announcement = some (c.announceStep i step) := by
  simp [TestSuite.announcement, current, TestSuite.getCurrentStep, TestCase.step?, at_step, found,
    announceStep]

/-- Configuration messages are handled in every state. -/
theorem move_configuration (coherent : Coherent c)
    (kind : controlEventsTriggers event = some .iutConfigurationExecuted) :
    Move c (.event event services) (c.handle upper (.event event services)) := by
  cases coherent with
  | setup early idle nonempty =>
    have resting : rests c.state = true := by
      rcases early with state | state <;> rw [state] <;> rfl
    rw [handle_configuration kind resting]
    by_cases empty : td.size = 0
    · have state : c.state = .waitingForTestsuiteConfig :=
        early.resolve_right fun state => absurd (nonempty state) (by omega)
      simp only [reenter, state, empty, ↓reduceIte, andThen_error]
      exact .refused
    · have entered : c.reenter services = .ok () (c.send [c.setupMessage]) := by
        rcases early with state | state <;> simp [reenter, state, empty, setupMessage]
      rw [entered]
      exact .recordedEarly (Nat.pos_of_ne_zero empty) early kind
  | waiting state nonempty others configuring =>
    have entered : rests c.state = true ∧ c.reenter services = .ok () c := by
      rcases state with state | state <;> simp [reenter, state, rests]
    rw [handle_configuration kind entered.1, entered.2]
    exact .recordedWaiting state kind
  | executing i state current others executing =>
    obtain ⟨k, step, at_step, -, found, -, executable⟩ := executing.current
    have announced := announcement_executing current at_step found
    rw [handle_configuration kind (by rw [state]; rfl)]
    simp only [reenter, state, announced]
    exact .recordedExecuting state current at_step found executable kind
  | stuck i state current others exhausted =>
    rw [handle_configuration kind (by rw [state]; rfl)]
    simp only [reenter, state]
    exact .retried state current exhausted kind (advance_cases current exhausted.toOngoing)
  | finished state idle nonempty settled past =>
    rw [handle_configuration kind (by rw [state]; rfl)]
    simp only [reenter, state]
    exact .recordedFinished state kind

variable (upper services) in
/-- A waiting test case that is started executes its first step, and its start is announced. -/
theorem handle_execution (id : PyString.Attribute) {i : Fin td.size} (waits : c.Waiting)
    (current : c.testsuite.currentTc = some i)
    (configuring : (c.testsuite.testcase i).Configuring) :
    ∃ result, Advance services ((c.modify i (·.changeState .executing)).send
        (sniffingMessages i)) i result ∧
      c.handle upper (.event (.testCaseStart id) services) =
        andThen (andThen result announceStarted) (.ok true) := by
  have begun : (((c.modify i (·.changeState .executing)).send
      (sniffingMessages i)).testsuite.testcase i).Ongoing := by
    simpa [modify] using configuring.start
  refine ⟨_, advance_cases current begun, ?_⟩
  rw [handle_testCaseStart waits]
  simp only [startTestcase, current, configuring.state, or_true, ↓reduceIte]

/-- The start of a test case. -/
theorem move_testCaseStart {id : PyString.Attribute} (coherent : Coherent c) :
    Move c (.event (.testCaseStart id) services)
      (c.handle upper (.event (.testCaseStart id) services)) := by
  cases coherent with
  | waiting state nonempty others configuring =>
    cases current : c.testsuite.currentTc with
    | none =>
      rw [handle_testCaseStart state]
      simp only [startTestcase, current, andThen_error]
      exact .refused
    | some i =>
      obtain ⟨result, advance, handled⟩ := handle_execution upper services id state current
        (configuring i current)
      rw [handled]
      exact .executed state current advance
  | setup early _ _ =>
    exact move_refused rfl (by rcases early with state | state <;> rw [state] <;> rfl)
  | executing i state _ _ _ => exact move_refused rfl (by rw [state]; rfl)
  | stuck i state _ _ _ => exact move_refused rfl (by rw [state]; rfl)
  | finished state _ _ _ _ => exact move_refused rfl (by rw [state]; rfl)

/-- A coherent coordinator has begun the session, is stuck, or refuses what only an ongoing
session accepts. -/
theorem Coherent.ongoing_or (name : TriggerName) (coherent : Coherent c)
    (refused : ∀ state, ongoing state = false → rests state = true → accepts state name = false) :
    ongoing c.state = true ∨ accepts c.state name = false := by
  cases coherent with
  | setup early _ _ =>
    refine .inr (refused _ ?_ ?_) <;> rcases early with state | state <;> rw [state] <;> rfl
  | waiting state _ _ _ =>
    refine .inl ?_
    rcases state with state | state <;> rw [state] <;> rfl
  | executing i state _ _ _ => exact .inl (by rw [state]; rfl)
  | stuck i state _ _ _ => exact .inr (refused _ (by rw [state]; rfl) (by rw [state]; rfl))
  | finished state _ _ _ _ => exact .inr (refused _ (by rw [state]; rfl) (by rw [state]; rfl))

/-- A coherent coordinator rests. -/
theorem Coherent.resting (coherent : Coherent c) : rests c.state = true := by
  cases coherent with
  | setup early _ _ | waiting early _ _ _ => rcases early with state | state <;> rw [state] <;> rfl
  | executing _ state _ _ _ | stuck _ state _ _ _ | finished state _ _ _ _ =>
    rw [state]
    rfl

/-- An ongoing session has test cases. -/
theorem Coherent.nonempty (coherent : Coherent c) (going : ongoing c.state = true) :
    0 < td.size := by
  cases coherent with
  | setup early _ _ => rcases early with state | state <;> rw [state] at going <;> cases going
  | waiting _ nonempty _ _ => exact nonempty
  | executing i _ _ _ _ => exact i.pos
  | stuck i _ _ _ _ => exact i.pos
  | finished _ _ nonempty _ _ => exact nonempty

variable (upper services) in
/-- A well-formed answer to the current step advances, whatever step it is about. -/
theorem handle_answered {i : Fin td.size} {k : Nat} {step : Step}
    (state : c.state = .waitingForStepExecuted) (current : c.testsuite.currentTc = some i)
    (executing : (c.testsuite.testcase i).Executing)
    (at_step : (c.testsuite.testcase i).currentStep = some k)
    (found : (c.testsuite.testcase i).sequence[k]? = some step)
    (kind : controlEventsTriggers event = some .stepExecuted) (complete : malformed event = false)
    (filled : blank step.type event = false) :
    ∃ result, c.handle upper (.event event services) = andThen result (.ok true) ∧
      Advance services (c.answered i k step event) i result := by
  obtain ⟨l, other, located, position, found', under, executable⟩ := executing.current
  obtain rfl : l = k := Option.some.inj (located.symm.trans at_step)
  obtain rfl : other = step := Option.some.inj (found'.symm.trans found)
  have changed := answer_executing current at_step found under executable kind complete filled
  have stepped : c.stepExecuted services event =
      (c.answered i l other event).advance services := by
    simp only [stepExecuted, changed]
    unfold answered
    split <;> rfl
  refine ⟨_, handle_stepExecuted kind state, ?_⟩
  rw [stepped]
  exact advance_cases (by simpa using current) (answered_current event executing at_step found)

/-- The answer to a step. -/
theorem move_stepExecuted (coherent : Coherent c)
    (kind : controlEventsTriggers event = some .stepExecuted) :
    Move c (.event event services) (c.handle upper (.event event services)) := by
  cases coherent with
  | executing i state current others executing =>
    obtain ⟨k, step, at_step, position, found, under, executable⟩ := executing.current
    cases complete : malformed event with
    | true =>
      obtain ⟨message, reported⟩ := answer_malformed c.testsuite complete
      rw [handle_stepExecuted kind state]
      simp only [stepExecuted, reported, andThen_error]
      exact .refused
    | false =>
      cases filled : blank step.type event with
      | true =>
        rw [handle_stepExecuted kind state]
        simp only [stepExecuted, answer_blank current at_step found under filled, andThen_error]
        exact .refused
      | false =>
        obtain ⟨result, handled, advance⟩ :=
          handle_answered upper services state current executing at_step found kind complete filled
        rw [handled]
        exact .answered state current executing at_step found kind complete filled advance
  | setup early _ _ =>
    exact move_refused kind (by rcases early with state | state <;> rw [state] <;> rfl)
  | waiting early _ _ _ =>
    exact move_refused kind (by rcases early with state | state <;> rw [state] <;> rfl)
  | stuck i state _ _ _ => exact move_refused kind (by rw [state]; rfl)
  | finished state _ _ _ _ => exact move_refused kind (by rw [state]; rfl)

/-- The restart of the current test case. -/
theorem move_testCaseRestart (coherent : Coherent c) :
    Move c (.event .testCaseRestart services)
      (c.handle upper (.event .testCaseRestart services)) := by
  rcases coherent.ongoing_or .restartTestcase
    (by intro state; cases state <;> decide) with accepted | refused
  · rw [handle_testCaseRestart accepted]
    cases current : c.testsuite.currentTc.filter (td.id · ≠ "") with
    | none =>
      simp only [restartTestcase, current, andThen_error]
      exact .refused
    | some i =>
      simp only [restartTestcase, current, andThen_ok]
      exact .restarted accepted (Option.filter_eq_some_iff.mp current).1
  · exact move_refused rfl refused

/-- The selection of a test case. -/
theorem move_testCaseSelect {id : PyString.Attribute} (coherent : Coherent c) :
    Move c (.event (.testCaseSelect id) services)
      (c.handle upper (.event (.testCaseSelect id) services)) := by
  rcases coherent.ongoing_or .selectTestcase
    (by intro state; cases state <;> decide) with accepted | refused
  · rw [handle_testCaseSelect (coherent.nonempty accepted) accepted]
    exact .selected accepted
  · exact move_refused rfl refused

/-- A test case that the id of the current one does not name is another one. -/
theorem apart_of_unnamed {id : String} {j : Fin td.size}
    (unnamed : c.testsuite.currentTc.filter (td.id · = id) = none)
    (found : td.find id = some j) : c.testsuite.currentTc ≠ some j := by
  intro current
  rw [current] at unnamed
  simp [Option.filter, TestDescriptions.find_eq_some.mp found] at unnamed

/-- A request for skipping. -/
theorem move_testCaseSkip {id : PyString.Attribute} (coherent : Coherent c)
    (oriented : ¬ Disorients c (.event (.testCaseSkip id) services)) :
    Move c (.event (.testCaseSkip id) services)
      (c.handle upper (.event (.testCaseSkip id) services)) := by
  cases coherent with
  | setup early idle nonempty =>
    rcases early with state | state
    · rw [handle_testCaseSkip_before state idle]
      match id with
      | none => exact .refused
      | some none => exact .ignored
      | some (some id) =>
        cases found : td.find id with
        | none =>
          simp only [skipBefore, found]
          exact .refused
        | some j =>
          have nonempty : td.size ≠ 0 := Nat.ne_of_gt j.pos
          simp only [skipBefore, found, reenter, withTestsuite_state, state, nonempty, ↓reduceIte,
            andThen_ok]
          have moved : Move c (.event (.testCaseSkip (some (some id))) services) _ :=
            .skippedEarly state found
          simpa [setupMessage, state] using moved
    · exact move_refused rfl (by rw [state]; rfl)
  | waiting state nonempty others configuring =>
    have accepted : ongoing c.state = true := by
      rcases state with state | state <;> rw [state] <;> rfl
    have silent (ts : TestSuite td) :
        (c.withTestsuite ts).reenter services = .ok () (c.withTestsuite ts) := by
      rcases state with state | state <;> simp [reenter, state]
    rw [handle_testCaseSkip accepted]
    match id with
    | none => exact .refused
    | some none =>
      cases current : c.testsuite.currentTc with
      | none =>
        simp only [skipTestcase, current, andThen_error]
        exact .refused
      | some i =>
        simp only [skipTestcase, current, andThen_ok]
        exact .skippedCurrent accepted current rfl
    | some (some id) =>
      cases named : c.testsuite.currentTc.filter (td.id · = id) with
      | some i =>
        obtain ⟨current, same⟩ := Option.filter_eq_some_iff.mp named
        simp only [skipTestcase, named, andThen_ok]
        have id_eq : id = td.id i := (of_decide_eq_true same).symm
        exact .skippedCurrent accepted current (by rw [id_eq]; rfl)
      | none =>
        cases found : td.find id with
        | some j =>
          have apart := apart_of_unnamed named found
          simp only [skipTestcase, named, found, Option.some_or, silent, andThen_ok]
          exact .skippedOther state found apart
        | none =>
          cases current : c.testsuite.currentTc with
          | none =>
            rw [current] at named
            simp only [skipTestcase, current, named, found, Option.or_none, andThen_error]
            exact .refused
          | some i =>
            rw [current] at named
            simp only [skipTestcase, current, named, found, Option.none_or, silent, andThen_ok]
            exact .skippedInstead state found current
  | executing i state current others executing =>
    obtain ⟨k, step, at_step, position, located, under, executable⟩ := executing.current
    have accepted : ongoing c.state = true := by rw [state]; rfl
    rw [handle_testCaseSkip accepted]
    match id with
    | none => exact .refused
    | some none =>
      simp only [skipTestcase, current, andThen_ok]
      exact .skippedCurrent accepted current rfl
    | some (some id) =>
      cases named : c.testsuite.currentTc.filter (td.id · = id) with
      | some j =>
        obtain ⟨here, same⟩ := Option.filter_eq_some_iff.mp named
        have id_eq : id = td.id j := (of_decide_eq_true same).symm
        simp only [skipTestcase, named, andThen_ok]
        exact .skippedCurrent accepted here (by rw [id_eq]; rfl)
      | none =>
        cases found : td.find id with
        | none => exact absurd ⟨state, id, services, rfl, found⟩ oriented
        | some j =>
          have apart := apart_of_unnamed named found
          have different : i ≠ j := fun same => apart (by rw [current, same])
          have kept : (c.testsuite.skip j).currentTc = some i := by
            rw [TestSuite.skip_currentTc_of_ne apart, current]
          have same : (c.testsuite.skip j).testcase i = c.testsuite.testcase i :=
            TestSuite.skip_testcase_of_ne different
          have announced := announcement_executing (c := c.withTestsuite (c.testsuite.skip j))
            (k := k) kept (by rw [withTestsuite_testsuite, same, at_step])
            (by rw [withTestsuite_testsuite, same, located])
          simp only [skipTestcase, named, found, Option.some_or, reenter, withTestsuite_state,
            state, announced, andThen_ok]
          exact .skippedExecuting state current at_step located executable found different
  | stuck i state _ _ _ => exact move_refused rfl (by rw [state]; rfl)
  | finished state _ _ _ _ => exact move_refused rfl (by rw [state]; rfl)

/-- A session configuration that lists its test cases well is accepted. -/
theorem handle_configured (upper : String → String) (services : Services)
    (sessionId : Option String) (users : Option (List String))
    {configuration : Option SessionConfiguration} {requested : List String}
    (state : c.state = .waitingForTestsuiteConfig) (idle : c.testsuite.currentTc = none)
    (nonempty : 0 < td.size) (listed : Handler.sessionTcList configuration = .ok requested) :
    ∃ ts, c.testsuite.configureTestsuite upper
        (if requested.isEmpty then (List.finRange td.size).map td.id else requested) sessionId users
        configuration = .ok ts ∧ TestSuite.SkippedFrom c.testsuite ts ∧
      c.handle upper (.event (.sessionConfiguration sessionId users configuration) services) =
        .ok true (((c.withTestsuite ts).send [(c.withTestsuite ts).setupMessage]).withState
          .waitingForTestsuiteStart) := by
  obtain ⟨ts, configured, skipped⟩ := TestSuite.configureTestsuite_ok upper c.testsuite
    (if requested.isEmpty then (List.finRange td.size).map td.id else requested) sessionId users
    configuration idle
  refine ⟨ts, configured, skipped, ?_⟩
  rw [handle_sessionConfiguration state]
  simp only [configureTestsuite, listed, configured]
  simp [reenter, state, Nat.ne_of_gt nonempty, setupMessage]

/-- A session configuration. -/
theorem move_sessionConfiguration {sessionId : Option String} {users : Option (List String)}
    {configuration : Option SessionConfiguration} (coherent : Coherent c) :
    Move c (.event (.sessionConfiguration sessionId users configuration) services)
      (c.handle upper (.event (.sessionConfiguration sessionId users configuration) services)) := by
  cases coherent with
  | setup early idle nonempty =>
    rcases early with state | state
    · cases listed : Handler.sessionTcList configuration with
      | error exception =>
        rw [handle_sessionConfiguration state]
        simp only [configureTestsuite, listed, andThen_error]
        exact .refused
      | ok requested =>
        by_cases empty : td.size = 0
        · obtain ⟨ts, configured, skipped⟩ := TestSuite.configureTestsuite_ok upper c.testsuite
            (if requested.isEmpty then (List.finRange td.size).map td.id else requested) sessionId
            users configuration idle
          rw [handle_sessionConfiguration state]
          simp only [configureTestsuite, listed, configured, reenter, withTestsuite_state, state,
            empty, ↓reduceIte, andThen_error]
          exact .empty empty (.inl state) rfl skipped.currentTc (.inr rfl)
        · obtain ⟨ts, -, skipped, handled⟩ := handle_configured upper services sessionId users
            state idle (Nat.pos_of_ne_zero empty) listed
          rw [handled]
          exact .configured (Nat.pos_of_ne_zero empty) state skipped
    · exact move_refused rfl (by rw [state]; rfl)
  | waiting early _ _ _ =>
    exact move_refused rfl (by rcases early with state | state <;> rw [state] <;> rfl)
  | executing i state _ _ _ => exact move_refused rfl (by rw [state]; rfl)
  | stuck i state _ _ _ => exact move_refused rfl (by rw [state]; rfl)
  | finished state _ _ _ _ => exact move_refused rfl (by rw [state]; rfl)

/-- The start of a suite that has test cases is accepted until it is started. -/
theorem handle_started (upper : String → String) (services : Services) (setup : c.Setup)
    (idle : c.testsuite.currentTc = none) (nonempty : 0 < td.size) :
    ∃ ts, c.testsuite.reinit upper = .ok ts ∧ TestSuite.SkippedFrom { c.testsuite with
        testcase := fun i => (c.testsuite.testcase i).reinit } ts ∧
      c.handle upper (.event .testSuiteStart services) =
        .ok true (((c.withTestsuite ts).send (tunnels ts)).send
          [(c.withTestsuite ts).setupMessage]).proceed := by
  obtain ⟨ts, reset, skipped⟩ := TestSuite.reinit_ok upper c.testsuite idle
  have entered : ((c.withTestsuite ts).send (tunnels ts)).reenter noServices =
      .ok () (((c.withTestsuite ts).send (tunnels ts)).send
        [(c.withTestsuite ts).setupMessage]) := by
    rcases setup with state | state <;>
      simp [reenter, state, Nat.ne_of_gt nonempty, setupMessage]
  refine ⟨ts, reset, skipped, ?_⟩
  rw [handle_testSuiteStart (setup.imp_right fun state => ⟨state, nonempty⟩)]
  simp only [tunnels] at entered ⊢
  simp only [startTestsuite, reset, entered, andThen_ok]

/-- The start of the suite. -/
theorem move_testSuiteStart (coherent : Coherent c) :
    Move c (.event .testSuiteStart services) (c.handle upper (.event .testSuiteStart services)) := by
  cases coherent with
  | setup early idle nonempty =>
    by_cases empty : td.size = 0
    · have state : c.state = .waitingForTestsuiteConfig :=
        early.resolve_right fun state => absurd (nonempty state) (by omega)
      obtain ⟨ts, reset, skipped⟩ := TestSuite.reinit_ok upper c.testsuite idle
      rw [handle_testSuiteStart (.inl state)]
      simp only [startTestsuite, reset, reenter, send_state, withTestsuite_state, state, empty,
        ↓reduceIte, andThen_error]
      exact .empty empty early (by simp) (by simpa using skipped.currentTc) (.inl rfl)
    · obtain ⟨ts, -, skipped, handled⟩ :=
        handle_started upper services early idle (Nat.pos_of_ne_zero empty)
      rw [handled]
      exact .started (Nat.pos_of_ne_zero empty) early skipped
  | waiting early _ _ _ =>
    exact move_refused rfl (by rcases early with state | state <;> rw [state] <;> rfl)
  | executing i state _ _ _ => exact move_refused rfl (by rw [state]; rfl)
  | stuck i state _ _ _ => exact move_refused rfl (by rw [state]; rfl)
  | finished state _ _ _ _ => exact move_refused rfl (by rw [state]; rfl)

/-- An abort. -/
theorem move_abortTestcase (coherent : Coherent c) :
    Move c .abortTestcase (c.handle upper .abortTestcase) := by
  have run (accepted : ongoing c.state = true ∨ c.state = .preparingNextStep) :
      Move c .abortTestcase (c.handle upper .abortTestcase) := by
    rw [handle_abortTestcase accepted]
    cases current : c.testsuite.currentTc with
    | none =>
      simp only [abortTestcase, current, andThen_error]
      exact .refused
    | some i =>
      simp only [abortTestcase, current, andThen_ok]
      exact .aborted accepted current
  cases coherent with
  | setup early _ _ =>
    have closed : accepts c.state .abortTestcase = false := by
      rcases early with state | state <;> rw [state] <;> rfl
    rw [handle_abort_refused closed]
    split
    · exact .ignored
    · exact .refused
  | waiting state _ _ _ =>
    exact run (.inl (by rcases state with state | state <;> rw [state] <;> rfl))
  | executing i state _ _ _ => exact run (.inl (by rw [state]; rfl))
  | stuck i state _ _ _ => exact run (.inr state)
  | finished state _ _ _ _ =>
    rw [handle_abort_refused (by rw [state]; rfl)]
    split
    · exact .ignored
    · exact .refused

/-- The timer. -/
theorem move_timeout : Move c .timeout (c.handle upper .timeout) := by
  by_cases accepted : c.state = .waitingForIutConfigurationExecuted
  · rw [handle_timeout accepted]
    exact .timedOut accepted
  · rw [handle, if_neg accepted]
    exact .ignored

/-- **Every input is handled by a move.** -/
theorem handle_move {input : Input} (coherent : Coherent c) (oriented : ¬ Disorients c input) :
    Move c input (c.handle upper input) := by
  cases input with
  | timeout => exact move_timeout
  | abortTestcase => exact move_abortTestcase coherent
  | event event services =>
    cases event with
    | sessionConfiguration sessionId users configuration =>
      exact move_sessionConfiguration coherent
    | configurationExecuted node ipv6Address => exact move_configuration coherent rfl
    | agentTunStarted message => exact move_configuration coherent rfl
    | testCaseStart id => exact move_testCaseStart coherent
    | stepStimuliExecuted node => exact move_stepExecuted coherent rfl
    | stepVerifyExecuted verifyResponse node => exact move_stepExecuted coherent rfl
    | stepCheckExecuted partialVerdict description => exact move_stepExecuted coherent rfl
    | testCaseSelect id => exact move_testCaseSelect coherent
    | testSuiteStart => exact move_testSuiteStart coherent
    | testCaseRestart => exact move_testCaseRestart coherent
    | testCaseSkip id => exact move_testCaseSkip coherent oriented
    | testCaseAbort => exact .ignored

end Inversion

/-- The handling of a node changes nothing about the test cases; it may end the configuration. -/
structure Recorded (before after : Coordinator td) : Prop where
  /-- Test cases are the same. -/
  testcase : after.testsuite.testcase = before.testsuite.testcase
  /-- So is the current one. -/
  currentTc : after.testsuite.currentTc = before.testsuite.currentTc
  /-- So is the report of the session. -/
  report : after.testsuite.report = before.testsuite.report
  /-- And the captures that were saved. -/
  captures : after.captures = before.captures
  /-- The configuration of the nodes may be over. -/
  state : after.state = before.state ∨
    (before.state = .waitingForIutConfigurationExecuted ∧ after.state = .waitingForTestcaseStart)
  /-- Then it is announced. -/
  messages : ∃ ready, after.bus = before.bus ++ ready ∧
    ∀ message ∈ ready, ∃ configuration tc, message = .testCaseReady configuration tc

section Preservation

variable {c : Coordinator td}

/-- Announcing that the test case is ready records nothing more. -/
theorem announceReady_recorded (state : c.state = .waitingForIutConfigurationExecuted) :
    Recorded c (finalState c.announceReady) := by
  unfold announceReady
  cases c.testsuite.currentTc with
  | none => exact ⟨rfl, rfl, rfl, rfl, .inr ⟨state, rfl⟩, [], by simp, by simp⟩
  | some i => exact ⟨rfl, rfl, rfl, rfl, .inr ⟨state, rfl⟩, _, rfl, by simp⟩

/-- Recording a node. -/
theorem recordNode_recorded (event : Option Event) : Recorded c (finalState (c.recordNode event)) := by
  unfold recordNode
  cases Handler.nodeUpdate event with
  | error exception => exact ⟨rfl, rfl, rfl, rfl, .inl rfl, [], by simp, by simp⟩
  | ok node =>
    obtain ⟨name, address⟩ := node
    dsimp only
    split
    · split
      · rename_i state
        have ready := announceReady_recorded
          (c := c.withTestsuite (c.testsuite.updateNodeAddress name address)) state
        exact ⟨ready.testcase, ready.currentTc, ready.report, ready.captures, ready.state,
          ready.messages⟩
      · split <;> exact ⟨rfl, rfl, rfl, rfl, .inl rfl, [], by simp, by simp⟩
    · exact ⟨rfl, rfl, rfl, rfl, .inl rfl, [], by simp, by simp⟩

/-- Coherence is about the states and the progress of the test cases only. -/
theorem Coherent.of_same {after : Coordinator td} (coherent : Coherent c)
    (testcase : after.testsuite.testcase = c.testsuite.testcase)
    (currentTc : after.testsuite.currentTc = c.testsuite.currentTc)
    (state : after.state = c.state) : Coherent after := by
  have others (settled : c.testsuite.OthersSettled) : after.testsuite.OthersSettled := by
    intro j apart
    rw [testcase]
    exact settled j (by rwa [currentTc] at apart)
  cases coherent with
  | setup early idle nonempty =>
    exact .setup (early.imp state.trans state.trans) (currentTc.trans idle)
      (fun late => nonempty (state.symm.trans late))
  | waiting before nonempty settled configuring =>
    refine .waiting (before.imp state.trans state.trans) nonempty (others settled) ?_
    intro i current
    rw [testcase]
    exact configuring i (by rwa [currentTc] at current)
  | executing i before current settled executing =>
    exact .executing i (state.trans before) (currentTc.trans current) (others settled)
      (by rwa [testcase])
  | stuck i before current settled exhausted =>
    exact .stuck i (state.trans before) (currentTc.trans current) (others settled)
      (by rwa [testcase])
  | finished before idle nonempty settled past =>
    exact .finished (state.trans before) (currentTc.trans idle) nonempty
      (fun j => by rw [testcase]; exact settled j) (fun j => by rw [testcase]; exact past j)

/-- Recording a node keeps a coordinator coherent. -/
theorem Coherent.recorded {after : Coordinator td} (coherent : Coherent c)
    (recorded : Recorded c after) : Coherent after := by
  rcases recorded.state with same | ⟨state, past⟩
  · exact coherent.of_same recorded.testcase recorded.currentTc same
  · -- The configuration is over: the same test case waits for being started.
    have waits : Coherent (c.withState .waitingForTestcaseStart) := by
      cases coherent with
      | waiting _ nonempty settled configuring =>
        exact .waiting (.inr rfl) nonempty settled configuring
      | setup early _ _ => rcases early with wrong | wrong <;> rw [state] at wrong <;> cases wrong
      | executing _ wrong _ _ _ | stuck _ wrong _ _ _ | finished wrong _ _ _ _ =>
        rw [state] at wrong
        cases wrong
    exact waits.of_same recorded.testcase recorded.currentTc past

/-- Sending messages keeps a coordinator coherent. -/
theorem Coherent.send (coherent : Coherent c) (messages : List Message) :
    Coherent (c.send messages) :=
  coherent.of_same rfl rfl rfl

/-- Skipping a test case that is not being executed keeps a coordinator coherent. -/
theorem Coherent.skip (coherent : Coherent c) (j : Fin td.size)
    (spared : c.Waiting ∨ c.testsuite.currentTc ≠ some j) :
    Coherent (c.withTestsuite (c.testsuite.skip j)) := by
  have kept (i : Fin td.size) (current : c.testsuite.currentTc = some i)
      (apart : c.testsuite.currentTc ≠ some j) : (c.testsuite.skip j).currentTc = some i ∧
      (c.testsuite.skip j).testcase i = c.testsuite.testcase i := by
    have different : i ≠ j := fun same => apart (by rw [current, same])
    refine ⟨?_, TestSuite.skip_testcase_of_ne different⟩
    rw [TestSuite.skip_currentTc_of_ne apart, current]
  cases coherent with
  | setup early idle nonempty =>
    refine .setup early ?_ nonempty
    rw [withTestsuite_testsuite, TestSuite.skip_currentTc_of_ne (by simp [idle]), idle]
  | waiting state nonempty others configuring =>
    have unskipped (here : c.testsuite.currentTc = some j) :
        (c.testsuite.testcase j).state ≠ some .skipped := by
      rw [(configuring j here).state]
      decide
    refine .waiting state nonempty (others.skip j) fun i current => ?_
    rw [withTestsuite_testsuite, TestSuite.skip_currentTc _ _ unskipped] at current
    split at current
    · cases current
    · rename_i apart
      rw [withTestsuite_testsuite, (kept i current apart).2]
      exact configuring i current
  | executing i state current others executing =>
    have apart : c.testsuite.currentTc ≠ some j := spared.resolve_left fun waits => by
      rcases waits with wrong | wrong <;> rw [state] at wrong <;> cases wrong
    obtain ⟨same, unchanged⟩ := kept i current apart
    exact .executing i state same (others.skip j) (by rwa [withTestsuite_testsuite, unchanged])
  | stuck i state current others exhausted =>
    have apart : c.testsuite.currentTc ≠ some j := spared.resolve_left fun waits => by
      rcases waits with wrong | wrong <;> rw [state] at wrong <;> cases wrong
    obtain ⟨same, unchanged⟩ := kept i current apart
    exact .stuck i state same (others.skip j) (by rwa [withTestsuite_testsuite, unchanged])
  | finished state idle nonempty settled past =>
    have still : (c.testsuite.skip j).currentTc = none := by
      rw [TestSuite.skip_currentTc_of_ne (by simp [idle]), idle]
    have others : c.testsuite.OthersSettled := fun k _ => settled k
    refine .finished state still nonempty (fun k => others.skip j k (by simp [still])) fun k => ?_
    rw [withTestsuite_testsuite, TestSuite.skip_testcase]
    split
    · simp
    · exact past k

/-- Reinitialising the current test case settles all. -/
theorem settled_of_reinit (others : c.testsuite.OthersSettled) :
    (c.testsuite.reinitTestcase c.testsuite.getCurrentTestcaseId).AllSettled := by
  cases current : c.testsuite.currentTc with
  | none =>
    intro j
    simpa [TestSuite.reinitTestcase, TestSuite.getCurrentTestcaseId, TestSuite.getTestcase, current]
      using others j (by simp [current])
  | some i =>
    have settled := others.modify_current (·.reinit) current (TestCase.Settled.reinit _)
    simpa [TestSuite.reinitTestcase, TestSuite.getCurrentTestcaseId, TestSuite.getTestcase, current]
      using settled

/-- Selecting a test case leads to a coherent coordinator. -/
theorem selectTestcase_coherent (id : PyString.Attribute) (nonempty : 0 < td.size)
    (others : c.testsuite.OthersSettled) : Coherent (c.selectTestcase id) := by
  have settled := settled_of_reinit others
  unfold selectTestcase
  generalize c.testsuite.reinitTestcase c.testsuite.getCurrentTestcaseId = ts at settled
  dsimp only
  cases id.bind ts.getTestcase with
  | none => exact Coherent.proceed (c := c.withTestsuite ts) nonempty settled
  | some i =>
    refine Coherent.configure (fun j apart => ?_) ?_
    · simpa [modify, apart] using settled j
    · simpa [modify] using (ts.testcase i).reinit_pristine

/-- The coordinator settles all but its current test case once the suite is started. -/
theorem Coherent.othersSettled (coherent : Coherent c) (late : ¬ c.Setup) :
    c.testsuite.OthersSettled := by
  cases coherent with
  | setup early _ _ => exact absurd early late
  | waiting _ _ others _ | executing _ _ _ others _ | stuck _ _ _ others _ => exact others
  | finished _ _ _ settled _ => exact fun j _ => settled j

/-- The current test case is not skipped. -/
theorem Coherent.unskipped {i : Fin td.size} (coherent : Coherent c)
    (current : c.testsuite.currentTc = some i) :
    (c.testsuite.testcase i).state ≠ some .skipped := by
  intro skipped
  cases coherent with
  | setup _ idle _ | finished _ idle _ _ _ =>
    rw [current] at idle
    cases idle
  | waiting _ _ _ configuring =>
    rw [(configuring i current).state] at skipped
    cases skipped
  | executing j _ here _ executing =>
    obtain rfl : j = i := Option.some.inj (here.symm.trans current)
    rw [executing.state] at skipped
    cases skipped
  | stuck j _ here _ exhausted =>
    obtain rfl : j = i := Option.some.inj (here.symm.trans current)
    rcases exhausted.state with state | state <;> rw [state] at skipped <;> cases skipped

/-- The test case that a waiting coordinator waits for is being configured. -/
theorem Coherent.configuring {i : Fin td.size} (coherent : Coherent c) (waits : c.Waiting)
    (current : c.testsuite.currentTc = some i) : (c.testsuite.testcase i).Configuring := by
  cases coherent with
  | waiting _ _ _ configuring => exact configuring i current
  | setup _ idle _ | finished _ idle _ _ _ => cases current.symm.trans idle
  | executing _ state _ _ _ | stuck _ state _ _ _ =>
    rw [Waiting, state] at waits
    rcases waits with wrong | wrong <;> cases wrong

/-- A started suite leaves every test case pristine or skipped. -/
theorem settled_of_skippedFrom {ts : TestSuite td}
    (skipped : TestSuite.SkippedFrom { c.testsuite with
      testcase := fun i => (c.testsuite.testcase i).reinit } ts) : ts.AllSettled := by
  intro j
  rcases skipped.testcase j with same | same
  · rw [same]
    exact TestCase.Settled.reinit _
  · rw [same]
    exact TestCase.Settled.skipped _

/-- A property of both ways of going on with the next test case. -/
theorem proceed_rule {property : Coordinator td → Prop} {c : Coordinator td}
    (configured : ∀ i, c.testsuite.pending = some i → property (c.configure i))
    (concluded : c.testsuite.pending = none →
      property (c.withTestsuite { c.testsuite with currentTc := none }).conclude) :
    property c.proceed := by
  unfold proceed
  cases pending : c.testsuite.pending with
  | none => exact concluded pending
  | some i => exact configured i pending

/-- The next test case is configured, or the session is over. -/
theorem proceed_state (c : Coordinator td) :
    c.proceed.state = .waitingForIutConfigurationExecuted ∨
      c.proceed.state = .testsuiteFinished := by
  unfold proceed
  cases c.testsuite.pending with
  | none => exact .inr rfl
  | some i => exact .inl rfl

/-- A property of both ways of selecting a test case. -/
theorem selectTestcase_rule {property : Coordinator td → Prop} {c : Coordinator td}
    {id : PyString.Attribute}
    (found : ∀ i, property
      (((c.withTestsuite (c.testsuite.reinitTestcase c.testsuite.getCurrentTestcaseId)).modify i
        (·.reinit)).configure i))
    (absent : property
      (c.withTestsuite (c.testsuite.reinitTestcase c.testsuite.getCurrentTestcaseId)).proceed) :
    property (c.selectTestcase id) := by
  unfold selectTestcase
  dsimp only
  split
  · exact found _
  · exact absent

/-- A property of each test case that survives being configured and reported holds of each once
the next test case is prepared. -/
theorem proceed_each {property : Fin td.size → TestCase → Prop} {c : Coordinator td}
    (configured : ∀ j tc, property j tc → tc.state = none →
      property j (tc.changeState .configuring))
    (reported : ∀ j tc, property j tc →
      property j { tc with report := some (TestSuite.reportOf tc) })
    (each : ∀ j, property j (c.testsuite.testcase j)) (j : Fin td.size) :
    property j (c.proceed.testsuite.testcase j) := by
  unfold proceed
  cases pending : c.testsuite.pending with
  | none => exact reported j _ (each j)
  | some i =>
    have blank := (TestSuite.pending_eq_some.mp pending).1
    by_cases same : j = i
    · subst same
      simpa [configure] using configured j _ (each j) blank
    · simpa [configure, same] using each j

/-- A property of each test case that holds of the changed one holds of each after a change. -/
theorem modify_each {property : Fin td.size → TestCase → Prop} {c : Coordinator td}
    {i : Fin td.size} {change : TestCase → TestCase}
    (each : ∀ j, property j (c.testsuite.testcase j))
    (changed : property i (change (c.testsuite.testcase i))) (j : Fin td.size) :
    property j ((c.modify i change).testsuite.testcase j) := by
  by_cases same : j = i
  · subst same
    simpa [modify] using changed
  · simpa [modify, same] using each j

/-- A property of each test case that the ways of executing the next step of the current one keep
holds of each afterwards. -/
theorem Advance.each {property : Fin td.size → TestCase → Prop} {c : Coordinator td}
    {services : Services} {i : Fin td.size}
    {result : EStateM.Result PyException (Coordinator td) Unit}
    (advance : Advance services c i result)
    (configured : ∀ j tc, property j tc → tc.state = none →
      property j (tc.changeState .configuring))
    (reported : ∀ j tc, property j tc →
      property j { tc with report := some (TestSuite.reportOf tc) })
    (executed : ∀ k tc, (c.testsuite.testcase i).nextStep = (some k, tc) →
      property i (tc.changeState .executing))
    (exhausted : ∀ tc, (c.testsuite.testcase i).nextStep = (none, tc) →
      property i (tc.changeState .readyForAnalysis) ∧
      property i (tc.changeState .readyForAnalysis).analyzing ∧
      ∀ report requests, finishOutcome services (td.id i) (c.analyzeRequest i)
          (tc.changeState .readyForAnalysis) = .completed report requests →
        property i ((tc.changeState .readyForAnalysis).reported report))
    (each : ∀ j, property j (c.testsuite.testcase j)) (j : Fin td.size) :
    property j ((finalState result).testsuite.testcase j) := by
  have past {tc : TestCase} (fetched : (c.testsuite.testcase i).nextStep = (none, tc)) (j : _) :
      property j ((c.modify i fun _ => tc.changeState .readyForAnalysis).testsuite.testcase j) :=
    modify_each each (exhausted tc fetched).1 j
  have here (tc : TestCase) : (c.exhaust i tc).testsuite.testcase i =
      tc.changeState .readyForAnalysis := by
    simp [exhaust, modify]
  cases advance with
  | @execute _ tc _ fetched _ _ _ =>
    have opened (j : _) :
        property j ((c.modify i fun _ => tc.changeState .executing).testsuite.testcase j) :=
      modify_each each (executed _ _ fetched) j
    exact opened j
  | refuse fetched _ _ => exact past fetched j
  | @interrupt tc _ _ fetched _ _ =>
    have analyzed : property i (((c.exhaust i tc).testsuite.testcase i).analyzing) := by
      rw [here]
      exact (exhausted _ fetched).2.1
    have changed (j : _) :
        property j (((c.exhaust i tc).modify i (·.analyzing)).testsuite.testcase j) :=
      modify_each (past fetched) analyzed j
    exact changed j
  | @complete tc report _ fetched _ completed =>
    have finished : property i (((c.exhaust i tc).testsuite.testcase i).reported report) := by
      rw [here]
      exact (exhausted _ fetched).2.2 _ _ completed
    have changed (j : _) :
        property j (((c.exhaust i tc).modify i (·.reported report)).testsuite.testcase j) :=
      modify_each (past fetched) finished j
    refine proceed_each configured reported ?_ j
    exact changed

/-- The announcement of a start only sends messages. -/
theorem announceStarted_sends (c : Coordinator td) :
    ∃ messages, finalState c.announceStarted = c.send messages ∧
      ∀ message ∈ messages, ∃ tc, message = .testCaseStarted tc := by
  unfold announceStarted
  cases c.testsuite.currentTc with
  | none => exact ⟨[], by simp, by simp⟩
  | some i => exact ⟨_, rfl, by simp⟩

/-- **Moves keep a coordinator coherent.** -/
theorem Move.coherent {input : Input} {result : EStateM.Result PyException (Coordinator td) Bool}
    (move : Move c input result) (coherent : Coherent c) : Coherent (finalState result) := by
  have others (state : ongoing c.state = true ∨ c.state = .preparingNextStep) :
      c.testsuite.OthersSettled := by
    refine coherent.othersSettled ?_
    rintro (early | early) <;> rw [early] at state <;> rcases state with wrong | wrong <;>
      cases wrong
  have going (state : c.Waiting) : ongoing c.state = true := by
    rcases state with state | state <;> rw [state] <;> rfl
  cases move with
  | ignored => exact coherent
  | refused => exact coherent
  | empty empty early state idle _ =>
    refine .setup (early.imp state.trans state.trans) idle fun late => ?_
    cases coherent with
    | setup _ _ nonempty => exact nonempty (state.symm.trans late)
    | waiting _ nonempty _ _ | finished _ _ nonempty _ _ => exact nonempty
    | executing i _ _ _ _ | stuck i _ _ _ _ => exact i.pos
  | configured nonempty state skipped => exact .setup (.inr rfl) skipped.currentTc fun _ => nonempty
  | skippedEarly state found =>
    refine (coherent.skip _ (.inr ?_)).send _
    cases coherent with
    | setup _ idle _ => simp [idle]
    | waiting wrong _ _ _ => rcases wrong with wrong | wrong <;> rw [state] at wrong <;> cases wrong
    | executing _ wrong _ _ _ | stuck _ wrong _ _ _ | finished wrong _ _ _ _ =>
      rw [state] at wrong
      cases wrong
  | recordedEarly nonempty early kind =>
    rw [finalState_andThen_ok]
    exact (coherent.send _).recorded (recordNode_recorded _)
  | started nonempty early skipped =>
    exact Coherent.proceed nonempty (settled_of_skippedFrom skipped)
  | recordedWaiting state kind =>
    rw [finalState_andThen_ok]
    exact coherent.recorded (recordNode_recorded _)
  | recordedExecuting state current at_step found executable kind =>
    rw [finalState_andThen_ok]
    exact (coherent.send _).recorded (recordNode_recorded _)
  | recordedFinished state kind =>
    rw [finalState_andThen_ok]
    cases coherent with
    | finished _ idle nonempty settled past =>
      exact (Coherent.conclude nonempty idle settled past).recorded (recordNode_recorded _)
    | setup wrong _ _ | waiting wrong _ _ _ =>
      rcases wrong with wrong | wrong <;> rw [state] at wrong <;> cases wrong
    | executing _ wrong _ _ _ | stuck _ wrong _ _ _ =>
      rw [state] at wrong
      cases wrong
  | retried state current exhausted kind advance =>
    rw [finalState_andThen_ok]
    exact finalState_andThen (advance.coherent current (others (.inr state)))
      fun after coherent => coherent.recorded (recordNode_recorded _)
  | timedOut state =>
    rw [finalState_andThen_ok]
    exact coherent.recorded (announceReady_recorded state)
  | executed state current advance =>
    rw [finalState_andThen_ok]
    refine finalState_andThen (advance.coherent current
      ((others (.inl (going state))).modify current)) fun after coherent => ?_
    obtain ⟨messages, sent, -⟩ := announceStarted_sends after
    rw [sent]
    exact coherent.send messages
  | answered state current executing at_step found kind complete _ advance =>
    rw [finalState_andThen_ok]
    refine advance.coherent (by simpa using current) ?_
    have settled := others (.inl (by rw [state]; rfl))
    unfold Coordinator.answered
    split
    · exact settled.modify current
    · exact settled
  | @restarted _ i accepted current =>
    refine Coherent.configure (fun j apart => ?_) ?_
    · have different : c.testsuite.currentTc ≠ some j := fun same =>
        apart (Option.some.inj (same.symm.trans current))
      simpa [modify, apart] using others (.inl accepted) j different
    · simpa [modify] using (c.testsuite.testcase i).reinit_pristine
  | selected accepted =>
    exact selectTestcase_coherent _ (coherent.nonempty accepted) (others (.inl accepted))
  | skippedCurrent accepted current named =>
    exact Coherent.proceed (coherent.nonempty accepted)
      ((others (.inl accepted)).skip_current current (coherent.unskipped current))
  | skippedOther state found apart => exact coherent.skip _ (.inr apart)
  | skippedInstead state found current => exact coherent.skip _ (.inl state)
  | @skippedExecuting id _ i j _ _ state current at_step located executable found apart =>
    exact (coherent.skip j (.inr fun same =>
      apart (Option.some.inj (current.symm.trans same)))).send _
  | @aborted i accepted current =>
    exact Coherent.proceed i.pos ((others accepted).modify_current (·.abort) current
      (TestCase.Settled.aborted _))

end Preservation

end Coordinator

end Ioppytest
