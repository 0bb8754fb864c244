import Ioppytest.TestCoordinator.Reactions

/-!
# Handling of inputs

One equation for each input: the reaction that the coordinator computes at the states it accepts
the input in. The reactions follow the handlers of the source; the callbacks of the states that
are left and entered are already part of them.
-/

namespace Ioppytest

open Raising Transitions

variable {td : TestDescriptions}

namespace Coordinator

/-- The states of a session in which a test case is being prepared or executed. -/
def ongoing : FsmState → Bool
  | .waitingForIutConfigurationExecuted => true
  | .waitingForTestcaseStart => true
  | .waitingForStepExecuted => true
  | _ => false

/-- The requests that start the sniffer on every link of a test case. -/
def sniffingMessages (i : Fin td.size) : List Message :=
  (td.config i).topology.flatMap (Handler.linkMessages (some (td.id i)))

/-- The start of a test case is announced. -/
def announceStarted (c : Coordinator td) : EStateM.Result PyException (Coordinator td) Unit :=
  match c.testsuite.currentTc with
  | some i => .ok () (c.send [.testCaseStarted (testcaseInfo c.testsuite i)])
  | none => .error .attributeError c

/-- The reaction to the start of a test case. -/
def startTestcase (services : Services) (c : Coordinator td) :
    EStateM.Result PyException (Coordinator td) Unit :=
  match c.testsuite.currentTc with
  | none => .error .assertionError c
  | some i =>
    let state := (c.testsuite.testcase i).state
    if state = some .ready ∨ state = some .configuring then
      andThen (((c.modify i (·.changeState .executing)).send (sniffingMessages i)).advance services)
        announceStarted
    else .error .assertionError c

/-- The reaction to the answer to a step. -/
def stepExecuted (services : Services) (event : Event) (c : Coordinator td) :
    EStateM.Result PyException (Coordinator td) Unit :=
  match Handler.answer c.testsuite event with
  | .error exception => .error exception c
  | .ok ts => (c.withTestsuite ts).advance services

/-- The reaction to the restart of the current test case. -/
def restartTestcase (c : Coordinator td) : EStateM.Result PyException (Coordinator td) Unit :=
  match c.testsuite.currentTc.filter (td.id · ≠ "") with
  | some i => .ok () ((c.modify i (·.reinit)).configure i)
  | none =>
    .error (.coordinatorError "No current testcase, no info on what TC to restart") c

/-- The reaction to the selection of a test case. -/
def selectTestcase (id : PyString.Attribute) (c : Coordinator td) : Coordinator td :=
  let ts := c.testsuite.reinitTestcase c.testsuite.getCurrentTestcaseId
  match id.bind ts.getTestcase with
  | some i => ((c.withTestsuite ts).modify i (·.reinit)).configure i
  | none => (c.withTestsuite ts).proceed

/-- The current test case is skipped, stopping the sniffer if the event names it. -/
def skipCurrent (c : Coordinator td) (i : Fin td.size) (named : Bool) : Coordinator td :=
  let stop :=
    if named ∧ (c.testsuite.testcase i).state = some .executing then [.sniffingStop] else []
  ((c.withTestsuite (c.testsuite.skip i)).send stop).proceed

/-- The error of a request for skipping that finds no test case. -/
def skipError : Option String → PyException
  | none => .coordinatorError "No ongoing testcase, nor testcase_id provided to skip."
  | some id => .testSuiteError ("Non existent testcase: " ++ id ++ " and non ongoing one either")

/-- The reaction to a request for skipping, while a test case is prepared or executed. -/
def skipTestcase (services : Services) (id : PyString.Attribute) (c : Coordinator td) :
    EStateM.Result PyException (Coordinator td) Unit :=
  match id, c.testsuite.currentTc with
  | none, _ => .error .unboundLocalError c
  | some none, none => .error (skipError none) c
  | some none, some i => .ok () (c.skipCurrent i false)
  | some (some id), current =>
    match current.filter (td.id · = id) with
    | some i => .ok () (c.skipCurrent i true)
    | none =>
      match (td.find id).or current with
      | some j => (c.withTestsuite (c.testsuite.skip j)).reenter services
      | none => .error (skipError (some id)) c

/-- The reaction to an abort. -/
def abortTestcase (c : Coordinator td) : EStateM.Result PyException (Coordinator td) Unit :=
  match c.testsuite.currentTc with
  | some i =>
    .ok () (c.withTestsuite { c.testsuite.modify i (·.abort) with currentTc := none }).proceed
  | none => .error .attributeError c

/-- The reaction to a session configuration. -/
def configureTestsuite (upper : String → String) (sessionId : Option String)
    (users : Option (List String)) (configuration : Option SessionConfiguration)
    (c : Coordinator td) : EStateM.Result PyException (Coordinator td) Unit :=
  match Handler.sessionTcList configuration with
  | .error exception => .error exception c
  | .ok requested =>
    let requested :=
      if requested.isEmpty then (List.finRange td.size).map td.id else requested
    match c.testsuite.configureTestsuite upper requested sessionId users configuration with
    | .error exception => .error exception c
    | .ok ts =>
      andThen ((c.withTestsuite ts).reenter Coordinator.noServices) fun left =>
        .ok () (left.withState .waitingForTestsuiteStart)

/-- The reaction to the start of the suite. -/
def startTestsuite (upper : String → String) (c : Coordinator td) :
    EStateM.Result PyException (Coordinator td) Unit :=
  match c.testsuite.reinit upper with
  | .error exception => .error exception c
  | .ok ts =>
    let tunnels := ts.addressingTable.items.map fun (node, address) =>
      .agentTunStart node address.1 address.2
    andThen (((c.withTestsuite ts).send tunnels).reenter Coordinator.noServices) fun left =>
      .ok () left.proceed

/-- The reaction to a request for skipping before the suite is started. -/
def skipBefore (id : PyString.Attribute) (c : Coordinator td) :
    EStateM.Result PyException (Coordinator td) Bool :=
  match id with
  | none => .error .unboundLocalError c
  | some none => .ok false c
  | some (some id) =>
    match td.find id with
    | some j =>
      andThen ((c.withTestsuite (c.testsuite.skip j)).reenter Coordinator.noServices) (.ok true)
    | none => .error (skipError (some id)) c

/-- Executing the next step does not depend on the state. -/
@[simp] theorem withState_advance (services : Services) (c : Coordinator td) (state : FsmState) :
    (c.withState state).advance services = c.advance services := by
  unfold advance
  simp only [withState_testsuite]
  cases c.testsuite.currentTc with
  | none => rfl
  | some i =>
    cases (c.testsuite.testcase i).nextStep with
    | mk step tc => cases step <;> rfl

section Handling

variable {upper : String → String} {services : Services} {c : Coordinator td} {event : Event}

/-- An event is dispatched to its trigger. -/
theorem handle_event {name : TriggerName} (kind : controlEventsTriggers event = some name) :
    c.handle upper (.event event services) =
      (trigger upper services name (some event)).run c := by
  simp only [handle, dispatch, kind]

/-- A trigger is accepted in the states that have a transition for it. -/
def accepts (state : FsmState) (name : TriggerName) : Bool :=
  !(machine.edges (.event name) state).isEmpty

/-- An event without a transition is refused or ignored. -/
theorem handle_refused {name : TriggerName} (kind : controlEventsTriggers event = some name)
    (refused : accepts c.state name = false) :
    c.handle upper (.event event services) =
      if c.state = .waitingForTestcaseStart then .ok false c else .error .machineError c := by
  rw [handle_event kind]
  exact fire_refused upper services 15 _ (List.isEmpty_iff.mp (by simpa [accepts] using refused))

/-- An abort without a transition is refused or ignored. -/
theorem handle_abort_refused (refused : accepts c.state .abortTestcase = false) :
    c.handle upper .abortTestcase =
      if c.state = .waitingForTestcaseStart then .ok false c else .error .machineError c :=
  fire_refused upper noServices 15 _ (List.isEmpty_iff.mp (by simpa [accepts] using refused))

/-- A configuration message leaves and enters the state, and then records the node. -/
theorem handle_configuration (kind : controlEventsTriggers event = some .iutConfigurationExecuted)
    (resting : rests c.state = true) :
    c.handle upper (.event event services) =
      andThen (andThen (c.reenter services) (recordNode (some event))) (.ok true) := by
  have found : machine.edges (.event .iutConfigurationExecuted) c.state =
      [⟨c.state, [], [.setReceivedEvent], [.handleIutConfigurationExecuted]⟩] := by
    cases c.state <;> rfl
  rw [handle_event kind, trigger_run _ _ rfl found, ← reenter_run upper services (some event)
    resting]
  simp [follow, Handler.callback, andThen_assoc, handleIutConfigurationExecuted_run]

/-- A transition whose first callback raises changes nothing but what the callback changed. -/
theorem follow_refused (callback : Callback) (event : Option Event)
    {fire : Fired → Option Event → Handler td Bool} {source dest : FsmState}
    {before after : List Callback} {exception : PyException} {raising : Coordinator td}
    {conditions : List (Condition × Bool)}
    (raises : (Handler.callback upper services fire callback event).run c =
      .error exception raising) :
    follow machine (model td upper services) fire source
      ⟨dest, conditions, .setReceivedEvent :: callback :: before, after⟩ event c =
      .error exception raising := by
  have received : (Handler.callback upper services fire .setReceivedEvent event).run c =
    .ok () c := rfl
  simp only [follow, callbacks_cons, model_callback, received, raises, andThen_ok,
    andThen_error]

/-- A transition out of a state without exit callbacks, whose only handler returns. -/
theorem follow_handled (callback : Callback) (event : Option Event)
    {fire : Fired → Option Event → Handler td Bool} {source dest : FsmState}
    {after : List Callback} {handled : Coordinator td} {conditions : List (Condition × Bool)}
    (returns : (Handler.callback upper services fire callback event).run c = .ok () handled)
    (silent : (states source).onExit = []) :
    follow machine (model td upper services) fire source
      ⟨dest, conditions, [.setReceivedEvent, callback], after⟩ event c =
      andThen (andThen ((callbacks (model td upper services) fire (states dest).onEnter event).run
        (handled.withState dest))
        (callbacks (model td upper services) fire after event).run) (.ok true) := by
  have received : (Handler.callback upper services fire .setReceivedEvent event).run c =
    .ok () c := rfl
  simp only [follow, callbacks_cons, callbacks_nil, model_callback, received, returns,
    andThen_ok, machine_states, silent, model_setState, andThen_assoc]

/-- Entering `preparing_next_step` executes the next step. -/
theorem enter_preparingNextStep {event : Option Event} :
    (callbacks (model td upper services) (fire upper services 15)
      (states .preparingNextStep).onEnter event).run (c.withState .preparingNextStep) =
      c.advance services := by
  have prepared := prepareNextStep_run upper services 12 (c := c.withState .preparingNextStep) rfl
  rw [withState_advance] at prepared
  simp [states, Handler.callback, prepared]

/-- Entering `preparing_next_testcase` without a test case to execute in the event. -/
theorem enter_preparingNextTestcase (event : Option Event) (nonempty : 0 < td.size)
    (nothing : (Handler.testcaseToExecute event).run (c.withState .preparingNextTestcase) =
      .ok none (c.withState .preparingNextTestcase)) :
    (callbacks (model td upper services) (fire upper services 15)
      (states .preparingNextTestcase).onEnter event).run (c.withState .preparingNextTestcase) =
      .ok () c.proceed := by
  have prepared := prepareNextTestcase_next upper services 14 event
    (c := c.withState .preparingNextTestcase) nonempty rfl nothing
  rw [withState_proceed] at prepared
  simp [states, Handler.callback, prepared]

/-- Entering `preparing_next_testcase` with a test case to execute in the event. -/
theorem enter_preparingNextTestcase_asked (event : Option Event) {i : Fin td.size}
    (after : Coordinator td)
    (found : (Handler.testcaseToExecute event).run (c.withState .preparingNextTestcase) =
      .ok (some i) (after.withState .preparingNextTestcase))
    (current : after.testsuite.currentTc = some i)
    (unfinished : (after.testsuite.testcase i).state ≠ some .finished) :
    (callbacks (model td upper services) (fire upper services 15)
      (states .preparingNextTestcase).onEnter event).run (c.withState .preparingNextTestcase) =
      .ok () (after.configure i) := by
  have asked : (after.withState .preparingNextTestcase).state = .preparingNextTestcase := rfl
  have prepared := prepareNextTestcase_asked upper services 14 event asked found current unfinished
  rw [withState_configure] at prepared
  simp [states, Handler.callback, prepared]

/-- A configured test case is started. -/
theorem handleStartTestcase_run {i : Fin td.size} (current : c.testsuite.currentTc = some i)
    (configured : (c.testsuite.testcase i).state = some .ready ∨
      (c.testsuite.testcase i).state = some .configuring) :
    Handler.handleStartTestcase.run c =
      .ok () ((c.modify i (·.changeState .executing)).send (sniffingMessages i)) := by
  have state : c.testsuite.getCurrentTestcaseState = (c.testsuite.testcase i).state := by
    simp [TestSuite.getCurrentTestcaseState, current]
  have allowed : ¬ ((c.testsuite.testcase i).state ≠ some .ready ∧
      (c.testsuite.testcase i).state ≠ some .configuring) := by
    rintro ⟨first, second⟩
    exact configured.elim first second
  simp [Handler.handleStartTestcase, state, allowed, Handler.setCurrentTestcaseState_run current,
    TestSuite.getCurrentTestcaseConfiguration, TestSuite.getCurrentTestcaseId, modify, current,
    TestDescriptions.config?_eq, sniffingMessages]

/-- A test case that is not configured is not started. -/
theorem handleStartTestcase_error
    (unconfigured : c.testsuite.getCurrentTestcaseState ≠ some .ready ∧
      c.testsuite.getCurrentTestcaseState ≠ some .configuring) :
    Handler.handleStartTestcase.run c = .error .assertionError c := by
  simp [Handler.handleStartTestcase, unconfigured]

/-- The callback after the start announces it. -/
theorem notifyTestcaseStarted_run {fire : Fired → Option Event → Handler td Bool}
    {event : Option Event} :
    (callbacks (model td upper services) fire [.notifyTestcaseStarted] event).run =
      announceStarted := by
  funext c
  cases current : c.testsuite.currentTc with
  | none => simp [Handler.callback, announceStarted, Handler.notifyTestcaseStarted_error, current]
  | some i =>
    simp [Handler.callback, announceStarted, Handler.notifyTestcaseStarted_run (i := i), current]

/-- The start of a test case executes its first step. -/
theorem handle_testCaseStart {id : PyString.Attribute}
    (accepted : c.state = .waitingForIutConfigurationExecuted ∨
      c.state = .waitingForTestcaseStart) :
    c.handle upper (.event (.testCaseStart id) services) =
      andThen (c.startTestcase services) (.ok true) := by
  have silent : (states c.state).onExit = [] := by
    rcases accepted with state | state <;> rw [state] <;> rfl
  have followed : c.handle upper (.event (.testCaseStart id) services) =
      follow machine (model td upper services) (fire upper services 15) c.state
        ⟨.preparingNextStep, [], [.setReceivedEvent, .handleStartTestcase],
          [.notifyTestcaseStarted]⟩ (some (.testCaseStart id)) c := by
    have found : machine.edges (.event .startTestcase) c.state =
        [⟨.preparingNextStep, [], [.setReceivedEvent, .handleStartTestcase],
          [.notifyTestcaseStarted]⟩] := by
      rcases accepted with state | state <;> rw [state] <;> rfl
    rw [handle_event rfl, trigger_run _ _ rfl found]
  rw [followed]
  by_cases configured : c.testsuite.getCurrentTestcaseState = some .ready ∨
      c.testsuite.getCurrentTestcaseState = some .configuring
  · cases current : c.testsuite.currentTc with
    | none => simp [TestSuite.getCurrentTestcaseState, current] at configured
    | some i =>
      simp only [TestSuite.getCurrentTestcaseState, current, Option.bind_some] at configured
      rw [follow_handled .handleStartTestcase _
        (handleStartTestcase_run current configured) silent, enter_preparingNextStep,
        notifyTestcaseStarted_run]
      simp only [startTestcase, current, configured, ↓reduceIte]
  · have raises := handleStartTestcase_error (not_or.mp configured)
    rw [follow_refused .handleStartTestcase _ raises]
    cases current : c.testsuite.currentTc with
    | none => simp only [startTestcase, current, andThen_error]
    | some i =>
      simp only [TestSuite.getCurrentTestcaseState, current, Option.bind_some] at configured
      simp only [startTestcase, current, configured, ↓reduceIte, andThen_error]

/-- The answer to a step executes the next one. -/
theorem handle_stepExecuted (kind : controlEventsTriggers event = some .stepExecuted)
    (accepted : c.state = .waitingForStepExecuted) :
    c.handle upper (.event event services) = andThen (c.stepExecuted services event) (.ok true) := by
  rw [handle_event kind, trigger_run _ _ accepted rfl]
  cases answered : Handler.answer c.testsuite event with
  | error exception =>
    have handled : (Handler.handleStepExecuted (some event)).run c = .error exception c := by
      rw [Handler.handleStepExecuted]
      exact Handler.updateTestsuite_error answered
    rw [follow_refused .handleStepExecuted (some event) handled]
    simp only [stepExecuted, answered, andThen_error]
  | ok ts =>
    have handled : (Handler.handleStepExecuted (some event)).run c =
        .ok () (c.withTestsuite ts) := by
      rw [Handler.handleStepExecuted]
      exact Handler.updateTestsuite_ok answered
    rw [follow_handled .handleStepExecuted (some event) handled rfl, enter_preparingNextStep]
    simp only [callbacks_nil, andThen_unit, stepExecuted, answered]

/-- Exit callbacks are absent where a test case is prepared or executed. -/
theorem silent_of_ongoing {state : FsmState} (accepted : ongoing state = true) :
    (states state).onExit = [] := by
  cases state with
  | waitingForIutConfigurationExecuted | waitingForTestcaseStart | waitingForStepExecuted => rfl
  | _ => cases accepted

/-- The restart of the current test case configures it. -/
theorem handle_testCaseRestart (accepted : ongoing c.state = true) :
    c.handle upper (.event .testCaseRestart services) = andThen c.restartTestcase (.ok true) := by
  have found : machine.edges (.event .restartTestcase) c.state =
      [⟨.preparingNextTestcase, [], [.setReceivedEvent, .handleTestcaseRestart], []⟩] := by
    cases state : c.state with
    | waitingForIutConfigurationExecuted | waitingForTestcaseStart | waitingForStepExecuted => rfl
    | _ =>
      rw [state] at accepted
      cases accepted
  rw [handle_event rfl, trigger_run _ _ rfl found]
  cases current : c.testsuite.currentTc with
  | none =>
    have raises : (Handler.handleTestcaseRestart : Handler td Unit).run c = .error (.coordinatorError
        "No current testcase, no info on what TC to restart") c := by
      simp [Handler.handleTestcaseRestart, TestSuite.getCurrentTestcaseId, current,
        PyString.truthy]
    rw [follow_refused .handleTestcaseRestart _ raises]
    simp only [restartTestcase, current, Option.filter_none, andThen_error]
  | some i =>
    by_cases anonymous : td.id i = ""
    · have raises : (Handler.handleTestcaseRestart : Handler td Unit).run c = .error (.coordinatorError
          "No current testcase, no info on what TC to restart") c := by
        simp [Handler.handleTestcaseRestart, TestSuite.getCurrentTestcaseId, current,
          PyString.truthy, anonymous, Option.filter]
      rw [follow_refused .handleTestcaseRestart _ raises]
      simp [restartTestcase, current, Option.filter, anonymous]
    · have handled : (Handler.handleTestcaseRestart : Handler td Unit).run c =
          .ok () (c.modify i (·.reinit)) := by
        simp [Handler.handleTestcaseRestart, TestSuite.getCurrentTestcaseId, current,
          PyString.truthy, anonymous, Option.filter, TestSuite.reinitTestcase,
          TestSuite.getTestcase, modify]
      rw [follow_handled .handleTestcaseRestart _ handled (silent_of_ongoing accepted),
        enter_preparingNextTestcase_asked _ (c.modify i (·.reinit)) _ current (by simp [modify])]
      · simp [restartTestcase, current, Option.filter, anonymous]
      · simp [Handler.testcaseToExecute, Handler.currentTestcase, modify, current]

/-- The selection of a test case reinitialises the current one and configures the selected one,
or the next one if there is none. -/
theorem handle_testCaseSelect {id : PyString.Attribute} (nonempty : 0 < td.size)
    (accepted : ongoing c.state = true) :
    c.handle upper (.event (.testCaseSelect id) services) = .ok true (c.selectTestcase id) := by
  have found : machine.edges (.event .selectTestcase) c.state =
      [⟨.preparingNextTestcase, [], [.setReceivedEvent, .handleTestcaseSelect], []⟩] := by
    cases state : c.state with
    | waitingForIutConfigurationExecuted | waitingForTestcaseStart | waitingForStepExecuted => rfl
    | _ =>
      rw [state] at accepted
      cases accepted
  have handled : (Handler.handleTestcaseSelect : Handler td Unit).run c = .ok ()
      (c.withTestsuite (c.testsuite.reinitTestcase c.testsuite.getCurrentTestcaseId)) :=
    Handler.updateTestsuite_run
  rw [handle_event rfl, trigger_run _ _ rfl found, follow_handled .handleTestcaseSelect _
    handled (silent_of_ongoing accepted)]
  simp only [callbacks_nil, andThen_unit, selectTestcase]
  generalize c.testsuite.reinitTestcase c.testsuite.getCurrentTestcaseId = ts
  cases id with
  | none =>
    rw [enter_preparingNextTestcase _ nonempty rfl]
    rfl
  | some id =>
    simp only [Option.bind_some]
    cases selected : ts.getTestcase id with
    | none =>
      rw [enter_preparingNextTestcase _ nonempty
        (by simp [Handler.testcaseToExecute, selected])]
      rfl
    | some i =>
      rw [enter_preparingNextTestcase_asked _
        (c.withTestsuite ({ ts with currentTc := some i }.modify i (·.reinit))) _ rfl (by simp)]
      · rfl
      · simp [Handler.testcaseToExecute, selected, Handler.updateTestsuite,
          TestSuite.goToTestcase_id]

/-- An abort removes the current test case and goes on with the next one. -/
theorem handle_abortTestcase
    (accepted : ongoing c.state = true ∨ c.state = .preparingNextStep) :
    c.handle upper .abortTestcase = andThen c.abortTestcase (.ok true) := by
  have found : machine.edges (.event .abortTestcase) c.state =
      [⟨.preparingNextTestcase, [], [.setReceivedEvent, .handleAbortTestcase], []⟩] := by
    cases state : c.state with
    | waitingForIutConfigurationExecuted | waitingForTestcaseStart | waitingForStepExecuted
    | preparingNextStep => rfl
    | _ =>
      rw [state] at accepted
      rcases accepted with wrong | wrong <;> cases wrong
  have silent : (states c.state).onExit = [] := by
    rcases accepted with going | stuck
    · exact silent_of_ongoing going
    · rw [stuck]
      rfl
  rw [handle, trigger_run _ _ rfl found]
  cases current : c.testsuite.currentTc with
  | none =>
    have raises : (Handler.handleAbortTestcase : Handler td Unit).run c = .error .attributeError c :=
      Handler.updateTestsuite_error (by simp [TestSuite.abortCurrentTestcase, current])
    rw [follow_refused .handleAbortTestcase _ raises]
    simp only [abortTestcase, current, andThen_error]
  | some i =>
    have handled : (Handler.handleAbortTestcase : Handler td Unit).run c = .ok ()
        (c.withTestsuite { c.testsuite.modify i (·.abort) with currentTc := none }) :=
      Handler.updateTestsuite_ok (by simp [TestSuite.abortCurrentTestcase, current])
    rw [follow_handled .handleAbortTestcase _ handled silent,
      enter_preparingNextTestcase _ i.pos rfl]
    simp only [callbacks_nil, andThen_unit, abortTestcase, current]

/-- The timer announces the end of the configuration. -/
theorem handle_timeout (accepted : c.state = .waitingForIutConfigurationExecuted) :
    c.handle upper .timeout = andThen c.announceReady (.ok true) := by
  rw [handle, if_pos accepted]
  exact configurationOver_run upper noServices 15 (.inr rfl) accepted

/-- Whether a request for skipping is about the current test case. -/
def namesCurrent (ts : TestSuite td) : Option String → Bool
  | none => true
  | some id => ts.currentTc.any (td.id · = id)

variable (upper services) in
/-- The condition of the two transitions for skipping. -/
theorem check_skip (id : Option String) (target : Bool) :
    (check (model td upper services) [(.isSkippingCurrentTestcase, target)]
      (some (.testCaseSkip (some id)))).run c =
      .ok (decide (namesCurrent c.testsuite id = target)) c := by
  have asked : (Handler.isSkippingCurrentTestcase (some (.testCaseSkip (some id)))).run c =
      .ok (namesCurrent c.testsuite id) c := by
    cases id with
    | none => simp [Handler.isSkippingCurrentTestcase, namesCurrent]
    | some id =>
      cases current : c.testsuite.currentTc <;>
        simp [Handler.isSkippingCurrentTestcase, namesCurrent, TestSuite.getCurrentTestcaseId,
          current, eq_comm]
  have condition : ((model td upper services).condition .isSkippingCurrentTestcase
      (some (.testCaseSkip (some id)))).run c = .ok (namesCurrent c.testsuite id) c := asked
  simp only [check, EStateM.run_bind, condition]
  by_cases same : namesCurrent c.testsuite id = target <;> simp [same]

/-- A request for skipping without the attribute fails in the condition. -/
theorem check_skip_missing {target : Bool} :
    (check (model td upper services) [(.isSkippingCurrentTestcase, target)]
      (some (.testCaseSkip none))).run c = .error .unboundLocalError c := by
  have asked : ((model td upper services).condition .isSkippingCurrentTestcase
      (some (.testCaseSkip none))).run c = .error .unboundLocalError c := rfl
  simp only [check, EStateM.run_bind, asked]

/-- The handler of a request for skipping, past its condition. -/
theorem handleTestcaseSkip_run (id : Option String) {i : Fin td.size}
    (found : (c.testsuite.getTestcase id).or c.testsuite.currentTc = some i) :
    (Handler.handleTestcaseSkip (some (.testCaseSkip (some id)))).run c =
      .ok () ((c.withTestsuite (c.testsuite.skip i)).send
        (if c.testsuite.getCurrentTestcaseId = id ∧
          c.testsuite.getCurrentTestcaseState = some .executing then [.sniffingStop] else [])) := by
  have skipped (sent : List Message) :
      (Handler.updateTestsuite (·.skipTestcase id)).run (c.send sent) =
        .ok () ((c.send sent).withTestsuite (c.testsuite.skip i)) :=
    Handler.updateTestsuite_ok (TestSuite.skipTestcase_found found)
  have known : ¬ (c.testsuite.currentTc.isNone = true ∧ id.isNone = true) := by
    rintro ⟨idle, unnamed⟩
    simp only [Option.isNone_iff_eq_none] at idle unnamed
    subst unnamed
    simp [TestSuite.getTestcase, idle] at found
  simp only [Handler.handleTestcaseSkip, EStateM.run_bind, Handler.testsuite_run,
    Option.join_some, known, ↓reduceIte]
  by_cases stops : c.testsuite.getCurrentTestcaseId = id ∧
      c.testsuite.getCurrentTestcaseState = some .executing
  · simp only [stops, and_self, ↓reduceIte, EStateM.run_bind, Handler.publish_run, skipped,
      send_withTestsuite]
  · have unsent := skipped []
    rw [send_nil] at unsent
    simp only [stops, ↓reduceIte, unsent, send_nil]

/-- A request for skipping that finds no test case. -/
theorem handleTestcaseSkip_error (id : Option String)
    (absent : (c.testsuite.getTestcase id).or c.testsuite.currentTc = none) :
    (Handler.handleTestcaseSkip (some (.testCaseSkip (some id)))).run c =
      .error (skipError id) c := by
  obtain ⟨missing, idle⟩ := Option.or_eq_none_iff.mp absent
  cases id with
  | none => simp [Handler.handleTestcaseSkip, idle, skipError]
  | some id =>
    have raises : (Handler.updateTestsuite (·.skipTestcase (some id))).run c =
        .error (skipError (some id)) c :=
      Handler.updateTestsuite_error (by simp [TestSuite.skipTestcase, missing, idle, skipError])
    simp [Handler.handleTestcaseSkip, idle, TestSuite.getCurrentTestcaseId, raises]

/-- The transition for skipping the current test case. -/
def skipCurrentEdge : Edge FsmState Callback Condition :=
  ⟨.preparingNextTestcase, [(.isSkippingCurrentTestcase, true)],
    [.setReceivedEvent, .handleTestcaseSkip], []⟩

/-- The transition for skipping another test case. -/
def skipOtherEdge (state : FsmState) : Edge FsmState Callback Condition :=
  ⟨state, [(.isSkippingCurrentTestcase, false)], [.setReceivedEvent, .handleTestcaseSkip], []⟩

/-- A request for skipping another test case leaves and enters the state. -/
theorem follow_skipOther {id : String} (resting : rests c.state = true)
    (other : namesCurrent c.testsuite (some id) = false) :
    follow machine (model td upper services) (fire upper services 15) c.state
      (skipOtherEdge c.state) (some (.testCaseSkip (some (some id)))) c =
      andThen (match (td.find id).or c.testsuite.currentTc with
        | some j => (c.withTestsuite (c.testsuite.skip j)).reenter services
        | none => .error (skipError (some id)) c) (.ok true) := by
  cases target : (td.find id).or c.testsuite.currentTc with
  | none =>
    exact follow_refused .handleTestcaseSkip _
      (handleTestcaseSkip_error (some id) target)
  | some j =>
    have apart : c.testsuite.getCurrentTestcaseId ≠ some id := by
      intro same
      obtain ⟨i, current, named⟩ := Option.map_eq_some_iff.mp same
      simp [namesCurrent, current, named] at other
    have handled : (Handler.handleTestcaseSkip (some (.testCaseSkip (some (some id))))).run c =
        .ok () (c.withTestsuite (c.testsuite.skip j)) := by
      rw [handleTestcaseSkip_run (some id) target]
      simp [apart]
    have entered := reenter_run upper services (some (.testCaseSkip (some (some id))))
      (c := c.withTestsuite (c.testsuite.skip j)) resting
    simp only [withTestsuite_state] at entered
    simp only [skipOtherEdge, follow, callbacks_cons, callbacks_nil, model_callback,
      Handler.callback, EStateM.run_pure, handled, andThen_ok, machine_states,
      model_setState, ← entered, andThen_assoc]

/-- A request for skipping, while a test case is prepared or executed. -/
theorem handle_testCaseSkip {id : PyString.Attribute} (accepted : ongoing c.state = true) :
    c.handle upper (.event (.testCaseSkip id) services) =
      andThen (c.skipTestcase services id) (.ok true) := by
  have found : machine.edges (.event .skipTestcase) c.state =
      [skipCurrentEdge, skipOtherEdge c.state] := by
    cases state : c.state with
    | waitingForIutConfigurationExecuted | waitingForTestcaseStart | waitingForStepExecuted => rfl
    | _ =>
      rw [state] at accepted
      cases accepted
  have resting : rests c.state = true := by
    cases state : c.state with
    | waitingForIutConfigurationExecuted | waitingForTestcaseStart | waitingForStepExecuted => rfl
    | _ =>
      rw [state] at accepted
      cases accepted
  have looked : c.handle upper (.event (.testCaseSkip id) services) =
      (process machine (model td upper services) (fire upper services 15) c.state
        [skipCurrentEdge, skipOtherEdge c.state] (some (.testCaseSkip id))).run c := by
    rw [handle_event rfl]
    exact trigger_edges rfl found
  rw [looked]
  cases id with
  | none => exact process_raises check_skip_missing
  | some id =>
    cases named : namesCurrent c.testsuite id with
    | false =>
      have fails := check_skip upper services (c := c) id true
      have holds := check_skip upper services (c := c) id false
      rw [named] at fails holds
      rw [process_fails fails, process_holds holds]
      cases id with
      | none => cases named
      | some id =>
        rw [follow_skipOther resting named]
        have apart : c.testsuite.currentTc.filter (td.id · = id) = none := by
          cases current : c.testsuite.currentTc with
          | none => rfl
          | some i =>
            simp only [namesCurrent, current, Option.any_some, decide_eq_false_iff_not] at named
            simp [Option.filter, named]
        simp only [skipTestcase, apart]
    | true =>
      have holds := check_skip upper services (c := c) id true
      rw [named] at holds
      rw [process_holds holds]
      cases current : c.testsuite.currentTc with
      | none =>
        cases id with
        | none =>
          have raises := handleTestcaseSkip_error (c := c) none
            (by simp [TestSuite.getTestcase, current])
          refine (follow_refused .handleTestcaseSkip (some (.testCaseSkip (some none)))
            raises).trans ?_
          simp only [skipTestcase, current, andThen_error]
        | some id => simp [namesCurrent, current] at named
      | some i =>
        have target : (c.testsuite.getTestcase id).or c.testsuite.currentTc = some i := by
          cases id with
          | none => simp [TestSuite.getTestcase, current]
          | some id =>
            have same : td.id i = id := by simpa [namesCurrent, current] using named
            simp [TestSuite.getTestcase, ← same]
        have handled := handleTestcaseSkip_run id target
        refine (follow_handled .handleTestcaseSkip (some (.testCaseSkip (some id))) handled
          (silent_of_ongoing accepted)).trans ?_
        rw [enter_preparingNextTestcase _ i.pos rfl]
        cases id with
        | none =>
          simp [skipTestcase, current, skipCurrent, TestSuite.getCurrentTestcaseId]
        | some id =>
          have same : td.id i = id := by simpa [namesCurrent, current] using named
          simp [skipTestcase, current, skipCurrent, TestSuite.getCurrentTestcaseId,
            TestSuite.getCurrentTestcaseState, same, Option.filter]

/-- A request for skipping before the suite is configured. -/
theorem handle_testCaseSkip_before {id : PyString.Attribute}
    (accepted : c.state = .waitingForTestsuiteConfig) (idle : c.testsuite.currentTc = none) :
    c.handle upper (.event (.testCaseSkip id) services) = c.skipBefore id := by
  have resting : rests c.state = true := by rw [accepted]; rfl
  have looked : c.handle upper (.event (.testCaseSkip id) services) =
      (process machine (model td upper services) (fire upper services 15) c.state
        [skipOtherEdge c.state] (some (.testCaseSkip id))).run c := by
    rw [handle_event rfl]
    exact trigger_edges rfl (by rw [accepted]; rfl)
  rw [looked]
  match id with
  | none => exact process_raises check_skip_missing
  | some none => exact process_fails (check_skip upper services none false)
  | some (some id) =>
    have other : namesCurrent c.testsuite (some id) = false := by simp [namesCurrent, idle]
    have holds := check_skip upper services (c := c) (some id) false
    rw [other] at holds
    rw [process_holds holds, follow_skipOther resting other, idle, Option.or_none, skipBefore]
    cases td.find id with
    | none => rfl
    | some j => simp only [reenter, withTestsuite_state, accepted]

variable (upper services) in
/-- Leaving a state of the setup does what leaving and entering it again does. -/
theorem leave_setup (event : Option Event)
    (accepted : c.state = .waitingForTestsuiteConfig ∨ c.state = .waitingForTestsuiteStart) :
    (callbacks (model td upper services) (fire upper services 15) (states c.state).onExit
      event).run c = c.reenter noServices := by
  rcases accepted with state | state
  · by_cases empty : td.size = 0
    · simp [state, states, Handler.callback, Handler.notifyTestsuiteConfigured_error, empty,
        reenter]
    · simp [state, states, Handler.callback, Handler.notifyTestsuiteConfigured_run,
        Nat.pos_of_ne_zero empty, empty, reenter]
  · simp [state, states, Handler.callback, Handler.notifyTestsuiteStarted, reenter]

/-- A session configuration. -/
theorem handle_sessionConfiguration {sessionId : Option String} {users : Option (List String)}
    {configuration : Option SessionConfiguration}
    (accepted : c.state = .waitingForTestsuiteConfig) :
    c.handle upper (.event (.sessionConfiguration sessionId users configuration) services) =
      andThen (c.configureTestsuite upper sessionId users configuration) (.ok true) := by
  rw [handle_event rfl, trigger_run _ _ accepted rfl]
  cases requested : Handler.sessionTcList configuration with
  | error exception =>
    have raises : (Handler.handleTestsuiteConfig upper sessionId users configuration).run c =
        .error exception c := by
      simp [Handler.handleTestsuiteConfig, requested]
    refine (follow_refused .handleTestsuiteConfig
      (some (.sessionConfiguration sessionId users configuration)) raises).trans ?_
    simp only [configureTestsuite, requested, andThen_error]
  | ok ids =>
    have handled : (Handler.handleTestsuiteConfig upper sessionId users configuration).run c =
        (Handler.updateTestsuite (·.configureTestsuite upper
          (if ids.isEmpty then (List.finRange td.size).map td.id else ids) sessionId users
          configuration)).run c := by
      simp [Handler.handleTestsuiteConfig, requested]
    cases configured : c.testsuite.configureTestsuite upper
        (if ids.isEmpty then (List.finRange td.size).map td.id else ids) sessionId users
        configuration with
    | error exception =>
      refine (follow_refused .handleTestsuiteConfig
        (some (.sessionConfiguration sessionId users configuration))
        (handled.trans (Handler.updateTestsuite_error configured))).trans ?_
      simp only [configureTestsuite, requested, configured, andThen_error]
    | ok ts =>
      have returned := handled.trans (Handler.updateTestsuite_ok configured)
      have left := leave_setup upper services
        (some (.sessionConfiguration sessionId users configuration)) (c := c.withTestsuite ts)
        (.inl accepted)
      rw [withTestsuite_state, accepted] at left
      simp only [follow, callbacks_cons, callbacks_nil, model_callback, Handler.callback,
        EStateM.run_pure, returned, andThen_ok, machine_states, left, model_setState,
        configureTestsuite, requested, configured, andThen_assoc]
      rfl

/-- The start of the suite. -/
theorem handle_testSuiteStart
    (accepted : c.state = .waitingForTestsuiteConfig ∨
      (c.state = .waitingForTestsuiteStart ∧ 0 < td.size)) :
    c.handle upper (.event .testSuiteStart services) =
      andThen (c.startTestsuite upper) (.ok true) := by
  have setup : c.state = .waitingForTestsuiteConfig ∨ c.state = .waitingForTestsuiteStart :=
    accepted.imp_right And.left
  have found : machine.edges (.event .startTestsuite) c.state =
      [⟨.preparingNextTestcase, [], [.setReceivedEvent, .handleTestsuiteStart,
        .configureAgentDataPlaneInterfaces], []⟩] := by
    rcases setup with state | state <;> rw [state] <;> rfl
  rw [handle_event rfl, trigger_run _ _ rfl found]
  cases reset : c.testsuite.reinit upper with
  | error exception =>
    have raises : (Handler.handleTestsuiteStart upper).run c = .error exception c :=
      Handler.updateTestsuite_error reset
    refine (follow_refused .handleTestsuiteStart (some .testSuiteStart) raises).trans ?_
    simp only [startTestsuite, reset, andThen_error]
  | ok ts =>
    have returned : (Handler.handleTestsuiteStart upper).run c = .ok () (c.withTestsuite ts) :=
      Handler.updateTestsuite_ok reset
    have left := leave_setup upper services (some .testSuiteStart)
      (c := (c.withTestsuite ts).send (ts.addressingTable.items.map fun (node, address) =>
        .agentTunStart node address.1 address.2)) setup
    simp only [send_state, withTestsuite_state] at left
    have opened :
        (Handler.configureAgentDataPlaneInterfaces : Handler td Unit).run (c.withTestsuite ts) =
          .ok () ((c.withTestsuite ts).send (ts.addressingTable.items.map fun (node, address) =>
          .agentTunStart node address.1 address.2)) := by
      simp [Handler.configureAgentDataPlaneInterfaces, Handler.notifyTunInterfacesStart]
    simp only [follow, callbacks_cons, callbacks_nil, model_callback, Handler.callback,
      EStateM.run_pure, returned, opened, andThen_ok, machine_states, left, model_setState,
      startTestsuite, reset, andThen_assoc]
    by_cases nonempty : 0 < td.size
    · simp only [enter_preparingNextTestcase (some .testSuiteStart) nonempty rfl,
        andThen_ok]
    · have empty : td.size = 0 := Nat.eq_zero_of_not_pos nonempty
      have early : c.state = .waitingForTestsuiteConfig :=
        accepted.resolve_right fun later => nonempty later.2
      simp only [reenter, send_state, withTestsuite_state, early, empty, ↓reduceIte,
        andThen_error]

end Handling

end Coordinator

end Ioppytest
