import Ioppytest.TestCoordinator.Sessions
import Ioppytest.TestSuite.Selection

/-!
# Settings of a session

How an input changes the settings: a session configuration and the start of the suite write the
session information and the selection, a configuration message records the address of a node, and
nothing else writes them.
-/

namespace Ioppytest

open Raising

variable {td : TestDescriptions}

namespace Coordinator

/-- The test cases that a session configuration requests, all of them when it lists none. -/
def requestedTcs (td : TestDescriptions) (configuration : Option SessionConfiguration) :
    Except PyException (List String) :=
  (Handler.sessionTcList configuration).map fun requested =>
    if requested.isEmpty then (List.finRange td.size).map td.id else requested

/-- The node and address that the coordinator records when it handles an input: what a
configuration message says, unless entering the state again raises first. -/
def recording (c : Coordinator td) : Input → Option (String × String × String)
  | .event event services =>
    if controlEventsTriggers event = some .iutConfigurationExecuted ∧
        raised (c.reenter services) = none then
      (Handler.nodeUpdate (some event)).toOption
    else none
  | _ => none

/-- Only configuration messages are recorded. -/
theorem recording_kind {c : Coordinator td} {input : Input} {update : String × String × String}
    (found : c.recording input = some update) :
    ∃ event services, input = .event event services ∧
      controlEventsTriggers event = some .iutConfigurationExecuted ∧
      raised (c.reenter services) = none ∧ Handler.nodeUpdate (some event) = .ok update := by
  cases input with
  | timeout => cases found
  | abortTestcase => cases found
  | event event services =>
    simp only [recording] at found
    split at found
    · rename_i accepted
      refine ⟨event, services, rfl, accepted.1, accepted.2, ?_⟩
      cases updates : Handler.nodeUpdate (some event) with
      | error exception =>
        rw [updates] at found
        cases found
      | ok other =>
        rw [updates] at found
        obtain rfl : other = update := Option.some.inj found
        rfl
    · cases found

/-- The settings after an input. -/
def settingsAfter (upper : String → String) (c : Coordinator td) (input : Input) : Settings :=
  match input with
  | .event (.sessionConfiguration sessionId users configuration) _ =>
    match requestedTcs td configuration with
    | .ok requested =>
      if c.state = .waitingForTestsuiteConfig then
        c.testsuite.settings.configure upper requested sessionId users configuration
      else c.testsuite.settings
    | .error _ => c.testsuite.settings
  | .event .testSuiteStart _ =>
    if c.state = .waitingForTestsuiteConfig ∨ c.state = .waitingForTestsuiteStart then
      c.testsuite.settings.restart upper
    else c.testsuite.settings
  | input =>
    match c.recording input with
    | some (node, address) => c.testsuite.settings.record node address
    | none => c.testsuite.settings

variable {c : Coordinator td} {input : Input}

/-- Changing a test case leaves the settings. -/
@[simp] theorem modify_settings (c : Coordinator td) (i : Fin td.size)
    (change : TestCase → TestCase) : (c.modify i change).testsuite.settings = c.testsuite.settings :=
  rfl

/-- Configuring a test case leaves the settings. -/
@[simp] theorem configure_settings (c : Coordinator td) (i : Fin td.size) :
    (c.configure i).testsuite.settings = c.testsuite.settings := rfl

/-- Ending the session leaves the settings. -/
@[simp] theorem conclude_settings (c : Coordinator td) :
    c.conclude.testsuite.settings = c.testsuite.settings := rfl

/-- Going on to the next test case leaves the settings. -/
@[simp] theorem proceed_settings (c : Coordinator td) :
    c.proceed.testsuite.settings = c.testsuite.settings := by
  unfold proceed
  split <;> rfl

/-- An answer leaves the settings. -/
@[simp] theorem answered_settings (c : Coordinator td) (i : Fin td.size) (k : Nat) (step : Step)
    (event : Event) : (c.answered i k step event).testsuite.settings = c.testsuite.settings := by
  unfold answered
  split <;> rfl

/-- Selecting a test case leaves the settings. -/
@[simp] theorem selectTestcase_settings (c : Coordinator td) (id : PyString.Attribute) :
    (c.selectTestcase id).testsuite.settings = c.testsuite.settings := by
  have reset := TestSuite.reinitTestcase_settings c.testsuite c.testsuite.getCurrentTestcaseId
  refine @selectTestcase_rule td (fun after => after.testsuite.settings = c.testsuite.settings) c
    id (fun i => reset) ?_
  rw [proceed_settings]
  exact reset

/-- Announcing that a test case is ready leaves the settings. -/
theorem announceReady_settings (c : Coordinator td) :
    (finalState c.announceReady).testsuite.settings = c.testsuite.settings := by
  unfold announceReady
  cases c.testsuite.currentTc <;> rfl

/-- Announcing the start leaves the settings. -/
theorem announceStarted_settings (c : Coordinator td) :
    (finalState c.announceStarted).testsuite.settings = c.testsuite.settings := by
  unfold announceStarted
  cases c.testsuite.currentTc <;> rfl

/-- Executing the next step keeps the settings. -/
theorem Advance.settings {services : Services} {i : Fin td.size}
    {result : EStateM.Result PyException (Coordinator td) Unit}
    (advance : Advance services c i result) :
    (finalState result).testsuite.settings = c.testsuite.settings := by
  cases advance with
  | execute _ _ _ _ => rfl
  | refuse _ _ _ => rfl
  | interrupt _ _ _ => rfl
  | complete _ _ _ =>
    rw [finalState_ok, proceed_settings]
    rfl

/-- The handling of a node records what its message says. -/
theorem recordNode_settings (c : Coordinator td) (event : Event) :
    (finalState (c.recordNode (some event))).testsuite.settings =
      match (Handler.nodeUpdate (some event)).toOption with
      | some (node, address) => c.testsuite.settings.record node address
      | none => c.testsuite.settings := by
  unfold recordNode
  cases Handler.nodeUpdate (some event) with
  | error exception => rfl
  | ok update =>
    obtain ⟨node, address⟩ := update
    have recorded : (c.withTestsuite (c.testsuite.updateNodeAddress node address)).testsuite.settings
        = c.testsuite.settings.record node address := rfl
    dsimp only [Except.toOption]
    split
    · split
      · exact (announceReady_settings _).trans recorded
      · split <;> exact recorded
    · exact recorded

/-- Leaving and entering a state again keeps the settings. -/
theorem reenter_settings (services : Services) (coherent : Coherent c) :
    (finalState (c.reenter services)).testsuite.settings = c.testsuite.settings := by
  unfold reenter
  cases state : c.state with
  | waitingForTestsuiteConfig =>
    dsimp only
    split <;> rfl
  | preparingNextStep =>
    cases coherent with
    | stuck i _ current _ exhausted =>
      exact (advance_cases current exhausted.toOngoing).settings
    | setup wrong _ _ | waiting wrong _ _ _ =>
      rcases wrong with wrong | wrong <;> cases state.symm.trans wrong
    | executing _ wrong _ _ _ | finished wrong _ _ _ _ => cases state.symm.trans wrong
  | waitingForStepExecuted =>
    dsimp only
    split <;> rfl
  | _ => rfl

/-- A configuration message records a node. -/
theorem next_settings_configuration (upper : String → String) {event : Event}
    {services : Services} (coherent : Coherent c)
    (kind : controlEventsTriggers event = some .iutConfigurationExecuted) :
    (next upper c (.event event services)).testsuite.settings =
      match c.recording (.event event services) with
      | some (node, address) => c.testsuite.settings.record node address
      | none => c.testsuite.settings := by
  have entered : (finalState (c.reenter services)).testsuite.settings = c.testsuite.settings :=
    reenter_settings services coherent
  rw [next, handle_configuration kind coherent.resting, finalState_andThen_ok, recording]
  cases left : c.reenter services with
  | error exception after =>
    rw [left] at entered
    simpa using entered
  | ok _ after =>
    rw [left, finalState_ok] at entered
    simp only [kind, raised_ok, and_self, ↓reduceIte, andThen_ok]
    rw [recordNode_settings, entered]

/-- A session configuration writes the session information and the selection. -/
theorem next_settings_session (upper : String → String) {sessionId : Option String}
    {users : Option (List String)} {configuration : Option SessionConfiguration}
    {services : Services} (coherent : Coherent c) :
    (next upper c
      (.event (.sessionConfiguration sessionId users configuration) services)).testsuite.settings =
      c.settingsAfter upper
        (.event (.sessionConfiguration sessionId users configuration) services) := by
  by_cases state : c.state = .waitingForTestsuiteConfig
  · have idle := coherent.idle (.inl state)
    rw [next, handle_sessionConfiguration state, finalState_andThen_ok]
    unfold configureTestsuite
    simp only [settingsAfter, requestedTcs]
    cases Handler.sessionTcList configuration with
    | error exception => rfl
    | ok requested =>
      simp only [Except.map, state, ↓reduceIte]
      obtain ⟨ts, configured, -⟩ := TestSuite.configureTestsuite_ok upper c.testsuite
        (if requested.isEmpty then (List.finRange td.size).map td.id else requested) sessionId
        users configuration idle
      have written := (TestSuite.configureTestsuite_selects configured).1
      simp only [configured]
      by_cases empty : td.size = 0
      · simpa [reenter, state, empty] using written
      · simpa [reenter, state, empty] using written
  · have refused : accepts c.state .configureTestsuite = false := by
      cases named : c.state with
      | waitingForTestsuiteConfig => exact absurd named state
      | _ => rfl
    rw [next_refused rfl refused]
    simp only [settingsAfter, state, ↓reduceIte]
    split <;> rfl

/-- The start of the suite applies the stored selection again. -/
theorem next_settings_start (upper : String → String) {services : Services}
    (coherent : Coherent c) :
    (next upper c (.event .testSuiteStart services)).testsuite.settings =
      c.settingsAfter upper (.event .testSuiteStart services) := by
  by_cases setup : c.Setup
  · obtain ⟨ts, reset, -⟩ := TestSuite.reinit_ok upper c.testsuite (coherent.idle setup)
    have written := (TestSuite.reinit_selects reset).1
    have restarted : c.settingsAfter upper (.event .testSuiteStart services) =
        c.testsuite.settings.restart upper := if_pos setup
    have accepted : c.state = .waitingForTestsuiteConfig ∨
        (c.state = .waitingForTestsuiteStart ∧ 0 < td.size) :=
      setup.imp_right fun state => ⟨state, coherent.started_nonempty state⟩
    rw [next, handle_testSuiteStart accepted, finalState_andThen_ok, restarted]
    unfold startTestsuite
    simp only [reset]
    by_cases empty : td.size = 0
    · rcases setup with state | state <;> simpa [reenter, state, empty] using written
    · rcases setup with state | state <;> simpa [reenter, state, empty] using written
  · have refused : accepts c.state .startTestsuite = false := by
      cases named : c.state with
      | waitingForTestsuiteConfig => exact absurd (.inl named) setup
      | waitingForTestsuiteStart => exact absurd (.inr named) setup
      | _ => rfl
    rw [next_refused rfl refused]
    exact (if_neg setup).symm

/-- The input may write the settings. -/
def Input.writes : Input → Bool
  | .event (.sessionConfiguration ..) _ => true
  | .event .testSuiteStart _ => true
  | .event message _ => controlEventsTriggers message == some .iutConfigurationExecuted
  | _ => false

/-- An input that does not write the settings leaves an empty suite as it is. -/
theorem next_empty (upper : String → String) (coherent : Coherent c) (empty : td.size = 0)
    (plain : input.writes = false) : next upper c input = c := by
  cases coherent with
  | setup early idle nonempty =>
    have state : c.state = .waitingForTestsuiteConfig :=
      early.resolve_right fun late => by
        have positive := nonempty late
        omega
    cases input with
    | timeout => simp [next, handle, state]
    | abortTestcase =>
      rw [next, handle_abort_refused (by rw [state]; rfl)]
      split <;> rfl
    | event event services =>
      cases event with
      | testCaseSkip id =>
        rw [next, handle_testCaseSkip_before state idle]
        rcases id with _ | _ | id
        · rfl
        · rfl
        · have unknown : td.find id = none :=
            TestDescriptions.find_eq_none.mpr fun i => absurd i.pos (by omega)
          simp only [skipBefore, unknown, finalState_error]
      | testCaseAbort => rfl
      | sessionConfiguration _ _ _ | testSuiteStart | configurationExecuted _ _
      | agentTunStarted _ => cases plain
      | testCaseStart _ | stepStimuliExecuted _ | stepVerifyExecuted _ _ | stepCheckExecuted _ _
      | testCaseSelect _ | testCaseRestart => exact next_refused rfl (by rw [state]; rfl)
  | waiting _ nonempty _ _ | finished _ _ nonempty _ _ => exact absurd nonempty (by omega)
  | executing i _ _ _ _ | stuck i _ _ _ _ => exact absurd i.pos (by omega)

/-- Other inputs keep the settings. -/
theorem Move.settings {result : EStateM.Result PyException (Coordinator td) Bool}
    (move : Move c input result) (nonempty : 0 < td.size) (plain : input.writes = false) :
    (finalState result).testsuite.settings = c.testsuite.settings := by
  have unrecorded {event : Event} {services : Services}
      (kind : controlEventsTriggers event = some .iutConfigurationExecuted) :
      (Input.event event services).writes ≠ false := by
    cases event <;> simp_all [Input.writes, controlEventsTriggers]
  cases move with
  | ignored => rfl
  | refused => rfl
  | empty empty _ _ _ _ => exact absurd empty (by omega)
  | configured _ _ _ | started _ _ _ => cases plain
  | recordedEarly _ _ kind | recordedWaiting _ kind | recordedExecuting _ _ _ _ _ kind
  | recordedFinished _ kind | retried _ _ _ kind _ => exact absurd plain (unrecorded kind)
  | skippedEarly _ _ => exact TestSuite.skip_settings _ _
  | timedOut _ =>
    rw [finalState_andThen_ok]
    exact announceReady_settings c
  | @executed _ _ i result _ _ advance =>
    rw [finalState_andThen_ok]
    refine @finalState_andThen _ (Coordinator td) _ _
      (fun after => after.testsuite.settings = c.testsuite.settings) _ _ advance.settings
      fun after kept => ?_
    exact (announceStarted_settings after).trans kept
  | answered _ _ _ _ _ _ _ _ advance =>
    rw [finalState_andThen_ok, advance.settings]
    exact answered_settings ..
  | restarted _ _ => rfl
  | selected _ => exact selectTestcase_settings _ _
  | skippedCurrent _ _ _ =>
    rw [skipCurrent, finalState_ok, proceed_settings]
    exact TestSuite.skip_settings _ _
  | skippedOther _ _ _ => exact TestSuite.skip_settings _ _
  | skippedInstead _ _ _ => exact TestSuite.skip_settings _ _
  | skippedExecuting _ _ _ _ _ _ _ => exact TestSuite.skip_settings _ _
  | aborted _ _ =>
    rw [finalState_ok, proceed_settings]
    rfl

/-- Recording a node keeps the session information, and so the identity of the session. -/
theorem recording_session (c : Coordinator td) (input : Input) :
    (match c.recording input with
      | some (node, address) => c.testsuite.settings.record node address
      | none => c.testsuite.settings).selection = c.testsuite.settings.selection ∧
    (match c.recording input with
      | some (node, address) => c.testsuite.settings.record node address
      | none => c.testsuite.settings).identity = c.testsuite.settings.identity := by
  cases c.recording input <;> exact ⟨rfl, rfl⟩

/-- Inputs that do not write the settings are specified to keep them. -/
theorem settingsAfter_plain (upper : String → String) (c : Coordinator td)
    (plain : input.writes = false) : c.settingsAfter upper input = c.testsuite.settings := by
  cases input with
  | timeout => rfl
  | abortTestcase => rfl
  | event event services =>
    cases event with
    | sessionConfiguration _ _ _ | testSuiteStart | configurationExecuted _ _
    | agentTunStarted _ => cases plain
    | _ => simp [settingsAfter, recording, controlEventsTriggers]

/-- **What an input does to the settings.** -/
theorem next_settings (upper : String → String) (coherent : Coherent c) (input : Input) :
    (next upper c input).testsuite.settings = c.settingsAfter upper input := by
  cases writes : input.writes with
  | true =>
    cases input with
    | timeout => cases writes
    | abortTestcase => cases writes
    | event event services =>
      cases event with
      | sessionConfiguration _ _ _ => exact next_settings_session upper coherent
      | testSuiteStart => exact next_settings_start upper coherent
      | configurationExecuted _ _ => exact next_settings_configuration upper coherent rfl
      | agentTunStarted _ => exact next_settings_configuration upper coherent rfl
      | _ => cases writes
  | false =>
    rw [settingsAfter_plain upper c writes]
    by_cases disorients : Disorients c input
    · obtain ⟨state, id, services, rfl, unknown⟩ := disorients
      rw [next_skip_unknown upper services unknown (by rw [state]; rfl)]
      cases c.testsuite.currentTc with
      | none => rfl
      | some i => exact TestSuite.skip_settings _ i
    · by_cases empty : td.size = 0
      · rw [next_empty upper coherent empty writes]
      · have move : Move c input (c.handle upper input) := handle_move coherent disorients
        exact move.settings (Nat.pos_of_ne_zero empty) writes

/-- **What is known about the nodes** changes by recording one only. -/
theorem next_nodes (upper : String → String) (coherent : Coherent c) (input : Input) :
    (next upper c input).testsuite.nodesConfigured =
        (c.recording input).elim c.testsuite.nodesConfigured
          (fun update => insert update.1 c.testsuite.nodesConfigured) ∧
      (next upper c input).testsuite.addressingTable =
        (c.recording input).elim c.testsuite.addressingTable
          (fun update => c.testsuite.addressingTable.insert update.1 update.2) := by
  have settings := next_settings upper coherent input
  have specified : (c.settingsAfter upper input).nodesConfigured =
        (c.recording input).elim c.testsuite.nodesConfigured
          (fun update => insert update.1 c.testsuite.nodesConfigured) ∧
      (c.settingsAfter upper input).addressingTable =
        (c.recording input).elim c.testsuite.addressingTable
          (fun update => c.testsuite.addressingTable.insert update.1 update.2) := by
    cases input with
    | timeout => exact ⟨rfl, rfl⟩
    | abortTestcase => exact ⟨rfl, rfl⟩
    | event event services =>
      cases event with
      | sessionConfiguration sessionId users configuration =>
        simp only [settingsAfter]
        split
        · split <;> exact ⟨rfl, rfl⟩
        · exact ⟨rfl, rfl⟩
      | testSuiteStart =>
        simp only [settingsAfter]
        split
        · exact Settings.restart_nodes upper c.testsuite.settings
        · exact ⟨rfl, rfl⟩
      | configurationExecuted node ipv6Address =>
        simp only [settingsAfter]
        cases c.recording (.event (.configurationExecuted node ipv6Address) services) <;>
          exact ⟨rfl, rfl⟩
      | agentTunStarted message =>
        simp only [settingsAfter]
        cases c.recording (.event (.agentTunStarted message) services) <;> exact ⟨rfl, rfl⟩
      | _ =>
        rw [settingsAfter_plain upper c rfl]
        exact ⟨rfl, rfl⟩
  rw [← settings] at specified
  exact specified

end Coordinator

end Ioppytest
