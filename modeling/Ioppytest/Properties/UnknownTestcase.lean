import Ioppytest.TestCoordinator.Sessions

/-!
# Requests that name no test case

The lookups behind a request for skipping fall back to the current test case when the id is
unknown, while the guard of the transition compares ids and sees another test case. So the current
test case is skipped in place of an unknown one. A request for selecting an unknown test case
reinitialises the current one before it is looked up, and prepares the first test case in state
`None`, whichever that is.
-/

namespace Ioppytest

open Raising

variable {td : TestDescriptions}

namespace Coordinator

variable {upper : String → String} {testsuiteName : String} {c : Coordinator td}

/-- The input is at most reported as an error: it is survived, and everything is as it was, the test
cases, the state of the machine and what has been published. -/
def Unaffected (upper : String → String) (c : Coordinator td) (input : Input) : Prop :=
  Survives upper c input ∧ next upper c input = c

/-- The machine has no transition for skipping a test case. -/
def SparesSkip (c : Coordinator td) : Prop := accepts c.state .skipTestcase = false

/-- The machine has no transition for selecting a test case, or it would prepare once more what is
being prepared already, without any node to be told. -/
def SparesSelect (c : Coordinator td) : Prop :=
  accepts c.state .selectTestcase = true → c.state = .waitingForIutConfigurationExecuted ∧
    ∃ i, c.testsuite.currentTc = some i ∧ (td.config i).nodesDescription = [] ∧
      ∀ j, j < i → (c.testsuite.testcase j).state ≠ none

/-- A state is looked up in the table. -/
instance (c : Coordinator td) : Decidable c.SparesSkip := inferInstanceAs (Decidable (_ = _))

/-- The test cases before another one are searched. -/
instance (c : Coordinator td) : Decidable c.SparesSelect :=
  inferInstanceAs (Decidable (_ = true → _ ∧ ∃ i, _ = some i ∧ _ = _ ∧ ∀ _, _))

/-- Without a transition an event is at most reported. -/
theorem unaffected_refused {event : Event} {services : Services} {name : TriggerName}
    (kind : controlEventsTriggers event = some name) (refused : accepts c.state name = false) :
    Unaffected upper c (.event event services) := by
  refine ⟨fun exception raises => ?_, next_refused kind refused⟩
  rw [handle_refused kind refused] at raises
  split at raises
  · cases raises
  · cases raises
    rfl

/-- An exception that `handle_control` does not catch ends the coordinator. -/
theorem affected_of_error {event : Event} {services : Services} {exception : PyException}
    {after : Coordinator td} (raises : c.handle upper (.event event services) = .error exception after)
    (uncaught : exception.caughtByHandleControl = false) :
    ¬ Unaffected upper c (.event event services) := by
  rintro ⟨survives, -⟩
  have caught := survives exception (by rw [raises]; rfl)
  rw [uncaught] at caught
  cases caught

/-- **A request for skipping an unknown test case is without effect exactly when there is no
transition for it.** Otherwise the current test case is skipped instead or, without one, the
exception is not caught. -/
theorem unaffected_skip_unknown {id : String} {services : Services} (coherent : Coherent c)
    (unknown : td.find id = none) :
    Unaffected upper c (.event (.testCaseSkip (some (some id))) services) ↔ c.SparesSkip := by
  constructor
  · contrapose
    intro accepted
    have accepts : accepts c.state .skipTestcase = true := by
      simpa [SparesSkip] using accepted
    by_cases early : c.state = .waitingForTestsuiteConfig
    · have raises : c.handle upper (.event (.testCaseSkip (some (some id))) services) =
          .error (skipError (some id)) c := by
        rw [handle_testCaseSkip_before early (coherent.idle (.inl early))]
        simp only [skipBefore, unknown]
      exact affected_of_error raises rfl
    · have going : ongoing c.state = true := by
        revert accepts early
        cases coherent with
        | setup state _ _ => rcases state with state | state <;> rw [state] <;> decide
        | waiting state _ _ _ => rcases state with state | state <;> rw [state] <;> decide
        | executing _ state _ _ _ | stuck _ state _ _ _ | finished state _ _ _ _ =>
          rw [state]
          decide
      cases current : c.testsuite.currentTc with
      | none =>
        have raises : c.handle upper (.event (.testCaseSkip (some (some id))) services) =
            .error (skipError (some id)) c := by
          rw [handle_testCaseSkip going]
          simp [skipTestcase, current, unknown]
        exact affected_of_error raises rfl
      | some i =>
        rintro ⟨-, same⟩
        have skipped := next_skip_unknown upper services unknown going
        rw [same, current] at skipped
        have left := congrArg (·.currentTc) skipped
        simp only [TestSuite.skip_currentTc _ _ fun _ => coherent.unskipped current, current,
          ↓reduceIte] at left
        cases left
  · exact unaffected_refused rfl

variable (upper) in
/-- While a session goes on, the current test case is reinitialised for an unknown one, and the
first test case in state `None` is prepared. -/
theorem next_select_unknown {id : String} (services : Services) (coherent : Coherent c)
    (unknown : td.find id = none) (accepted : ongoing c.state = true) :
    next upper c (.event (.testCaseSelect (some (some id))) services) =
      match c.testsuite.currentTc with
      | some i => (c.modify i (·.reinit)).proceed
      | none => c.proceed := by
  have absent (ts : TestSuite td) : Option.bind (some (some id)) ts.getTestcase = none := unknown
  rw [next, handle_testCaseSelect (coherent.nonempty accepted) accepted, finalState_ok]
  simp only [selectTestcase, absent]
  cases current : c.testsuite.currentTc with
  | none =>
    have same : c.testsuite.reinitTestcase c.testsuite.getCurrentTestcaseId = c.testsuite := by
      simp [TestSuite.reinitTestcase, TestSuite.getCurrentTestcaseId, TestSuite.getTestcase,
        current]
    rw [same]
    rfl
  | some i =>
    have reset : c.testsuite.reinitTestcase c.testsuite.getCurrentTestcaseId =
        c.testsuite.modify i (·.reinit) := by
      simp [TestSuite.reinitTestcase, TestSuite.getCurrentTestcaseId, TestSuite.getTestcase,
        current]
    rw [reset]
    rfl

/-- Preparing the test case that is prepared already changes nothing about it. -/
theorem reinit_configuring {tc : TestCase} (configuring : tc.Configuring) :
    tc.reinit.changeState .configuring = tc := by
  have steps : tc.sequence.map Step.reinit = tc.sequence := by
    have each : tc.sequence.map Step.reinit = tc.sequence.map id :=
      List.map_congr_left fun step member => (configuring.pristine step member).reinit_eq
    rw [each, List.map_id]
  obtain ⟨state, sequence, stepIt, currentStep, report⟩ := tc
  have start : state = some .configuring ∧ stepIt = 0 ∧ currentStep = none :=
    ⟨configuring.state, configuring.stepIt, configuring.currentStep⟩
  obtain ⟨rfl, rfl, rfl⟩ := start
  simp only [TestCase.reinit, steps]
  rfl

/-- Configuring a test case once more is without effect if no node is told. -/
theorem configure_configuring {i : Fin td.size} (current : c.testsuite.currentTc = some i)
    (configuring : (c.testsuite.testcase i).Configuring)
    (state : c.state = .waitingForIutConfigurationExecuted)
    (silent : (td.config i).nodesDescription = []) : (c.modify i (·.reinit)).configure i = c := by
  have messages (info : TestCaseInfo) :
      Handler.configurationExecuteMessages (td.config i) info = [] := by
    rw [Handler.configurationExecuteMessages, silent]
    rfl
  have turn : { c.testsuite.modify i (·.reinit) with currentTc := some i } =
      c.testsuite.modify i (·.reinit) := by
    rw [← current]
    rfl
  have kept : (c.testsuite.modify i (·.reinit)).modify i (·.changeState .configuring) =
      c.testsuite := by
    rw [TestSuite.modify_modify]
    simp [TestSuite.modify, reinit_configuring configuring]
  simp only [configure, modify, withTestsuite_testsuite, turn, kept, messages, send_nil, ← state]
  rfl

/-- Going on from the current test case that was reinitialised is without effect only if it is being
prepared without telling a node, and is the first one in state `None`. -/
theorem proceed_reinit_eq {i : Fin td.size} (accepted : ongoing c.state = true)
    (current : c.testsuite.currentTc = some i) (same : (c.modify i (·.reinit)).proceed = c) :
    c.state = .waitingForIutConfigurationExecuted ∧ (td.config i).nodesDescription = [] ∧
      ∀ j, j < i → (c.testsuite.testcase j).state ≠ none := by
  unfold proceed at same
  cases pending : (c.modify i (·.reinit)).testsuite.pending with
  | none =>
    rw [pending] at same
    have state : c.state = .testsuiteFinished := (congrArg (·.state) same).symm
    rw [state] at accepted
    cases accepted
  | some j =>
    rw [pending] at same
    have turn : c.testsuite.currentTc = some j := (congrArg (·.testsuite.currentTc) same).symm
    obtain rfl : i = j := Option.some.inj (current.symm.trans turn)
    have bus := congrArg (·.bus) same
    simp only [configure, modify, send_bus, withState_bus, withTestsuite_bus,
      List.append_right_eq_self, Handler.configurationExecuteMessages, List.map_eq_nil_iff] at bus
    refine ⟨(congrArg (·.state) same).symm, bus, fun j earlier => ?_⟩
    have apart : j ≠ i := ne_of_lt earlier
    simpa [modify, apart] using (TestSuite.pending_eq_some.mp pending).2 j earlier

/-- **A request for selecting an unknown test case is without effect exactly when there is no
transition for it**, or it prepares once more what is being prepared. -/
theorem unaffected_select_unknown {id : String} {services : Services} (coherent : Coherent c)
    (unknown : td.find id = none) :
    Unaffected upper c (.event (.testCaseSelect (some (some id))) services) ↔ c.SparesSelect := by
  rcases coherent.ongoing_or .selectTestcase (by intro state; cases state <;> decide) with
    accepted | refused
  · have accepts : accepts c.state .selectTestcase = true := by
      revert accepted
      cases c.state <;> decide
    have after := next_select_unknown upper services coherent unknown accepted
    have survives : Survives upper c (.event (.testCaseSelect (some (some id))) services) := by
      intro exception raises
      rw [handle_testCaseSelect (coherent.nonempty accepted) accepted] at raises
      cases raises
    simp only [Unaffected, SparesSelect, accepts, survives, forall_const, true_and, after]
    cases current : c.testsuite.currentTc with
    | none =>
      simp only [reduceCtorEq, false_and, exists_false, and_false, iff_false]
      -- Either a test case becomes the current one, or the session ends.
      intro same
      unfold proceed at same
      cases pending : c.testsuite.pending with
      | none =>
        rw [pending] at same
        have state : c.state = .testsuiteFinished := (congrArg (·.state) same).symm
        rw [state] at accepted
        cases accepted
      | some i =>
        rw [pending] at same
        have turn := congrArg (·.testsuite.currentTc) same
        rw [current] at turn
        cases turn
    | some i =>
      simp only [Option.some.injEq, exists_eq_left']
      constructor
      · exact proceed_reinit_eq accepted current
      · rintro ⟨state, silent, before⟩
        have pending : (c.modify i (·.reinit)).testsuite.pending = some i := by
          rw [TestSuite.pending_eq_some]
          refine ⟨by simp [modify], fun j earlier => ?_⟩
          have apart : j ≠ i := ne_of_lt earlier
          simpa [modify, apart] using before j earlier
        rw [proceed, pending]
        exact configure_configuring current (coherent.configuring (.inl state) current) state silent
  · refine iff_of_true (unaffected_refused rfl refused) fun accepted => ?_
    rw [refused] at accepted
    cases accepted

/-- **When a request that names no test case is at most reported as an error.** -/
theorem unknown_testcase_unaffected (upper : String → String) (td : TestDescriptions)
    (testsuiteName : String) (c : Coordinator td)
    (reached : Reached upper testsuiteName (Survives upper) c) (id : String)
    (unknown : td.find id = none) (services : Services) :
    (Unaffected upper c (.event (.testCaseSkip (some (some id))) services) ↔ c.SparesSkip) ∧
    (Unaffected upper c (.event (.testCaseSelect (some (some id))) services) ↔
      c.SparesSelect) := by
  have coherent := reached_coherent (fun _ _ survives => .inr survives) reached
  exact ⟨unaffected_skip_unknown coherent unknown, unaffected_select_unknown coherent unknown⟩

/-- The small suite once its session is configured. -/
def smallConfigured : Coordinator smallSuite :=
  afterwards [.event (.sessionConfiguration none none none) noServices]

/-- The configuration of the small suite is survived. -/
theorem smallConfigured_reached : Reached id "coap" (Survives id) smallConfigured :=
  afterwards_reached (by decide +kernel)

/-- In the small suite neither request is without effect while the first test case waits, and both are
once the suite is configured. -/
theorem unknown_testcase_unaffected_small :
    (¬ Unaffected id firstWaits
        (.event (.testCaseSkip (some (some "TD_COAP_CORE_99"))) noServices) ∧
      ¬ Unaffected id firstWaits
        (.event (.testCaseSelect (some (some "TD_COAP_CORE_99"))) noServices)) ∧
    Unaffected id smallConfigured
        (.event (.testCaseSkip (some (some "TD_COAP_CORE_99"))) noServices) ∧
      Unaffected id smallConfigured
        (.event (.testCaseSelect (some (some "TD_COAP_CORE_99"))) noServices) := by
  have waits := unknown_testcase_unaffected id smallSuite "coap" firstWaits firstWaits_reached
    "TD_COAP_CORE_99" (by decide +kernel) noServices
  have configured := unknown_testcase_unaffected id smallSuite "coap" smallConfigured
    smallConfigured_reached "TD_COAP_CORE_99" (by decide +kernel) noServices
  rw [waits.1, waits.2, configured.1, configured.2]
  decide +kernel

/-- A request for skipping an unknown test case skips the first one of the small suite, and one for
selecting it reinitialises it while its first step is executed. -/
theorem unknown_testcase_skipped :
    (Reached id "coap" (Survives id) firstWaits ∧
      smallSuite.find "TD_COAP_CORE_99" = none ∧
      ¬ Unaffected id firstWaits
        (.event (.testCaseSkip (some (some "TD_COAP_CORE_99"))) noServices)) ∧
    Reached id "coap" (Survives id) stimuliAwaited ∧
    ¬ Unaffected id stimuliAwaited
      (.event (.testCaseSelect (some (some "TD_COAP_CORE_99"))) noServices) := by
  refine ⟨⟨firstWaits_reached, by decide +kernel, ?_⟩, stimuliAwaited_reached, ?_⟩
  · rintro ⟨-, same⟩
    exact absurd (congrArg (·.testsuite.currentTc) same) (by decide +kernel)
  · rintro ⟨-, same⟩
    exact absurd (congrArg (fun c => (c.testsuite.testcase smallFirst).state) same)
      (by decide +kernel)

end Coordinator

end Ioppytest
