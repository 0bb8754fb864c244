import Ioppytest.TestCoordinator.Settings

/-!
# Configuration of the nodes

A test case waits until two nodes have been configured. The set of configured nodes belongs to the
session and is never emptied, so a later test case stops waiting after the message of a single
node if another one was configured before its configuration was requested.
-/

namespace Ioppytest

open Raising

variable {td : TestDescriptions}

namespace TestSuite

/-- The pending test case depends on which test cases are in state `None`. -/
theorem pending_congr {first second : TestSuite td}
    (same : ∀ j, (first.testcase j).state = none ↔ (second.testcase j).state = none) :
    first.pending = second.pending := by
  have blank : (fun i => (first.testcase i).state.isNone) =
      fun i => (second.testcase i).state.isNone := by
    funext i
    rw [Bool.eq_iff_iff, Option.isNone_iff_eq_none, Option.isNone_iff_eq_none]
    exact same i
  unfold pending
  rw [blank]

end TestSuite

namespace Coordinator

/-- The input begins something new for the test cases: it is neither a configuration message nor a
request for skipping another test case than the current one. -/
def turns (c : Coordinator td) : Input → Bool
  | .event (.testCaseSkip (some id)) _ => namesCurrent c.testsuite id
  | .event message _ => controlEventsTriggers message != some .iutConfigurationExecuted
  | .abortTestcase => true
  | .timeout => true

/-- The configuration of a test case is requested. -/
def requestsConfiguration (upper : String → String) (c : Coordinator td) (input : Input) : Bool :=
  handled (c.handle upper input) && c.turns input &&
    decide ((next upper c input).state = .waitingForIutConfigurationExecuted)

/-- The nodes whose configuration messages were recorded. -/
structure Heard where
  /-- In the session so far. -/
  session : Finset String
  /-- Since the configuration of a test case was last requested. -/
  request : Finset String
  deriving DecidableEq

/-- Note the node of a configuration message. One that brings the end of a test case about was
received before the request that follows. -/
def noteNodes (upper : String → String) (heard : Heard) (c : Coordinator td) (input : Input) :
    Heard :=
  match c.recording input with
  | some (node, _) =>
    ⟨insert node heard.session,
      if c.state = .preparingNextStep then {node} else insert node heard.request⟩
  | none => if c.requestsConfiguration upper input then { heard with request := ∅ } else heard

/-- A configuration message ends the wait for the configuration. -/
def AllConfigured (upper : String → String) (c : Coordinator td) (input : Input) : Prop :=
  (∃ event services, input = .event event services ∧
      controlEventsTriggers event = some .iutConfigurationExecuted) ∧
    c.state ≠ .waitingForTestcaseStart ∧ (next upper c input).state = .waitingForTestcaseStart

/-- A message of a node arrives where a test case waits for its configuration, or begins to, and
other nodes were heard of before the request only. -/
def Stale (heard : Heard) (c : Coordinator td) (input : Input) : Prop :=
  ∃ update ∈ c.recording input, (∃ other ∈ heard.session, other ≠ update.1) ∧
    (c.state = .waitingForIutConfigurationExecuted ∧ (∀ other ∈ heard.request, other = update.1) ∨
      c.state = .preparingNextStep ∧ c.testsuite.pending ≠ none)

/-- Whether an input is stale is decided by what was heard. -/
instance (heard : Heard) (c : Coordinator td) (input : Input) : Decidable (c.Stale heard input) :=
  inferInstanceAs (Decidable (∃ update ∈ c.recording input, _ ∧ _))

variable {upper : String → String} {testsuiteName : String} {c : Coordinator td} {input : Input}
  {heard : Heard}

/-- The configured nodes are those heard of in the session. -/
theorem heard_step (coherent : Coherent c) (known : c.testsuite.nodesConfigured = heard.session) :
    (next upper c input).testsuite.nodesConfigured = (noteNodes upper heard c input).session := by
  rw [(next_nodes upper coherent input).1, known]
  unfold noteNodes
  cases c.recording input with
  | none =>
    dsimp only [Option.elim]
    split <;> rfl
  | some update => rfl

/-- The state after a node was handled. -/
theorem recordNode_state (c : Coordinator td) (event : Option Event) :
    (finalState (c.recordNode event)).state =
      match (Handler.nodeUpdate event).toOption with
      | some (node, _) =>
        if c.state = .waitingForIutConfigurationExecuted ∧
            1 < (insert node c.testsuite.nodesConfigured).card then .waitingForTestcaseStart
        else c.state
      | none => c.state := by
  unfold recordNode
  cases Handler.nodeUpdate event with
  | error exception => rfl
  | ok update =>
    obtain ⟨node, address⟩ := update
    have counted : (c.withTestsuite
        (c.testsuite.updateNodeAddress node address)).testsuite.checkAllIutNodesConfigured =
        decide (1 < (insert node c.testsuite.nodesConfigured).card) := rfl
    simp only [Except.toOption, counted]
    by_cases enough : 1 < (insert node c.testsuite.nodesConfigured).card
    · by_cases state : c.state = .waitingForIutConfigurationExecuted
      · simp only [enough, state, decide_true, and_self, ↓reduceIte]
        unfold announceReady
        split <;> rfl
      · simp only [enough, state, decide_true, false_and, ↓reduceIte]
        split <;> rfl
    · simp only [enough, decide_false, and_false, Bool.false_eq_true, ↓reduceIte]
      rfl

/-- The end of a test case that is tried again leads on, if it does not raise. -/
theorem advance_state (services : Services) {i : Fin td.size}
    (state : c.state = .preparingNextStep) (current : c.testsuite.currentTc = some i)
    (exhausted : (c.testsuite.testcase i).Exhausted) :
    (finalState (c.advance services)).state =
      if raised (c.advance services) = none then
        if c.testsuite.pending = none then .testsuiteFinished
        else .waitingForIutConfigurationExecuted
      else c.state := by
  have advance : Advance services c i (c.advance services) :=
    advance_cases current exhausted.toOngoing
  generalize c.advance services = result at advance
  cases advance with
  | execute fetched _ _ _ =>
    rw [exhausted.nextStep] at fetched
    cases fetched
  | refuse _ _ _ => simpa [exhaust] using state.symm
  | interrupt _ _ _ => simpa [exhaust, modify] using state.symm
  | @complete tc report requests fetched _ _ =>
    rw [exhausted.nextStep] at fetched
    obtain rfl := (Prod.mk.inj fetched).2
    have same : ((c.exhaust i (c.testsuite.testcase i)).modify i
        (·.reported report)).testsuite.pending = c.testsuite.pending := by
      refine TestSuite.pending_congr fun j => ?_
      by_cases here : j = i
      · subst here
        have progress : (c.testsuite.testcase j).state ≠ none := by
          rcases exhausted.state with state | state <;> rw [state] <;> decide
        refine iff_of_false ?_ progress
        simp [exhaust, modify, TestCase.reported]
      · simp [exhaust, modify, here]
    simp only [raised_ok, ↓reduceIte, finalState_ok]
    unfold proceed
    simp only [send_testsuite, save_testsuite, same]
    cases c.testsuite.pending with
    | none => rfl
    | some next => rfl

/-- The state after a state was entered again. -/
theorem reenter_state (services : Services) (coherent : Coherent c) :
    (finalState (c.reenter services)).state =
      if c.state = .preparingNextStep ∧ raised (c.reenter services) = none then
        if c.testsuite.pending = none then .testsuiteFinished
        else .waitingForIutConfigurationExecuted
      else c.state := by
  by_cases state : c.state = .preparingNextStep
  · have entered : c.reenter services = c.advance services := by
      simp only [reenter, state]
    cases coherent with
    | stuck i _ current _ exhausted =>
      have advanced := advance_state services state current exhausted
      rw [entered]
      simpa only [state, true_and] using advanced
    | setup wrong _ _ | waiting wrong _ _ _ =>
      rcases wrong with wrong | wrong <;> cases state.symm.trans wrong
    | executing _ wrong _ _ _ | finished wrong _ _ _ _ => cases state.symm.trans wrong
  · rw [if_neg fun both => state both.1]
    by_cases nonempty : 0 < td.size
    · obtain ⟨left, entered, same, -, -⟩ := coherent.reenter services nonempty state
      rw [entered, finalState_ok, same]
    · cases coherent with
      | setup early _ later =>
        have waits := early.resolve_right fun late => nonempty (later late)
        simp [reenter, waits, Nat.eq_zero_of_not_pos nonempty]
      | waiting _ filled _ _ | finished _ _ filled _ _ => exact absurd filled nonempty
      | executing i _ _ _ _ | stuck i _ _ _ _ => exact absurd i.pos nonempty

/-- **When a configuration message ends the wait**: it is recorded, two nodes are known then, and
a test case waits for its configuration or begins to. -/
theorem allConfigured_iff (coherent : Coherent c) :
    c.AllConfigured upper input ↔ ∃ update ∈ c.recording input,
      1 < (insert update.1 c.testsuite.nodesConfigured).card ∧
      (c.state = .waitingForIutConfigurationExecuted ∨
        c.state = .preparingNextStep ∧ c.testsuite.pending ≠ none) := by
  by_cases kind : ∃ event services, input = .event event services ∧
      controlEventsTriggers event = some .iutConfigurationExecuted
  · obtain ⟨event, services, rfl, kind⟩ := kind
    have state := reenter_state services coherent
    have nodes := congrArg Settings.nodesConfigured (reenter_settings services coherent)
    have reduced : c.AllConfigured upper (.event event services) ↔
        c.state ≠ .waitingForTestcaseStart ∧
          (next upper c (.event event services)).state = .waitingForTestcaseStart :=
      ⟨fun done => done.2, fun moved => ⟨⟨event, services, rfl, kind⟩, moved⟩⟩
    rw [reduced, next, handle_configuration kind coherent.resting, finalState_andThen_ok, recording]
    cases entered : c.reenter services with
    | error exception left =>
      rw [entered] at state
      simp only [finalState_error, raised_error, reduceCtorEq, and_false, ↓reduceIte] at state
      simp [state]
    | ok _ left =>
      rw [entered] at state nodes
      have known : left.testsuite.nodesConfigured = c.testsuite.nodesConfigured := nodes
      simp only [finalState_ok, raised_ok, and_true] at state
      rw [andThen_ok, recordNode_state, known]
      have awaits : left.state = .waitingForIutConfigurationExecuted ↔
          c.state = .waitingForIutConfigurationExecuted ∨
            c.state = .preparingNextStep ∧ c.testsuite.pending ≠ none := by
        rw [state]
        by_cases stuck : c.state = .preparingNextStep
        · by_cases last : c.testsuite.pending = none <;> simp [stuck, last]
        · simp [stuck]
      have stays : c.state ≠ .waitingForTestcaseStart → left.state ≠ .waitingForTestcaseStart := by
        intro elsewhere
        rw [state]
        split
        · split <;> decide
        · exact elsewhere
      cases Handler.nodeUpdate (some event) with
      | error exception => simpa [Except.toOption] using stays
      | ok update =>
        obtain ⟨node, address⟩ := update
        simp only [Except.toOption, kind, raised_ok, and_self, ↓reduceIte]
        constructor
        · rintro ⟨elsewhere, moved⟩
          by_cases both : left.state = .waitingForIutConfigurationExecuted ∧
              1 < (insert node c.testsuite.nodesConfigured).card
          · exact ⟨(node, address), rfl, both.2, awaits.mp both.1⟩
          · rw [if_neg both] at moved
            exact absurd moved (stays elsewhere)
        · rintro ⟨_, same, enough, waits⟩
          obtain rfl := Option.some.inj same
          refine ⟨?_, if_pos ⟨awaits.mpr waits, enough⟩⟩
          rcases waits with state | ⟨state, -⟩ <;> rw [state] <;> decide
  · refine iff_of_false (fun done => kind done.1) ?_
    rintro ⟨update, found, -⟩
    obtain ⟨event, services, same, configures, -⟩ := recording_kind found
    exact kind ⟨event, services, same, configures⟩

/-- Two nodes are known exactly when another one is. -/
theorem one_lt_card_insert {node : String} {nodes : Finset String} :
    1 < (insert node nodes).card ↔ ∃ other ∈ nodes, other ≠ node := by
  constructor
  · intro enough
    obtain ⟨other, member, apart⟩ := Finset.exists_mem_ne enough node
    exact ⟨other, (Finset.mem_insert.mp member).resolve_left apart, apart⟩
  · rintro ⟨other, member, apart⟩
    exact Finset.one_lt_card.mpr ⟨other, Finset.mem_insert_of_mem member, node,
      Finset.mem_insert_self _ _, apart⟩

/-- In every run the configured nodes are those heard of in the session. -/
theorem heard_run {pair : Coordinator td × Heard}
    (reached : Runs.Observed (next upper) (fun c input => input.Known td ∨ Survives upper c input)
      (noteNodes upper) (initial upper td testsuiteName, ⟨∅, ∅⟩) pair) :
    pair.1.testsuite.nodesConfigured = pair.2.session := by
  induction reached with
  | init =>
    rw [initial_eq]
    rfl
  | step earlier tame ih =>
    exact heard_step (reached_coherent (fun _ _ tame => tame) earlier.unobserved) ih

/-- **A test case stops waiting for its configuration only after messages of two nodes that were
received since it was requested**, exactly unless a node from before the request is counted. -/
theorem configured_anew_iff (upper : String → String) (td : TestDescriptions)
    (testsuiteName : String) (pair : Coordinator td × Heard)
    (reached : Runs.Observed (next upper) (fun c input => input.Known td ∨ Survives upper c input)
      (noteNodes upper) (initial upper td testsuiteName, ⟨∅, ∅⟩) pair)
    (input : Input) :
    (pair.1.AllConfigured upper input → 1 < (noteNodes upper pair.2 pair.1 input).request.card) ↔
      ¬ pair.1.Stale pair.2 input := by
  have known := heard_run reached
  obtain ⟨c, heard⟩ := pair
  have coherent : Coherent c := reached_coherent (fun _ _ tame => tame) reached.unobserved
  rw [allConfigured_iff coherent, known, Stale, noteNodes]
  cases c.recording input with
  | none => simp
  | some update =>
    obtain ⟨node, address⟩ := update
    simp only [Option.mem_some_iff, exists_eq_left', one_lt_card_insert]
    by_cases waits : c.state = .waitingForIutConfigurationExecuted
    · simp [waits, one_lt_card_insert]
    · by_cases stuck : c.state = .preparingNextStep
      · simp [stuck]
      · simp [waits, stuck]

/-- A node of the small suite is configured. -/
def configures (node : String) : Input :=
  .event (.configurationExecuted (some node) (some (some "bbbb::1"))) noServices

/-- The small suite after some inputs, with the nodes that were heard of. -/
def hearing (inputs : List Input) : Coordinator smallSuite × Heard :=
  inputs.foldl (Runs.observed (next id) (noteNodes id)) (initial id smallSuite "coap", ⟨∅, ∅⟩)

/-- Inputs of the small suite that are survived. -/
theorem hearing_reached {inputs : List Input}
    (survived : Runs.AllAllowed (Runs.observed (next id) (noteNodes id))
      (fun pair => Survives id pair.1) (initial id smallSuite "coap", ⟨∅, ∅⟩) inputs) :
    Runs.Observed (next id) (fun c input => input.Known smallSuite ∨ Survives id c input)
      (noteNodes id) (initial id smallSuite "coap", ⟨∅, ∅⟩) (hearing inputs) :=
  survived.reachable.mono fun _ _ survives => .inr survives

/-- The first test case of the small suite waits for both nodes. -/
theorem configured_anew_small :
    1 < (noteNodes id (hearing [.event .testSuiteStart noServices, configures "coap_client"]).2
      (hearing [.event .testSuiteStart noServices, configures "coap_client"]).1
      (configures "coap_server")).request.card :=
  (configured_anew_iff id smallSuite "coap" _ (hearing_reached (by decide +kernel))
    (configures "coap_server")).mpr (by decide +kernel)
    ⟨⟨_, _, rfl, rfl⟩, by decide +kernel, by decide +kernel⟩

/-- The second one, selected once the first one is configured, waits for one node only. -/
theorem selected_waits_for_one : ∃ inputs,
    Runs.Observed (next id) (fun c input => input.Known smallSuite ∨ Survives id c input)
      (noteNodes id) (initial id smallSuite "coap", ⟨∅, ∅⟩) (hearing inputs) ∧
    (hearing inputs).1.AllConfigured id (configures "coap_client") ∧
    (noteNodes id (hearing inputs).2 (hearing inputs).1 (configures "coap_client")).request =
      {"coap_client"} :=
  ⟨[.event .testSuiteStart noServices, configures "coap_client", configures "coap_server",
      .event (.testCaseSelect (some (some "TD_COAP_CORE_02"))) noServices],
    hearing_reached (by decide +kernel), ⟨⟨_, _, rfl, rfl⟩, by decide +kernel, by decide +kernel⟩,
    by decide +kernel⟩

end Coordinator

end Ioppytest
