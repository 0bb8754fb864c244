import Ioppytest.Properties.Rest

/-!
# What an event can raise

`handle_control` catches the errors of the state machine and of the coordinator. Any other
exception ends the process. This module lists the events that raise one, state by state: a suite
without test cases, configuration messages without an address, requests for skipping that find no
test case, a start without a current test case, verifications that are answered with nothing, and
test cases whose end cannot be handled.
-/

namespace Ioppytest

open Raising

variable {td : TestDescriptions}

/-- The computation ends with an exception that `handle_control` does not catch. -/
def Uncaught {σ α : Type} (result : EStateM.Result PyException σ α) : Prop :=
  ∃ exception, raised result = some exception ∧ exception.caughtByHandleControl = false

section Uncaught

variable {σ α β : Type}

/-- A value is no uncaught exception. -/
@[simp] theorem uncaught_ok (value : α) (state : σ) :
    Uncaught (.ok value state : EStateM.Result PyException σ α) ↔ False := by
  simp [Uncaught]

/-- An exception is uncaught unless it is one of the two. -/
@[simp] theorem uncaught_error (exception : PyException) (state : σ) :
    Uncaught (.error exception state : EStateM.Result PyException σ α) ↔
      exception.caughtByHandleControl = false := by
  simp [Uncaught]

/-- Returning a value raises nothing more. -/
@[simp] theorem uncaught_andThen_ok (result : EStateM.Result PyException σ α) (value : β) :
    Uncaught (andThen result (.ok value)) ↔ Uncaught result := by
  simp [Uncaught]

/-- A sequence ends with an uncaught exception if one of its parts does. -/
theorem uncaught_andThen {result : EStateM.Result PyException σ α}
    {rest : σ → EStateM.Result PyException σ β} :
    Uncaught (andThen result rest) ↔
      Uncaught result ∨ ∃ value state, result = .ok value state ∧ Uncaught (rest state) := by
  unfold Uncaught
  constructor
  · rintro ⟨exception, raises, uncaught⟩
    rcases raised_andThen_eq_some.mp raises with first | ⟨value, state, returned, second⟩
    · exact .inl ⟨exception, first, uncaught⟩
    · exact .inr ⟨value, state, returned, exception, second, uncaught⟩
  · rintro (⟨exception, first, uncaught⟩ | ⟨value, state, returned, exception, second, uncaught⟩)
    · exact ⟨exception, raised_andThen first, uncaught⟩
    · exact ⟨exception, raised_andThen_eq_some.mpr (.inr ⟨value, state, returned, second⟩),
        uncaught⟩

end Uncaught

namespace Handler

/-- One of two address fields is `None` or empty; the second is not read if the first is. -/
def Blank (first second : PyString.Attribute) : Prop :=
  ∃ value, first = some value ∧
    (PyString.truthy value = none ∨ second.map PyString.truthy = some none)

/-- A configuration message from which no address can be read, though no field is malformed. -/
def Unaddressed : Event → Prop
  | .configurationExecuted _ ipv6Address => ipv6Address.bind PyString.truthy = none
  | .agentTunStarted message => Blank message.reRoutePacketsPrefix message.reRoutePacketsHost ∧
      Blank message.ipv6Prefix message.ipv6Host ∧ Blank message.ipv4Network message.ipv4Host
  | _ => False

/-- Two fields give no address exactly if they are blank. -/
theorem bothTruthy_none {first second : PyString.Attribute} :
    bothTruthy first second = .ok none ↔ Blank first second := by
  cases first with
  | none => simp [bothTruthy, Blank, bind, Except.bind]
  | some first =>
    cases read : PyString.truthy first with
    | none => simp [bothTruthy, Blank, read, bind, Except.bind]
    | some value =>
      cases second with
      | none => simp [bothTruthy, Blank, read, bind, Except.bind]
      | some second =>
        cases other : PyString.truthy second <;>
          simp [bothTruthy, Blank, read, other, bind, Except.bind, pure, Except.pure]

/-- Two address fields that are not blank give an address, or one of them is missing. -/
theorem tunAddress_none {message : AgentTunStarted} :
    tunAddress message = .ok none ↔ Unaddressed (.agentTunStarted message) := by
  simp only [tunAddress, Unaddressed, ← bothTruthy_none]
  cases bothTruthy message.reRoutePacketsPrefix message.reRoutePacketsHost with
  | error exception => simp [bind, Except.bind]
  | ok address =>
    cases address with
    | some address => simp [bind, Except.bind, pure, Except.pure]
    | none =>
      cases bothTruthy message.ipv6Prefix message.ipv6Host with
      | error exception => simp [bind, Except.bind]
      | ok address =>
        cases address with
        | some address => simp [bind, Except.bind, pure, Except.pure]
        | none => simp [bind, Except.bind]

/-- Past the address, a configuration message is only refused with an error that is caught. -/
theorem nodeUpdate_error {event : Event} {exception : PyException}
    (uncaught : exception.caughtByHandleControl = false) :
    nodeUpdate (some event) = .error exception ↔
      agentAndAddress (some event) = .error exception := by
  unfold nodeUpdate
  cases agentAndAddress (some event) with
  | error earlier => simp [bind, Except.bind]
  | ok read =>
    obtain ⟨name, address⟩ := read
    have refused (message : String) : PyException.coordinatorError message ≠ exception := by
      rintro rfl
      cases uncaught
    simp only [bind, Except.bind, reduceCtorEq, iff_false]
    split
    · split
      · exact fun wrong => by cases wrong
      · exact fun same => refused _ (Except.error.inj same)
    · exact fun same => refused _ (Except.error.inj same)

/-- The paths of URLs can be read unless one of them has unmatched brackets. -/
theorem sessionTcList_cases (configuration : Option SessionConfiguration) :
    (∃ requested, sessionTcList configuration = .ok requested ∧
      ∀ urls, configuration.bind (·.testcases) = some urls →
        ∀ url ∈ urls, PyString.urlPath url ≠ none) ∨
    (sessionTcList configuration = .error .valueError ∧
      ∃ urls, configuration.bind (·.testcases) = some urls ∧
        ∃ url ∈ urls, PyString.urlPath url = none) := by
  unfold sessionTcList
  cases configuration.bind (·.testcases) with
  | none => exact .inl ⟨[], rfl, fun _ absent => by cases absent⟩
  | some urls =>
    simp only [Option.some.injEq, forall_eq', exists_eq_left']
    induction urls with
    | nil => exact .inl ⟨[], rfl, by simp⟩
    | cons url rest ih =>
      rw [List.mapM_cons]
      cases parsed : PyString.urlPath url with
      | none =>
        exact .inr ⟨by simp [bind, Except.bind], url, List.mem_cons_self, parsed⟩
      | some path =>
        rcases ih with ⟨requested, read, legible⟩ | ⟨raised, other, member, garbled⟩
        · refine .inl ⟨PyString.lstrip path "/tests/" :: requested, ?_, ?_⟩
          · simp only [bind, Except.bind, read]
            rfl
          · intro other member
            rcases List.mem_cons.mp member with rfl | inside
            · rw [parsed]
              exact Option.some_ne_none path
            · exact legible other inside
        · refine .inr ⟨?_, other, List.mem_cons_of_mem _ member, garbled⟩
          simp only [bind, Except.bind, raised]

/-- Reading the node of a configuration message fails with an uncaught exception exactly when no
address can be read. -/
theorem nodeUpdate_uncaught {event : Event}
    (kind : Coordinator.controlEventsTriggers event = some .iutConfigurationExecuted) :
    (∃ exception, nodeUpdate (some event) = .error exception ∧
      exception.caughtByHandleControl = false) ↔ Unaddressed event := by
  have early : (∃ exception, nodeUpdate (some event) = .error exception ∧
      exception.caughtByHandleControl = false) ↔
        ∃ exception, agentAndAddress (some event) = .error exception ∧
          exception.caughtByHandleControl = false :=
    exists_congr fun exception => and_congr_left fun uncaught => nodeUpdate_error uncaught
  rw [early]
  cases event with
  | configurationExecuted node ipv6Address =>
    cases ipv6Address with
    | none => simp [agentAndAddress, Unaddressed, PyException.caughtByHandleControl]
    | some address =>
      cases read : PyString.truthy address <;>
        simp [agentAndAddress, Unaddressed, read, PyException.caughtByHandleControl]
  | agentTunStarted message =>
    rw [← tunAddress_none]
    cases read : tunAddress message with
    | error exception => simp [agentAndAddress, read, PyException.caughtByHandleControl]
    | ok address =>
      cases address <;> simp [agentAndAddress, read, PyException.caughtByHandleControl]
  | _ => cases kind

end Handler

namespace Coordinator

variable {upper : String → String} {testsuiteName : String} {c : Coordinator td}
  {services : Services}

/-- The end of a test case without a step left raises: it has no steps at all, or the services
answer with something that cannot be read. -/
def EndRaises (services : Services) (tc : TestCase) : Prop :=
  ¬ tc.Open ∧ (tc.sequence = [] ∨ services.Unreadable)

/-- Recording a node cannot be finished. -/
def NodeRaises (c : Coordinator td) (event : Event) : Prop :=
  Handler.Unaddressed event ∨ (c.state = .waitingForIutConfigurationExecuted ∧
    c.testsuite.currentTc = none ∧ ∃ node address,
      Handler.nodeUpdate (some event) = .ok (node, address) ∧
        1 < (insert node c.testsuite.nodesConfigured).card)

/-- Recording a node raises an uncaught exception exactly when it cannot be finished. -/
theorem recordNode_uncaught {event : Event}
    (kind : controlEventsTriggers event = some .iutConfigurationExecuted) :
    Uncaught (c.recordNode (some event)) ↔ c.NodeRaises event := by
  unfold NodeRaises
  rw [← Handler.nodeUpdate_uncaught kind]
  unfold recordNode
  cases update : Handler.nodeUpdate (some event) with
  | error exception => simp
  | ok read =>
    obtain ⟨node, address⟩ := read
    by_cases complete : 1 < (insert node c.testsuite.nodesConfigured).card
    · have past : (c.testsuite.updateNodeAddress node address).checkAllIutNodesConfigured =
          true := decide_eq_true complete
      simp only [withTestsuite_testsuite, past, ↓reduceIte]
      by_cases waits : c.state = .waitingForIutConfigurationExecuted
      · cases current : c.testsuite.currentTc with
        | none =>
          have idle : (c.testsuite.updateNodeAddress node address).currentTc = none := current
          simp [waits, announceReady, idle, complete, PyException.caughtByHandleControl]
        | some i =>
          have busy : (c.testsuite.updateNodeAddress node address).currentTc = some i := current
          simp [waits, announceReady, busy]
      · by_cases lenient : c.state = .waitingForTestcaseStart
        · simp [lenient]
        · simp [waits, lenient, PyException.caughtByHandleControl]
    · have pending : (c.testsuite.updateNodeAddress node address).checkAllIutNodesConfigured =
          false := decide_eq_false complete
      simp [pending, complete]

/-- How the end of the current test case goes: it is refused, it raises, or the session goes on with
the next test case. -/
theorem Advance.ended {i : Fin td.size} {after : TestCase}
    {result : EStateM.Result PyException (Coordinator td) Unit}
    (advance : Advance services c i result) (ongoing : (c.testsuite.testcase i).Ongoing)
    (fetched : (c.testsuite.testcase i).nextStep = (none, after)) :
    ((c.testsuite.testcase i).Open ∧
      ∃ message state, result = .error (.coordinatorError message) state) ∨
    (EndRaises services (c.testsuite.testcase i) ∧
      ∃ exception state, result = .error exception state ∧
        exception.caughtByHandleControl = false) ∨
    (¬ (c.testsuite.testcase i).Open ∧ ¬ EndRaises services (c.testsuite.testcase i) ∧
      ∃ finished : Coordinator td, result = .ok () finished.proceed ∧
        ∀ j, (finished.testsuite.testcase j).state =
          if j = i then some .finished else (c.testsuite.testcase j).state) := by
  have same_open : (after.changeState .readyForAnalysis).Open ↔ (c.testsuite.testcase i).Open :=
    exhaust_open ongoing fetched
  have same_raises : EndRaises services (after.changeState .readyForAnalysis) ↔
      EndRaises services (c.testsuite.testcase i) := by
    obtain ⟨-, currentStep, stepIt, rfl, -⟩ := ongoing.nextStep_none fetched
    exact Iff.rfl
  rw [← same_open, ← same_raises]
  cases advance with
  | execute wrong _ _ _ => cases fetched.symm.trans wrong
  | refuse here exhausted outcome =>
    cases fetched.symm.trans here
    have ending := finishOutcome_ending services (td.id i) (c.analyzeRequest i) exhausted
    rw [outcome] at ending
    cases ending with
    | pending blocked => exact .inl ⟨blocked, _, _, rfl⟩
    | empty nothing =>
      refine .inr (.inl ⟨⟨?_, .inl nothing⟩, _, _, rfl, rfl⟩)
      rintro ⟨step, member, -⟩
      rw [nothing] at member
      cases member
  | interrupt here exhausted outcome =>
    cases fetched.symm.trans here
    have ending := finishOutcome_ending services (td.id i) (c.analyzeRequest i) exhausted
    rw [outcome] at ending
    cases ending with
    | unreadable complete _ unreadable uncaught =>
      exact .inr (.inl ⟨⟨not_open_of_complete complete, .inr unreadable⟩, _, _, rfl, uncaught⟩)
  | complete here exhausted outcome =>
    cases fetched.symm.trans here
    have ending := finishOutcome_ending services (td.id i) (c.analyzeRequest i) exhausted
    rw [outcome] at ending
    cases ending with
    | completed complete nonempty readable =>
      refine .inr (.inr ⟨not_open_of_complete complete, ?_, _, rfl, fun j => ?_⟩)
      · rintro ⟨-, wrong | wrong⟩
        · exact nonempty wrong
        · exact readable wrong
      · by_cases same : j = i
        · subst same
          simp [modify, TestCase.reported]
        · simp [exhaust, modify, same]

/-- Executing the next step raises an uncaught exception exactly when no step is left and the end of
the test case raises. -/
theorem Advance.uncaught_iff {i : Fin td.size}
    {result : EStateM.Result PyException (Coordinator td) Unit}
    (advance : Advance services c i result) (ongoing : (c.testsuite.testcase i).Ongoing) :
    Uncaught result ↔ (∃ after, (c.testsuite.testcase i).nextStep = (none, after)) ∧
      EndRaises services (c.testsuite.testcase i) := by
  cases fetched : (c.testsuite.testcase i).nextStep with
  | mk step after =>
    cases step with
    | some k =>
      cases advance with
      | execute _ _ _ _ => simp
      | refuse wrong _ _ | interrupt wrong _ _ | complete wrong _ _ =>
        cases fetched.symm.trans wrong
    | none =>
      rcases advance.ended ongoing fetched with ⟨blocked, message, state, rfl⟩ |
        ⟨raises, exception, state, rfl, uncaught⟩ | ⟨-, returns, finished, rfl, -⟩
      · have closed : ¬ EndRaises services (c.testsuite.testcase i) := fun raises =>
          raises.1 blocked
        simp [closed, PyException.caughtByHandleControl]
      · simp [raises, uncaught]
      · simp [returns]

/-- Whether handling an event ends the process. -/
def Fatal (c : Coordinator td) (services : Services) : Event → Prop
  | .sessionConfiguration _ _ configuration => c.state = .waitingForTestsuiteConfig ∧
      (td.size = 0 ∨ ∃ urls, configuration.bind (·.testcases) = some urls ∧
        ∃ url ∈ urls, PyString.urlPath url = none)
  | .testSuiteStart => c.state = .waitingForTestsuiteConfig ∧ td.size = 0
  | .testCaseStart _ => c.Waiting ∧ ∀ i, c.testsuite.currentTc = some i →
      (∀ step ∈ (c.testsuite.testcase i).sequence, step.type.isExecutable = false) ∧
        (EndRaises services (c.testsuite.testcase i) ∨
          ∀ j, j ≠ i → (c.testsuite.testcase j).state ≠ none)
  | .testCaseSkip id =>
    (id = none ∧ (ongoing c.state = true ∨ c.state = .waitingForTestsuiteConfig)) ∨
      ∃ name, id = some (some name) ∧ td.find name = none ∧
        (c.state = .waitingForTestsuiteConfig ∨ c.state = .waitingForStepExecuted ∨
          (c.Waiting ∧ c.testsuite.currentTc = none))
  | .testCaseSelect _ => False
  | .testCaseRestart => False
  | .testCaseAbort => False
  | event =>
    if controlEventsTriggers event = some .iutConfigurationExecuted then
      if c.state = .preparingNextStep then
        ∃ i, c.testsuite.currentTc = some i ∧ ¬ (c.testsuite.testcase i).Open ∧
          (EndRaises services (c.testsuite.testcase i) ∨ Handler.Unaddressed event)
      else td.size = 0 ∨ c.NodeRaises event
    else malformed event = false ∧ ∃ i k step, c.Awaits i k ∧
      (c.testsuite.testcase i).sequence[k]? = some step ∧ stepKind event = some step.type ∧
      (blank step.type event = true ∨
        (∀ j later, (c.testsuite.testcase i).sequence[j]? = some later → k < j →
          later.type.isExecutable = false) ∧
        (∀ j earlier, (c.testsuite.testcase i).sequence[j]? = some earlier → j < k →
          earlier.state ≠ some .executing) ∧ services.Unreadable)

/-- An event that has no transition is ignored, or raises an exception that is caught. -/
theorem refused_caught {event : Event} {name : TriggerName}
    (kind : controlEventsTriggers event = some name) (refused : accepts c.state name = false) :
    ¬ Uncaught (c.handle upper (.event event services)) := by
  rw [handle_refused kind refused]
  split
  · simp
  · simp [PyException.caughtByHandleControl]

/-- What a session configuration raises. -/
theorem sessionConfiguration_uncaught {sessionId : Option String} {users : Option (List String)}
    {configuration : Option SessionConfiguration} (coherent : Coherent c) :
    Uncaught (c.handle upper (.event (.sessionConfiguration sessionId users configuration)
      services)) ↔ c.Fatal services (.sessionConfiguration sessionId users configuration) := by
  unfold Fatal
  by_cases state : c.state = .waitingForTestsuiteConfig
  · have idle : c.testsuite.currentTc = none := by
      cases coherent with
      | setup _ idle _ => exact idle
      | waiting waits _ _ _ => rcases waits with wrong | wrong <;> cases state.symm.trans wrong
      | executing _ wrong _ _ _ | stuck _ wrong _ _ _ | finished wrong _ _ _ _ =>
        cases state.symm.trans wrong
    rw [handle_sessionConfiguration state, uncaught_andThen_ok]
    unfold configureTestsuite
    rcases Handler.sessionTcList_cases configuration with
      ⟨requested, read, legible⟩ | ⟨raised, garbled⟩
    · obtain ⟨ts, configured, -⟩ := TestSuite.configureTestsuite_ok upper c.testsuite
        (if requested.isEmpty then (List.finRange td.size).map td.id else requested) sessionId
        users configuration idle
      simp only [read, configured, reenter, withTestsuite_state, state]
      by_cases empty : td.size = 0
      · simp [empty, PyException.caughtByHandleControl]
      · simp only [empty, ↓reduceIte, andThen_ok, uncaught_ok, true_and, false_or, false_iff]
        rintro ⟨urls, given, url, member, garbled⟩
        exact legible urls given url member garbled
    · simp only [raised, uncaught_error, state, true_and, PyException.caughtByHandleControl]
      exact iff_of_true trivial (.inr garbled)
  · have closed : accepts c.state .configureTestsuite = false := by
      revert state
      cases c.state <;> decide
    exact iff_of_false (refused_caught rfl closed) fun wrong => state wrong.1

/-- What the start of the suite raises. -/
theorem testSuiteStart_uncaught (coherent : Coherent c) :
    Uncaught (c.handle upper (.event .testSuiteStart services)) ↔
      c.Fatal services .testSuiteStart := by
  unfold Fatal
  cases coherent with
  | setup early idle nonempty =>
    rw [handle_testSuiteStart (early.imp_right fun state => ⟨state, nonempty state⟩),
      uncaught_andThen_ok]
    obtain ⟨ts, reset, -⟩ := TestSuite.reinit_ok upper c.testsuite idle
    rcases early with state | state
    · by_cases empty : td.size = 0
      · simp [startTestsuite, reset, reenter, state, empty, PyException.caughtByHandleControl]
      · simp [startTestsuite, reset, reenter, state, empty]
    · simp [startTestsuite, reset, reenter, state]
  | waiting early _ _ _ =>
    have closed : accepts c.state .startTestsuite = false := by
      rcases early with state | state <;> rw [state] <;> rfl
    refine iff_of_false (refused_caught rfl closed) fun wrong => ?_
    rcases early with state | state <;> cases state.symm.trans wrong.1
  | executing _ state _ _ _ | stuck _ state _ _ _ | finished state _ _ _ _ =>
    have closed : accepts c.state .startTestsuite = false := by
      rw [state]
      rfl
    exact iff_of_false (refused_caught rfl closed) fun wrong => by cases state.symm.trans wrong.1

/-- Recording a node depends on little of a coordinator. -/
theorem nodeRaises_congr {left : Coordinator td} {event : Event} (state : left.state = c.state)
    (current : left.testsuite.currentTc = c.testsuite.currentTc)
    (nodes : left.testsuite.nodesConfigured = c.testsuite.nodesConfigured) :
    left.NodeRaises event ↔ c.NodeRaises event := by
  unfold NodeRaises
  rw [state, current, nodes]

/-- Going on with the next test case leaves a test case to be announced. -/
theorem proceed_nodeRaises {event : Event} :
    c.proceed.NodeRaises event ↔ Handler.Unaddressed event := by
  unfold NodeRaises proceed
  cases c.testsuite.pending with
  | none => simp [conclude]
  | some i => simp [configure]

/-- A configuration message is handled by the state it is received in. -/
theorem handle_configuration_uncaught {event : Event} (coherent : Coherent c)
    (kind : controlEventsTriggers event = some .iutConfigurationExecuted) :
    Uncaught (c.handle upper (.event event services)) ↔
      Uncaught (andThen (c.reenter services) (recordNode (some event))) := by
  rw [handle_configuration kind coherent.resting, uncaught_andThen_ok]

/-- A configuration message that arrives where no test case is at its end. -/
theorem configuration_uncaught {event : Event} (coherent : Coherent c)
    (kind : controlEventsTriggers event = some .iutConfigurationExecuted)
    (elsewhere : c.state ≠ .preparingNextStep) :
    Uncaught (c.handle upper (.event event services)) ↔ td.size = 0 ∨ c.NodeRaises event := by
  rw [handle_configuration_uncaught coherent kind]
  by_cases empty : td.size = 0
  · -- Without test cases the coordinator waits for its configuration.
    cases coherent with
    | setup early _ nonempty =>
      have state : c.state = .waitingForTestsuiteConfig :=
        early.resolve_right fun state => absurd (nonempty state) (by omega)
      simp [reenter, state, empty, PyException.caughtByHandleControl]
    | waiting _ nonempty _ _ | finished _ _ nonempty _ _ => omega
    | executing i _ _ _ _ | stuck i _ _ _ _ => exact absurd i.pos (by omega)
  · obtain ⟨left, reentered, state, current, nodes⟩ :=
      coherent.reenter services (Nat.pos_of_ne_zero empty) elsewhere
    rw [reentered, andThen_ok, recordNode_uncaught kind, nodeRaises_congr state current nodes]
    simp [empty]

/-- A configuration message that arrives at the end of a test case tries that end again. -/
theorem configuration_uncaught_stuck {event : Event} {i : Fin td.size} (coherent : Coherent c)
    (kind : controlEventsTriggers event = some .iutConfigurationExecuted)
    (state : c.state = .preparingNextStep) (current : c.testsuite.currentTc = some i)
    (exhausted : (c.testsuite.testcase i).Exhausted) :
    Uncaught (c.handle upper (.event event services)) ↔
      ¬ (c.testsuite.testcase i).Open ∧
        (EndRaises services (c.testsuite.testcase i) ∨ Handler.Unaddressed event) := by
  have reentered : c.reenter services = c.advance services := by
    simp only [reenter, state]
  rw [handle_configuration_uncaught coherent kind, reentered, uncaught_andThen]
  have advance : Advance services c i (c.advance services) :=
    advance_cases current exhausted.toOngoing
  generalize c.advance services = result at advance
  rcases advance.ended exhausted.toOngoing exhausted.nextStep with ⟨blocked, message, left, rfl⟩ |
    ⟨raises, exception, left, rfl, uncaught⟩ | ⟨closed, returns, finished, rfl, -⟩
  · simp [blocked, PyException.caughtByHandleControl]
  · simp [raises, raises.1, uncaught]
  · have recorded := (recordNode_uncaught (c := finished.proceed) kind).trans proceed_nodeRaises
    simp [closed, returns, recorded]

/-- The announcement of a start needs a current test case. -/
theorem announceStarted_uncaught : Uncaught c.announceStarted ↔ c.testsuite.currentTc = none := by
  unfold announceStarted
  cases c.testsuite.currentTc with
  | none => simp [PyException.caughtByHandleControl]
  | some i => simp

/-- Going on with the next test case finds none when all are over. -/
theorem proceed_idle :
    c.proceed.testsuite.currentTc = none ↔ ∀ j, (c.testsuite.testcase j).state ≠ none := by
  unfold proceed
  cases pending : c.testsuite.pending with
  | none => exact iff_of_true rfl (TestSuite.pending_eq_none.mp pending)
  | some i =>
    have blank := (TestSuite.pending_eq_some.mp pending).1
    exact iff_of_false (by simp [configure]) fun past => past i blank

/-- How the first step of a test case goes that is started: it is executed, or the test case ends at
once, which raises or goes on with the next one. -/
theorem executed_cases {i : Fin td.size}
    {result : EStateM.Result PyException (Coordinator td) Unit}
    (configuring : (c.testsuite.testcase i).Configuring)
    (advance : Advance services ((c.modify i (·.changeState .executing)).send (sniffingMessages i))
      i result) :
    ((∃ step ∈ (c.testsuite.testcase i).sequence, step.type.isExecutable = true) ∧
      ∃ after : Coordinator td, result = .ok () after ∧
        after.testsuite.currentTc = c.testsuite.currentTc) ∨
    ((∀ step ∈ (c.testsuite.testcase i).sequence, step.type.isExecutable = false) ∧
      EndRaises services (c.testsuite.testcase i) ∧ ∃ exception state,
        result = .error exception state ∧ exception.caughtByHandleControl = false) ∨
    ((∀ step ∈ (c.testsuite.testcase i).sequence, step.type.isExecutable = false) ∧
      ¬ EndRaises services (c.testsuite.testcase i) ∧ ∃ finished : Coordinator td,
        result = .ok () finished.proceed ∧ ∀ j, (finished.testsuite.testcase j).state =
          if j = i then some .finished else (c.testsuite.testcase j).state) := by
  let begun := (c.modify i (·.changeState .executing)).send (sniffingMessages i)
  have here : begun.testsuite.testcase i = (c.testsuite.testcase i).changeState .executing := by
    simp [begun, modify]
  have ongoing : (begun.testsuite.testcase i).Ongoing := by
    rw [here]
    exact configuring.start
  have closed : ¬ (begun.testsuite.testcase i).Open := by
    rw [here]
    rintro ⟨step, member, state⟩
    exact TestCase.pristine_idle (configuring.pristine step member) state
  have same_raises : EndRaises services (begun.testsuite.testcase i) ↔
      EndRaises services (c.testsuite.testcase i) := by
    rw [here]
    exact Iff.rfl
  have spent := configuring.ends_iff
  rw [← here] at spent
  cases fetched : (begun.testsuite.testcase i).nextStep with
  | mk step after =>
    cases step with
    | some k =>
      refine .inl ⟨?_, ?_⟩
      · by_contra none
        have blocked : ∀ step ∈ (c.testsuite.testcase i).sequence,
            step.type.isExecutable = false := fun step member =>
          Bool.eq_false_iff.mpr fun executable => none ⟨step, member, executable⟩
        obtain ⟨_, past⟩ := spent.mpr blocked
        cases fetched.symm.trans past
      · cases advance with
        | execute _ _ _ _ => exact ⟨_, rfl, rfl⟩
        | refuse wrong _ _ | interrupt wrong _ _ | complete wrong _ _ =>
          cases fetched.symm.trans wrong
    | none =>
      have blocked := spent.mp ⟨after, fetched⟩
      rcases advance.ended ongoing fetched with ⟨wrong, -⟩ | ⟨raises, uncaught⟩ |
        ⟨-, returns, finished, goes_on, states⟩
      · exact absurd wrong closed
      · exact .inr (.inl ⟨blocked, same_raises.mp raises, uncaught⟩)
      · refine .inr (.inr ⟨blocked, fun raises => returns (same_raises.mpr raises), finished,
          goes_on, fun j => ?_⟩)
        rw [states j]
        by_cases same : j = i
        · simp [same]
        · simp [modify, same]

/-- A test case that is started goes on, exactly unless it ends at once and its end raises. -/
theorem executed_returns {i : Fin td.size}
    {result : EStateM.Result PyException (Coordinator td) Unit}
    (configuring : (c.testsuite.testcase i).Configuring)
    (advance : Advance services ((c.modify i (·.changeState .executing)).send (sniffingMessages i))
      i result) :
    (∃ after, result = .ok () after) ↔
      ¬ ((∀ step ∈ (c.testsuite.testcase i).sequence, step.type.isExecutable = false) ∧
        EndRaises services (c.testsuite.testcase i)) := by
  rcases executed_cases configuring advance with ⟨⟨step, member, executable⟩, after, rfl, -⟩ |
    ⟨blocked, raises, exception, state, rfl, -⟩ | ⟨-, returns, finished, rfl, -⟩
  · refine iff_of_true ⟨after, rfl⟩ fun ends => ?_
    rw [ends.1 step member] at executable
    cases executable
  · exact iff_of_false (by simp) fun spared => spared ⟨blocked, raises⟩
  · exact iff_of_true ⟨_, rfl⟩ fun ends => returns ends.2

/-- The start of a test case raises an uncaught exception exactly when the test case has no step to
execute and its end raises, or is the end of the session. -/
theorem executed_uncaught {i : Fin td.size}
    {result : EStateM.Result PyException (Coordinator td) Unit}
    (configuring : (c.testsuite.testcase i).Configuring)
    (current : c.testsuite.currentTc = some i)
    (advance : Advance services ((c.modify i (·.changeState .executing)).send (sniffingMessages i))
      i result) :
    Uncaught (andThen result announceStarted) ↔
      (∀ step ∈ (c.testsuite.testcase i).sequence, step.type.isExecutable = false) ∧
        (EndRaises services (c.testsuite.testcase i) ∨
          ∀ j, j ≠ i → (c.testsuite.testcase j).state ≠ none) := by
  rcases executed_cases configuring advance with ⟨⟨step, member, executable⟩, after, rfl, kept⟩ |
    ⟨blocked, raises, exception, state, rfl, uncaught⟩ | ⟨blocked, returns, finished, rfl, states⟩
  · rw [andThen_ok, announceStarted_uncaught, kept, current]
    refine iff_of_false (Option.some_ne_none i) fun ends => ?_
    rw [ends.1 step member] at executable
    cases executable
  · rw [andThen_error]
    exact iff_of_true ⟨exception, rfl, uncaught⟩ ⟨blocked, .inl raises⟩
  · rw [andThen_ok, announceStarted_uncaught, proceed_idle]
    have others : (∀ j, (finished.testsuite.testcase j).state ≠ none) ↔
        ∀ j, j ≠ i → (c.testsuite.testcase j).state ≠ none := by
      refine forall_congr' fun j => ?_
      rw [states j]
      by_cases same : j = i
      · simp [same]
      · simp [same]
    rw [others]
    exact ⟨fun past => ⟨blocked, .inr past⟩, fun ends => ends.2.resolve_left returns⟩

/-- What the start of a test case raises. -/
theorem testCaseStart_uncaught {id : PyString.Attribute} (coherent : Coherent c) :
    Uncaught (c.handle upper (.event (.testCaseStart id) services)) ↔
      c.Fatal services (.testCaseStart id) := by
  unfold Fatal
  by_cases waits : c.Waiting
  · cases current : c.testsuite.currentTc with
    | none =>
      rw [handle_testCaseStart waits, uncaught_andThen_ok]
      simp [startTestcase, current, waits, PyException.caughtByHandleControl]
    | some i =>
      have configuring := coherent.configuring waits current
      obtain ⟨result, advance, handled⟩ := handle_execution upper services id waits
        current configuring
      rw [handled, uncaught_andThen_ok, executed_uncaught configuring current advance]
      simp only [waits, true_and, Option.some.injEq, forall_eq']
  · exact iff_of_false (refused_caught rfl (startTestcase_closed waits)) fun wrong => waits wrong.1

/-- The answer to a step raises an uncaught exception exactly when it verifies the step with
nothing, or ends its test case, no step is left open, and the services cannot be read. -/
theorem stepExecuted_uncaught {event : Event} (coherent : Coherent c)
    (kind : controlEventsTriggers event = some .stepExecuted) :
    Uncaught (c.handle upper (.event event services)) ↔
      malformed event = false ∧ ∃ i k step, c.Awaits i k ∧
      (c.testsuite.testcase i).sequence[k]? = some step ∧ stepKind event = some step.type ∧
      (blank step.type event = true ∨
        (∀ j later, (c.testsuite.testcase i).sequence[j]? = some later → k < j →
          later.type.isExecutable = false) ∧
        (∀ j earlier, (c.testsuite.testcase i).sequence[j]? = some earlier → j < k →
          earlier.state ≠ some .executing) ∧ services.Unreadable) := by
  by_cases state : c.state = .waitingForStepExecuted
  · cases complete : malformed event with
    | true =>
      obtain ⟨message, refused⟩ := answer_malformed c.testsuite complete
      rw [handle_stepExecuted kind state]
      simp [stepExecuted, refused, PyException.caughtByHandleControl]
    | false =>
      obtain ⟨i, current, executing⟩ := coherent.executes state
      obtain ⟨k, step, at_step, -, found, under, -⟩ := executing.current
      have awaits : c.Awaits i k := ⟨state, current, at_step, by simp [found, under]⟩
      cases filled : blank step.type event with
      | true =>
        rw [handle_stepExecuted kind state]
        simp only [stepExecuted, answer_blank current at_step found under filled, andThen_error,
          uncaught_error]
        exact iff_of_true rfl
          ⟨trivial, i, k, step, awaits, found, blank_kind filled, .inl filled⟩
      | false =>
        obtain ⟨result, handled, advance⟩ :=
          handle_answered upper services state current executing at_step found kind complete filled
        have ongoing := answered_current event executing at_step found
        have nonempty : ((c.answered i k step event).testsuite.testcase i).sequence ≠ [] := by
          have inside : k < ((c.answered i k step event).testsuite.testcase i).sequence.length := by
            have bound := (List.getElem?_eq_some_iff.mp found).1
            unfold answered
            split
            · simpa [modify, TestCase.modifyStep] using bound
            · exact bound
          exact List.ne_nil_of_length_pos (Nat.zero_lt_of_lt inside)
        rw [handled, uncaught_andThen_ok, advance.uncaught_iff ongoing,
          answered_over event executing at_step found, EndRaises,
          answered_open executing at_step found]
        simp only [nonempty, false_or, not_or, not_exists, not_and, not_not, true_and]
        constructor
        · rintro ⟨past, ⟨matched, closed⟩, unreadable⟩
          exact ⟨i, k, step, awaits, found, matched, .inr ⟨past, closed, unreadable⟩⟩
        · rintro ⟨i', k', step', ⟨-, current', at_step', -⟩, found', matched, fatal⟩
          obtain rfl : i = i' := Option.some.inj (current.symm.trans current')
          obtain rfl : k = k' := Option.some.inj (at_step.symm.trans at_step')
          obtain rfl : step = step' := Option.some.inj (found.symm.trans found')
          obtain ⟨past, closed, unreadable⟩ := fatal.resolve_left (by simp [filled])
          exact ⟨past, ⟨matched, closed⟩, unreadable⟩
  · have closed : accepts c.state .stepExecuted = false := by
      revert state
      cases c.state <;> decide
    refine iff_of_false (refused_caught kind closed) ?_
    rintro ⟨-, i, k, step, awaits, -⟩
    exact state awaits.1

/-- Skipping a test case that is not being executed returns. -/
theorem skip_returns {j : Fin td.size} (coherent : Coherent c) (accepted : ongoing c.state = true)
    (spared : c.Waiting ∨ c.testsuite.currentTc ≠ some j) :
    ¬ Uncaught ((c.withTestsuite (c.testsuite.skip j)).reenter services) := by
  have elsewhere : c.state ≠ .preparingNextStep := by
    intro wrong
    rw [wrong] at accepted
    cases accepted
  obtain ⟨left, entered, -⟩ := (coherent.skip j spared).reenter services j.pos elsewhere
  rw [entered]
  simp

/-- A request for skipping while a test case waits or is executed. -/
theorem testCaseSkip_uncaught_ongoing {id : PyString.Attribute} (coherent : Coherent c)
    (accepted : ongoing c.state = true) :
    Uncaught (c.handle upper (.event (.testCaseSkip id) services)) ↔
      id = none ∨ ∃ name, id = some (some name) ∧ td.find name = none ∧
        (c.state = .waitingForStepExecuted ∨ c.testsuite.currentTc = none) := by
  have handled : c.handle upper (.event (.testCaseSkip id) services) =
      andThen (c.skipTestcase services id) (.ok true) := handle_testCaseSkip accepted
  match id with
  | none =>
    rw [handled, uncaught_andThen_ok]
    simp [skipTestcase, PyException.caughtByHandleControl]
  | some none =>
    rw [handled, uncaught_andThen_ok]
    cases current : c.testsuite.currentTc with
    | none => simp [skipTestcase, current, skipError, PyException.caughtByHandleControl]
    | some i => simp [skipTestcase, current]
  | some (some name) =>
    cases found : td.find name with
    | none =>
      have unnamed : c.testsuite.currentTc.filter (td.id · = name) = none := by
        cases current : c.testsuite.currentTc with
        | none => rfl
        | some i => simp [Option.filter, TestDescriptions.find_eq_none.mp found i]
      by_cases state : c.state = .waitingForStepExecuted
      · have raises := handle_disorienting upper coherent
          ⟨state, name, services, rfl, found⟩
        exact iff_of_true ⟨_, raises, rfl⟩ (.inr ⟨name, rfl, found, .inl state⟩)
      · rw [handled, uncaught_andThen_ok]
        have waits : c.Waiting := by
          revert accepted state
          unfold Waiting
          cases c.state <;> decide
        cases current : c.testsuite.currentTc with
        | none =>
          rw [current] at unnamed
          simp [skipTestcase, current, unnamed, found, skipError, PyException.caughtByHandleControl]
        | some i =>
          have returns : ¬ Uncaught ((c.withTestsuite (c.testsuite.skip i)).reenter services) :=
            skip_returns coherent accepted (.inl waits)
          rw [current] at unnamed
          simp [skipTestcase, current, unnamed, found, state, returns]
    | some j =>
      rw [handled, uncaught_andThen_ok]
      refine iff_of_false ?_ ?_
      · cases named : c.testsuite.currentTc.filter (td.id · = name) with
        | some i => simp [skipTestcase, named]
        | none =>
          have returns : ¬ Uncaught ((c.withTestsuite (c.testsuite.skip j)).reenter services) :=
            skip_returns coherent accepted (.inr (apart_of_unnamed named found))
          simpa only [skipTestcase, named, found, Option.some_or] using returns
      · rintro (wrong | ⟨other, same, unknown, -⟩)
        · cases wrong
        · cases same
          cases found.symm.trans unknown

/-- What a request for skipping raises. -/
theorem testCaseSkip_uncaught {id : PyString.Attribute} (coherent : Coherent c) :
    Uncaught (c.handle upper (.event (.testCaseSkip id) services)) ↔
      c.Fatal services (.testCaseSkip id) := by
  unfold Fatal
  by_cases accepted : ongoing c.state = true
  · have configured : c.state ≠ .waitingForTestsuiteConfig := by
      intro wrong
      rw [wrong] at accepted
      cases accepted
    have idle_or (idle : c.testsuite.currentTc = none) : c.Waiting := by
      cases coherent with
      | waiting waits _ _ _ => exact waits
      | executing i _ current _ _ | stuck i _ current _ _ => cases current.symm.trans idle
      | setup early _ _ =>
        rcases early with state | state <;> rw [state] at accepted <;> cases accepted
      | finished state _ _ _ _ =>
        rw [state] at accepted
        cases accepted
    rw [testCaseSkip_uncaught_ongoing coherent accepted]
    simp only [accepted, configured, or_false, and_true, false_or]
    refine or_congr_right (exists_congr fun name => and_congr_right fun _ =>
      and_congr_right fun _ => or_congr_right ?_)
    exact ⟨fun idle => ⟨idle_or idle, idle⟩, And.right⟩
  · by_cases state : c.state = .waitingForTestsuiteConfig
    · have idle : c.testsuite.currentTc = none := by
        cases coherent with
        | setup _ idle _ | finished _ idle _ _ _ => exact idle
        | waiting waits _ _ _ => rcases waits with wrong | wrong <;> cases state.symm.trans wrong
        | executing _ wrong _ _ _ | stuck _ wrong _ _ _ => cases state.symm.trans wrong
      rw [handle_testCaseSkip_before state idle]
      match id with
      | none => simp [skipBefore, state, PyException.caughtByHandleControl]
      | some none => simp [skipBefore]
      | some (some name) =>
        cases found : td.find name with
        | none => simp [skipBefore, found, skipError, state, PyException.caughtByHandleControl]
        | some j =>
          have filled : td.size ≠ 0 := Nat.ne_of_gt j.pos
          simp [skipBefore, found, reenter, state, filled]
    · have closed : accepts c.state .skipTestcase = false := by
        have resting := coherent.resting
        revert accepted state resting
        cases c.state <;> decide
      refine iff_of_false (refused_caught rfl closed) ?_
      rintro (⟨-, wrong | wrong⟩ | ⟨name, -, -, wrong | wrong | ⟨wrong, -⟩⟩)
      · exact accepted wrong
      · exact state wrong
      · exact state wrong
      · rw [wrong] at accepted
        exact accepted rfl
      · rcases wrong with wrong | wrong <;> rw [wrong] at accepted <;> exact accepted rfl

/-- A configuration message raises an uncaught exception exactly when it is fatal. -/
theorem configuration_fatal {event : Event} (coherent : Coherent c)
    (kind : controlEventsTriggers event = some .iutConfigurationExecuted) :
    Uncaught (c.handle upper (.event event services)) ↔
      if c.state = .preparingNextStep then
        ∃ i, c.testsuite.currentTc = some i ∧ ¬ (c.testsuite.testcase i).Open ∧
          (EndRaises services (c.testsuite.testcase i) ∨ Handler.Unaddressed event)
      else td.size = 0 ∨ c.NodeRaises event := by
  by_cases elsewhere : c.state = .preparingNextStep
  · rw [if_pos elsewhere]
    cases coherent with
    | stuck i state current others exhausted =>
      rw [configuration_uncaught_stuck (.stuck i state current others exhausted) kind state current
        exhausted]
      simp only [current, Option.some.injEq, exists_eq_left']
    | setup wrong _ _ | waiting wrong _ _ _ =>
      rcases wrong with wrong | wrong <;> cases elsewhere.symm.trans wrong
    | executing _ wrong _ _ _ | finished wrong _ _ _ _ => cases elsewhere.symm.trans wrong
  · rw [if_neg elsewhere]
    exact configuration_uncaught coherent kind elsewhere

/-- An event that arrives at a coherent coordinator raises an uncaught exception exactly when it is
fatal. -/
theorem Coherent.uncaught_iff (coherent : Coherent c) (event : Event) :
    Uncaught (c.handle upper (.event event services)) ↔ c.Fatal services event := by
  cases event with
  | sessionConfiguration sessionId users configuration =>
    exact sessionConfiguration_uncaught coherent
  | testSuiteStart => exact testSuiteStart_uncaught coherent
  | testCaseStart id => exact testCaseStart_uncaught coherent
  | testCaseSkip id => exact testCaseSkip_uncaught coherent
  | configurationExecuted node ipv6Address =>
    exact (configuration_fatal coherent rfl).trans (by simp [Fatal, controlEventsTriggers])
  | agentTunStarted message =>
    exact (configuration_fatal coherent rfl).trans (by simp [Fatal, controlEventsTriggers])
  | stepStimuliExecuted node =>
    exact (stepExecuted_uncaught coherent rfl).trans (by simp [Fatal, controlEventsTriggers])
  | stepVerifyExecuted verifyResponse node =>
    exact (stepExecuted_uncaught coherent rfl).trans (by simp [Fatal, controlEventsTriggers])
  | stepCheckExecuted partialVerdict description =>
    exact (stepExecuted_uncaught coherent rfl).trans (by simp [Fatal, controlEventsTriggers])
  | testCaseSelect id =>
    refine iff_of_false ?_ not_false
    by_cases accepted : ongoing c.state = true
    · rw [handle_testCaseSelect (coherent.nonempty accepted) accepted]
      simp
    · have closed := (coherent.ongoing_or .selectTestcase
        (by intro state; cases state <;> decide)).resolve_left accepted
      exact refused_caught rfl closed
  | testCaseRestart =>
    refine iff_of_false ?_ not_false
    rcases coherent.ongoing_or .restartTestcase
      (by intro state; cases state <;> decide) with accepted | refused
    · rw [handle_testCaseRestart accepted, uncaught_andThen_ok]
      unfold restartTestcase
      cases c.testsuite.currentTc.filter (td.id · ≠ "") with
      | none => simp [PyException.caughtByHandleControl]
      | some i => simp
    · exact refused_caught rfl refused
  | testCaseAbort => simp [Fatal, handle, dispatch, controlEventsTriggers]

/-- Handling an input ends the process. -/
def EndsProcess (c : Coordinator td) : Input → Prop
  | .event event services => c.Fatal services event
  | _ => False

/-- `handle_control` returns exactly when the exception is one it catches. -/
theorem survives_iff {event : Event} :
    Survives upper c (.event event services) ↔
      ¬ Uncaught (c.handle upper (.event event services)) := by
  unfold Survives Uncaught
  simp only [not_exists, not_and, Bool.not_eq_false]

end Coordinator

end Ioppytest
