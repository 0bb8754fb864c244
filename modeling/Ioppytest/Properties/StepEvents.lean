import Ioppytest.TestCoordinator.Sessions

/-!
# Answers to steps

The handlers of the answers check that the current step is of the type that the answer is about,
and ignore the answer when it is not. The transition that runs them advances to the next step in
either case. So an answer of another type always takes the current step away from a coordinator that
waits for it; only an event object without the attributes of its message would be refused before the
transition is made. In sessions without such answers a step is left behind only once it is finished
or aborted.
-/

namespace Ioppytest

open Raising

variable {td : TestDescriptions}

namespace TestCase

/-- A step that was answered or given up. -/
def Closed (step : Step) : Prop := step.state = some .finished ∨ step.state = some .aborted

/-- Every step that an IUT executes and that the iterator has left behind is closed. -/
def Behind (tc : TestCase) : Prop :=
  ∀ k step, tc.sequence[k]? = some step → k < tc.stepIt → step.type.isExecutable = true →
    Closed step

/-- The current step of a test case that is being executed may be open. -/
def NothingPassed (tc : TestCase) : Prop :=
  ∀ k step, tc.sequence[k]? = some step → k < tc.stepIt → step.type.isExecutable = true →
    Closed step ∨
      (tc.state = some .executing ∧ tc.currentStep = some k ∧ step.state = some .executing)

/-- Closed steps stay so whatever else of the test case changes. -/
theorem Behind.nothingPassed {tc after : TestCase} (behind : tc.Behind)
    (sequence : after.sequence = tc.sequence) (stepIt : after.stepIt = tc.stepIt) :
    after.NothingPassed := by
  intro k step found before executable
  rw [sequence] at found
  rw [stepIt] at before
  exact .inl (behind k step found before executable)

/-- Only a test case that is being executed has an open step behind its iterator. -/
theorem NothingPassed.behind {tc : TestCase} (nothing : tc.NothingPassed)
    (idle : tc.state ≠ some .executing) : tc.Behind := fun k step found before executable =>
  (nothing k step found before executable).resolve_right fun passed => idle passed.1

/-- No step is behind the iterator at the start. -/
theorem AtStart.behind {tc : TestCase} (start : tc.AtStart) : tc.Behind := by
  intro k step _ before
  rw [start.stepIt] at before
  omega

/-- Nothing has passed in a test case that is reinitialised. -/
theorem nothingPassed_reinit (tc : TestCase) : tc.reinit.NothingPassed :=
  tc.reinit_pristine.toAtStart.behind.nothingPassed rfl rfl

/-- Nothing has passed in a test case that is skipped. -/
theorem nothingPassed_skipped (tc : TestCase) : (tc.changeState .skipped).NothingPassed := by
  intro k step found _ _
  obtain ⟨earlier, -, rfl⟩ := List.mem_map.mp (List.mem_of_getElem? found)
  exact .inl (.inl rfl)

/-- Nothing has passed in a test case that is aborted. -/
theorem nothingPassed_abort (tc : TestCase) : tc.abort.NothingPassed := by
  intro k step found _ _
  obtain ⟨earlier, -, rfl⟩ := List.mem_map.mp (List.mem_of_getElem? found)
  exact .inl (.inr earlier.abort_state)

/-- Nothing passes by configuring a test case. -/
theorem NothingPassed.configuring {tc : TestCase} (nothing : tc.NothingPassed)
    (blank : tc.state = none) : (tc.changeState .configuring).NothingPassed := by
  have idle : tc.state ≠ some .executing := by
    rw [blank]
    decide
  exact (nothing.behind idle).nothingPassed rfl rfl

/-- Answering the current step closes what the iterator has left behind. -/
theorem NothingPassed.answered {tc : TestCase} {k : Nat} {change : Step → Step}
    (nothing : tc.NothingPassed) (at_step : tc.currentStep = some k)
    (finished : ∀ step, (change step).state = some .finished) : (tc.modifyStep k change).Behind := by
  intro j step found before executable
  obtain ⟨earlier, position, rfl⟩ :=
    Option.map_eq_some_iff.mp ((modifyStep_getElem? _ _ _ _).symm.trans found)
  by_cases same : k = j
  · subst same
    simp only [↓reduceIte]
    exact .inl (finished earlier)
  · simp only [same, ↓reduceIte] at executable ⊢
    refine (nothing j earlier position before executable).resolve_right ?_
    rintro ⟨-, current, -⟩
    exact same (Option.some.inj (at_step.symm.trans current))

/-- Fetching a step opens that step only. -/
theorem Behind.execute {tc after : TestCase} {k : Nat} (behind : tc.Behind) (ongoing : tc.Ongoing)
    (fetched : tc.nextStep = (some k, after)) :
    (after.changeState .executing).NothingPassed := by
  obtain ⟨step, located, -, -, low, between, rfl⟩ := ongoing.nextStep_some fetched
  intro j other found before executable
  obtain ⟨earlier, position, rfl⟩ :=
    Option.map_eq_some_iff.mp ((modifyStep_getElem? _ _ _ _).symm.trans found)
  by_cases same : k = j
  · subst same
    exact .inr ⟨rfl, rfl, by simp⟩
  · simp only [same, ↓reduceIte] at executable ⊢
    have before : j < k + 1 := before
    have old : j < tc.stepIt := by
      by_contra late
      have blocked := between j earlier position (by omega) (by omega)
      rw [executable] at blocked
      cases blocked
    exact .inl (behind j earlier position old executable)

/-- The end of the iterator opens no step. -/
theorem Behind.exhaust {tc after : TestCase} (behind : tc.Behind) (ongoing : tc.Ongoing)
    (fetched : tc.nextStep = (none, after)) : after.Behind := by
  obtain ⟨blocked, currentStep, stepIt, rfl, -⟩ := ongoing.nextStep_none fetched
  intro j step found _ executable
  have old : j < tc.stepIt := by
    by_contra late
    have wrong := blocked j step found (by omega)
    rw [executable] at wrong
    cases wrong
  exact behind j step found old executable

end TestCase

namespace Coordinator

variable {upper : String → String} {testsuiteName : String} {c : Coordinator td} {input : Input}

/-- The machine waits for the answer to a step, which is being executed. -/
def Awaits (c : Coordinator td) (i : Fin td.size) (k : Nat) : Prop :=
  c.state = .waitingForStepExecuted ∧ c.testsuite.currentTc = some i ∧
    (c.testsuite.testcase i).currentStep = some k ∧
    (c.testsuite.testcase i).sequence[k]?.bind Step.state = some .executing

/-- Whether a step is awaited is decided by the state and the step. -/
instance (c : Coordinator td) (i : Fin td.size) (k : Nat) : Decidable (c.Awaits i k) :=
  inferInstanceAs (Decidable (_ ∧ _))

/-- The test case of an awaited step is being executed. -/
theorem Awaits.executing {i : Fin td.size} {k : Nat} (awaits : c.Awaits i k)
    (coherent : Coherent c) : (c.testsuite.testcase i).Executing := by
  obtain ⟨state, current, -⟩ := awaits
  obtain ⟨j, here, executing⟩ := coherent.executes state
  obtain rfl : j = i := Option.some.inj (here.symm.trans current)
  exact executing

/-- An answer that arrives while a step is awaited is about the type of that step, or malformed. -/
def Fits (c : Coordinator td) : Input → Prop
  | .event event _ => ∀ i k step, c.Awaits i k →
      (c.testsuite.testcase i).sequence[k]? = some step →
      controlEventsTriggers event = some .stepExecuted →
      stepKind event = some step.type ∨ malformed event = true
  | _ => True

/-- No step of any test case has been passed over. -/
def NothingPassed (c : Coordinator td) : Prop := ∀ j, (c.testsuite.testcase j).NothingPassed

/-- Executing the next step does not leave the machine waiting for a step that was left behind. -/
theorem Advance.not_awaits {services : Services} {i : Fin td.size} {k : Nat}
    {result : EStateM.Result PyException (Coordinator td) Unit}
    (advance : Advance services c i result) (ongoing : (c.testsuite.testcase i).Ongoing)
    (before : k < (c.testsuite.testcase i).stepIt) : ¬ (finalState result).Awaits i k := by
  cases advance with
  | @execute later tc _ fetched _ _ _ =>
    rintro ⟨-, -, at_step, -⟩
    obtain ⟨-, -, -, -, low, -, rfl⟩ := ongoing.nextStep_some fetched
    have here : (some later : Option Nat) = some k := by
      simpa [fetch, modify, TestCase.changeState, TestCase.modifyStep] using at_step
    have same : later = k := Option.some.inj here
    omega
  | refuse _ _ _ => exact fun awaits => by cases awaits.1
  | interrupt _ _ _ => exact fun awaits => by cases awaits.1
  | complete _ _ _ =>
    rintro ⟨state, -⟩
    rcases proceed_state _ with here | here <;> cases here.symm.trans state

/-- An answer of another type is without effect exactly when it lacks an attribute. -/
theorem mismatched_awaits (reached : Reached upper testsuiteName (Survives upper) c)
    {i : Fin td.size} {k : Nat} {step : Step} {event : Event} {services : Services}
    (awaits : c.Awaits i k) (found : (c.testsuite.testcase i).sequence[k]? = some step)
    (kind : controlEventsTriggers event = some .stepExecuted)
    (mismatch : stepKind event ≠ some step.type) :
    (next upper c (.event event services)).Awaits i k ↔ malformed event = true := by
  have executing := awaits.executing (reached_coherent (fun _ _ survives => .inr survives) reached)
  obtain ⟨state, current, at_step, under⟩ := awaits
  cases complete : malformed event with
  | true =>
    obtain ⟨message, refused⟩ := answer_malformed c.testsuite complete
    rw [next, handle_stepExecuted kind state, finalState_andThen_ok]
    simp only [stepExecuted, refused, finalState_error, iff_true]
    exact ⟨state, current, at_step, under⟩
  | false =>
    -- The handler refuses the answer, and the machine advances all the same.
    have filled : blank step.type event = false :=
      Bool.eq_false_iff.mpr fun empty => mismatch (blank_kind empty)
    obtain ⟨result, handled, advance⟩ :=
      handle_answered upper services state current executing at_step found kind complete filled
    have ignored : c.answered i k step event = c := if_neg mismatch
    rw [ignored] at advance
    rw [next, handled, finalState_andThen_ok]
    simp only [Bool.false_eq_true, iff_false]
    refine advance.not_awaits executing.toOngoing ?_
    obtain ⟨l, -, located, position, -⟩ := executing.current
    obtain rfl : l = k := Option.some.inj (located.symm.trans at_step)
    omega

/-- Executing the next step of a test case whose steps are closed passes over none. -/
theorem Advance.nothingPassed {services : Services} {i : Fin td.size}
    {result : EStateM.Result PyException (Coordinator td) Unit}
    (advance : Advance services c i result) (ongoing : (c.testsuite.testcase i).Ongoing)
    (behind : (c.testsuite.testcase i).Behind) (nothing : c.NothingPassed) :
    (finalState result).NothingPassed := by
  refine advance.each (fun _ _ passed blank => passed.configuring blank)
    (fun _ _ passed => passed) (fun k tc fetched => behind.execute ongoing fetched)
    (fun tc fetched => ?_) nothing
  have past : tc.Behind := behind.exhaust ongoing fetched
  exact ⟨past.nothingPassed rfl rfl, past.nothingPassed rfl rfl,
    fun _ _ _ => past.nothingPassed rfl rfl⟩

/-- Going on with the next test case passes over no step. -/
theorem NothingPassed.proceed (nothing : c.NothingPassed) : c.proceed.NothingPassed :=
  proceed_each (fun _ _ passed blank => passed.configuring blank) (fun _ _ passed => passed)
    nothing

/-- Neither does the handling of a node. -/
theorem Recorded.nothingPassed {before after : Coordinator td} (recorded : Recorded before after)
    (nothing : before.NothingPassed) : after.NothingPassed := by
  intro j
  rw [recorded.testcase]
  exact nothing j

/-- Neither does a change that closes the steps of a test case. -/
theorem NothingPassed.modify {i : Fin td.size} {change : TestCase → TestCase}
    (nothing : c.NothingPassed) (changed : (change (c.testsuite.testcase i)).NothingPassed) :
    (c.modify i change).NothingPassed :=
  modify_each nothing changed

/-- Neither does configuring a test case that was reinitialised. -/
theorem NothingPassed.configure {i : Fin td.size} (nothing : c.NothingPassed)
    (blank : (c.testsuite.testcase i).state = none) : (c.configure i).NothingPassed := by
  have configured : (c.modify i (·.changeState .configuring)).NothingPassed :=
    nothing.modify ((nothing i).configuring blank)
  exact fun j => configured j

/-- Neither does skipping a test case. -/
theorem NothingPassed.skip (nothing : c.NothingPassed) (i : Fin td.size) :
    (c.withTestsuite (c.testsuite.skip i)).NothingPassed := by
  intro j
  rw [withTestsuite_testsuite, TestSuite.skip_testcase]
  split
  · exact TestCase.nothingPassed_skipped _
  · exact nothing j

/-- Neither does reinitialising the current one. -/
theorem NothingPassed.reinitTestcase (nothing : c.NothingPassed) (id : Option String) :
    (c.withTestsuite (c.testsuite.reinitTestcase id)).NothingPassed := by
  unfold TestSuite.reinitTestcase
  split
  · exact nothing.modify (TestCase.nothingPassed_reinit _)
  · exact nothing

/-- Neither does the configuration of a suite. -/
theorem nothingPassed_skippedFrom {before after : TestSuite td}
    (nothing : ∀ j, (before.testcase j).NothingPassed) (skipped : TestSuite.SkippedFrom before after) :
    (c.withTestsuite after).NothingPassed := by
  intro j
  rw [withTestsuite_testsuite]
  rcases skipped.testcase j with same | same
  · rw [same]
    exact nothing j
  · rw [same]
    exact TestCase.nothingPassed_skipped _

/-- An answer that fits closes the current step. -/
theorem Fits.answered {i : Fin td.size} {k : Nat} {step : Step} {event : Event}
    {services : Services} (fits : c.Fits (.event event services)) (nothing : c.NothingPassed)
    (state : c.state = .waitingForStepExecuted) (current : c.testsuite.currentTc = some i)
    (executing : (c.testsuite.testcase i).Executing)
    (at_step : (c.testsuite.testcase i).currentStep = some k)
    (found : (c.testsuite.testcase i).sequence[k]? = some step)
    (kind : controlEventsTriggers event = some .stepExecuted) (complete : malformed event = false) :
    ((c.answered i k step event).testsuite.testcase i).Behind ∧
      (c.answered i k step event).NothingPassed := by
  obtain ⟨l, other, located, -, found', under, -⟩ := executing.current
  obtain rfl : l = k := Option.some.inj (located.symm.trans at_step)
  obtain rfl : other = step := Option.some.inj (found'.symm.trans found)
  have awaits : c.Awaits i l := ⟨state, current, at_step, by simp [found, under]⟩
  have matched : stepKind event = some other.type :=
    (fits i l other awaits found kind).resolve_right (by simp [complete])
  have closed : ((c.testsuite.testcase i).modifyStep l (answerTo event)).Behind :=
    (nothing i).answered at_step (answerTo_state event)
  have changed : c.answered i l other event = c.modify i (·.modifyStep l (answerTo event)) :=
    if_pos matched
  rw [changed]
  constructor
  · simpa [Coordinator.modify] using closed
  · exact nothing.modify (closed.nothingPassed rfl rfl)

/-- **A move on an answer that fits, or on any other input, passes over no step.** -/
theorem Move.nothingPassed {result : EStateM.Result PyException (Coordinator td) Bool}
    (move : Move c input result) (coherent : Coherent c) (fits : c.Fits input)
    (nothing : c.NothingPassed) : (finalState result).NothingPassed := by
  cases move with
  | ignored => exact nothing
  | refused => exact nothing
  | empty empty _ _ _ _ => exact fun j => absurd j.pos (by omega)
  | configured _ _ skipped => exact nothingPassed_skippedFrom (c := c) nothing skipped
  | skippedEarly _ _ => exact nothing.skip _
  | recordedEarly _ _ _ =>
    rw [finalState_andThen_ok]
    exact (recordNode_recorded _).nothingPassed nothing
  | @started _ ts _ _ skipped =>
    apply NothingPassed.proceed
    have restarted : (c.withTestsuite ts).NothingPassed :=
      nothingPassed_skippedFrom (fun j => TestCase.nothingPassed_reinit _) skipped
    exact restarted
  | recordedWaiting _ _ =>
    rw [finalState_andThen_ok]
    exact (recordNode_recorded _).nothingPassed nothing
  | recordedExecuting _ _ _ _ _ _ =>
    rw [finalState_andThen_ok]
    exact (recordNode_recorded _).nothingPassed nothing
  | recordedFinished _ _ =>
    rw [finalState_andThen_ok]
    exact (recordNode_recorded _).nothingPassed nothing
  | @retried _ _ i _ _ current exhausted _ advance =>
    rw [finalState_andThen_ok]
    have idle : (c.testsuite.testcase i).state ≠ some .executing := by
      rcases exhausted.state with state | state <;> rw [state] <;> decide
    have advanced := advance.nothingPassed exhausted.toOngoing ((nothing i).behind idle) nothing
    exact finalState_andThen advanced fun _ later => (recordNode_recorded _).nothingPassed later
  | timedOut state =>
    rw [finalState_andThen_ok]
    exact (announceReady_recorded state).nothingPassed nothing
  | @executed _ _ i _ waits current advance =>
    rw [finalState_andThen_ok]
    have configuring := coherent.configuring waits current
    have behind : ((c.testsuite.testcase i).changeState .executing).Behind :=
      configuring.toAtStart.behind
    have opened : (c.modify i (·.changeState .executing)).NothingPassed :=
      nothing.modify (behind.nothingPassed rfl rfl)
    have advanced := advance.nothingPassed (by simpa [Coordinator.modify] using configuring.start)
      (by simpa [Coordinator.modify] using behind) opened
    refine finalState_andThen advanced fun after later => ?_
    obtain ⟨messages, sent, -⟩ := announceStarted_sends after
    rw [sent]
    exact later
  | @answered _ _ i k step _ state current executing at_step found kind complete _ advance =>
    rw [finalState_andThen_ok]
    have closed := fits.answered nothing state current executing at_step found kind complete
    exact advance.nothingPassed (answered_current _ executing at_step found) closed.1 closed.2
  | @restarted _ i _ _ =>
    have reset : (c.modify i (·.reinit)).NothingPassed :=
      nothing.modify (TestCase.nothingPassed_reinit _)
    exact reset.configure (by simp [Coordinator.modify])
  | selected _ =>
    rw [finalState_ok]
    have reset := nothing.reinitTestcase c.testsuite.getCurrentTestcaseId
    apply selectTestcase_rule
    · intro i
      refine NothingPassed.configure (reset.modify (TestCase.nothingPassed_reinit _)) ?_
      simp [Coordinator.modify]
    · exact reset.proceed
  | skippedCurrent _ _ _ =>
    apply NothingPassed.proceed
    exact nothing.skip _
  | skippedOther _ _ _ => exact nothing.skip _
  | skippedInstead _ _ _ => exact nothing.skip _
  | skippedExecuting _ _ _ _ _ _ _ => exact nothing.skip _
  | @aborted i _ _ =>
    apply NothingPassed.proceed
    exact nothing.modify (TestCase.nothingPassed_abort (c.testsuite.testcase i))

/-- A coordinator without a step behind an iterator has passed over none. -/
theorem initial_nothingPassed : (initial upper td testsuiteName).NothingPassed := by
  rw [initial_eq]
  intro j k _ _ before
  cases before

/-- **Answers of another type pass over steps.** An answer that is not about the type of the awaited
step leaves the machine waiting for that step only if it has no such field at all, which no message of
the bus is like: there a missing field is `None`. And in a session in which every answer fits, no step
is left behind open. -/
theorem step_answers (upper : String → String) (td : TestDescriptions) (testsuiteName : String) :
    (∀ c : Coordinator td, Reached upper testsuiteName (Survives upper) c →
      ∀ i k step event services, c.Awaits i k →
        (c.testsuite.testcase i).sequence[k]? = some step →
        controlEventsTriggers event = some .stepExecuted → stepKind event ≠ some step.type →
        ((next upper c (.event event services)).Awaits i k ↔ malformed event = true)) ∧
    ∀ c : Coordinator td,
      Reached upper testsuiteName (fun c input => Survives upper c input ∧ c.Fits input) c →
        c.NothingPassed := by
  constructor
  · intro c reached i k step event services awaits found kind mismatch
    exact mismatched_awaits reached awaits found kind mismatch
  · intro c reached
    have tame (c : Coordinator td) (input : Input) (permitted : Survives upper c input ∧ c.Fits input) :
        input.Known td ∨ Survives upper c input := .inr permitted.1
    refine reached.invariant initial_nothingPassed fun c input earlier nothing permitted => ?_
    exact (reached_move tame earlier permitted).nothingPassed (reached_coherent tame earlier)
      permitted.2 nothing

/-- The answer to a verify step that nobody has asked for. -/
def strayVerify : Input := .event (.stepVerifyExecuted (some (some true)) none) noServices

/-- The answer to a verify step takes a stimuli step away, which is left behind open. -/
theorem strayVerify_passes :
    Reached id "coap" (Survives id) stimuliAwaited ∧ stimuliAwaited.Awaits smallFirst 0 ∧
      ((stimuliAwaited.testsuite.testcase smallFirst).sequence[0]?.map Step.type) = some .stimuli ∧
      ¬ (next id stimuliAwaited strayVerify).Awaits smallFirst 0 ∧
      ¬ (next id stimuliAwaited strayVerify).NothingPassed := by
  refine ⟨stimuliAwaited_reached, by decide +kernel, by decide +kernel, by decide +kernel,
    fun nothing => ?_⟩
  have under : ((next id stimuliAwaited strayVerify).testsuite.testcase
      smallFirst).sequence[0]?.map (fun step => (step.state, step.type)) =
        some (some .executing, .stimuli) := by decide +kernel
  obtain ⟨step, found, same⟩ := Option.map_eq_some_iff.mp under
  obtain ⟨state, type⟩ := Prod.mk.inj same
  rcases nothing smallFirst 0 step found (by decide +kernel) (by rw [type]; rfl) with
    (closed | closed) | ⟨-, current, -⟩
  · cases state.symm.trans closed
  · cases state.symm.trans closed
  · revert current
    decide +kernel

end Coordinator

end Ioppytest
