import Ioppytest.Properties.StepEvents
import Ioppytest.TestCoordinator.Endings

/-!
# Where the coordinator rests

Transient states are left by the triggers that their own callbacks fire, so an exception in such a
chain leaves the machine in the middle of it. One exception that `handle_control` catches can: the
end of a test case is refused while a step is still being executed. An answer of another type leads
there, at the last step or at one that is passed over earlier.
-/

namespace Ioppytest

open Raising

variable {td : TestDescriptions}

/-- The states from which the bus goes on with a session, and its end. -/
def FsmState.isStable : FsmState → Bool
  | .waitingForTestsuiteConfig => true
  | .waitingForTestsuiteStart => true
  | .waitingForIutConfigurationExecuted => true
  | .waitingForTestcaseStart => true
  | .waitingForStepExecuted => true
  | .testsuiteFinished => true
  | _ => false

namespace Coordinator

variable {upper : String → String} {testsuiteName : String} {c : Coordinator td} {input : Input}

/-- An answer with all that its handler needs arrives at the last step that an IUT executes, and
leaves a step open: it is about another type, or an earlier step was passed over. -/
def EndsOpen (c : Coordinator td) : Input → Prop
  | .event event _ => controlEventsTriggers event = some .stepExecuted ∧ malformed event = false ∧
      ∃ i k step, c.Awaits i k ∧ (c.testsuite.testcase i).sequence[k]? = some step ∧
        blank step.type event = false ∧
        (∀ j later, (c.testsuite.testcase i).sequence[j]? = some later → k < j →
          later.type.isExecutable = false) ∧
        (stepKind event ≠ some step.type ∨
          ∃ j earlier, (c.testsuite.testcase i).sequence[j]? = some earlier ∧ j < k ∧
            earlier.state = some .executing)
  | _ => False

/-- The machine is in a stable state. -/
def Rests (c : Coordinator td) : Prop := c.state.isStable = true

/-- Whether a coordinator rests is its state. -/
instance (c : Coordinator td) : Decidable c.Rests := inferInstanceAs (Decidable (_ = _))

/-- Going on with the next test case ends in a stable state. -/
theorem proceed_rests (c : Coordinator td) : c.proceed.Rests := by
  unfold Rests
  rcases proceed_state c with state | state <;> rw [state] <;> rfl

/-- The end of the iterator opens and closes no step. -/
theorem exhaust_open {tc after : TestCase} (ongoing : tc.Ongoing)
    (fetched : tc.nextStep = (none, after)) :
    (after.changeState .readyForAnalysis).Open ↔ tc.Open := by
  obtain ⟨-, currentStep, stepIt, rfl, -⟩ := ongoing.nextStep_none fetched
  exact Iff.rfl

/-- A complete test case has no open step. -/
theorem not_open_of_complete {tc : TestCase} (complete : tc.Complete) : ¬ tc.Open := by
  rintro ⟨step, member, state⟩
  rcases complete step member with wrong | wrong <;> cases state.symm.trans wrong

/-- Executing the next step ends in a stable state, or raises at the end of the test case; an
exception that is caught is about a step that is still open. -/
theorem Advance.rests_or {services : Services} {i : Fin td.size}
    {result : EStateM.Result PyException (Coordinator td) Unit}
    (advance : Advance services c i result) (ongoing : (c.testsuite.testcase i).Ongoing) :
    (finalState result).Rests ∨
      ∃ exception tc, raised result = some exception ∧
        (c.testsuite.testcase i).nextStep = (none, tc) ∧
        (exception.caughtByHandleControl = true → (c.testsuite.testcase i).Open) := by
  cases advance with
  | execute _ _ _ _ => exact .inl rfl
  | complete _ _ _ => exact .inl (proceed_rests _)
  | @refuse tc exception fetched exhausted outcome =>
    refine .inr ⟨exception, tc, rfl, fetched, fun caught => ?_⟩
    have ending := finishOutcome_ending services (td.id i) (c.analyzeRequest i) exhausted
    rw [outcome] at ending
    cases ending with
    | empty _ => cases caught
    | pending blocked => exact (exhaust_open ongoing fetched).mp blocked
  | @interrupt tc exception _ fetched exhausted outcome =>
    refine .inr ⟨exception, tc, rfl, fetched, fun caught => ?_⟩
    have ending := finishOutcome_ending services (td.id i) (c.analyzeRequest i) exhausted
    rw [outcome] at ending
    cases ending with
    | unreadable _ _ _ uncaught => exact absurd caught (by simp [uncaught])

/-- A step that was answered leaves the others as they are. -/
theorem answered_open {i : Fin td.size} {k : Nat} {step : Step} {event : Event}
    (executing : (c.testsuite.testcase i).Executing)
    (at_step : (c.testsuite.testcase i).currentStep = some k)
    (found : (c.testsuite.testcase i).sequence[k]? = some step) :
    ((c.answered i k step event).testsuite.testcase i).Open ↔
      (stepKind event ≠ some step.type ∨
        ∃ j earlier, (c.testsuite.testcase i).sequence[j]? = some earlier ∧ j < k ∧
          earlier.state = some .executing) := by
  obtain ⟨l, other, located, position, found', under, -⟩ := executing.current
  obtain rfl : l = k := Option.some.inj (located.symm.trans at_step)
  obtain rfl : other = step := Option.some.inj (found'.symm.trans found)
  by_cases matched : stepKind event = some other.type
  · have changed : (c.answered i l other event).testsuite.testcase i =
        (c.testsuite.testcase i).modifyStep l (answerTo event) := by
      simp [answered, matched, modify]
    rw [changed]
    constructor
    · rintro ⟨step, member, state⟩
      obtain ⟨j, inside⟩ := List.getElem?_of_mem member
      obtain ⟨earlier, here, rfl⟩ :=
        Option.map_eq_some_iff.mp ((TestCase.modifyStep_getElem? _ _ _ _).symm.trans inside)
      by_cases same : l = j
      · simp [same] at state
      · simp only [same, ↓reduceIte] at state
        refine .inr ⟨j, earlier, here, ?_, state⟩
        by_contra late
        exact TestCase.pristine_idle (executing.ahead j earlier here (by omega)) state
    · rintro (mismatch | ⟨j, earlier, here, before, state⟩)
      · exact absurd matched mismatch
      · have kept : ((c.testsuite.testcase i).modifyStep l (answerTo event)).sequence[j]? =
            some earlier := by
          have apart : l ≠ j := by omega
          simp [TestCase.modifyStep_getElem?, here, apart]
        exact ⟨earlier, List.mem_of_getElem? kept, state⟩
  · have same : c.answered i l other event = c := if_neg matched
    rw [same]
    exact ⟨fun _ => .inl matched, fun _ => ⟨other, List.mem_of_getElem? found, under⟩⟩

/-- The test case ends after an answer exactly when no step that an IUT executes is left. -/
theorem answered_over {i : Fin td.size} {k : Nat} {step : Step} (event : Event)
    (executing : (c.testsuite.testcase i).Executing)
    (at_step : (c.testsuite.testcase i).currentStep = some k)
    (found : (c.testsuite.testcase i).sequence[k]? = some step) :
    (∃ after, ((c.answered i k step event).testsuite.testcase i).nextStep = (none, after)) ↔
      ∀ j later, (c.testsuite.testcase i).sequence[j]? = some later → k < j →
        later.type.isExecutable = false := by
  obtain ⟨l, -, located, position, -⟩ := executing.current
  obtain rfl : l = k := Option.some.inj (located.symm.trans at_step)
  have ongoing := answered_current event executing at_step found
  have stepIt : ((c.answered i l step event).testsuite.testcase i).stepIt = l + 1 := by
    rw [← position]
    unfold answered
    split
    · simp [modify, TestCase.modifyStep]
    · rfl
  have later_same (j : Nat) (late : l < j) :
      ((c.answered i l step event).testsuite.testcase i).sequence[j]? =
        (c.testsuite.testcase i).sequence[j]? := by
    have apart : l ≠ j := by omega
    unfold answered
    split
    · simp [modify, TestCase.modifyStep_getElem?, apart]
    · rfl
  constructor
  · rintro ⟨after, ended⟩ j later inside late
    refine (ongoing.nextStep_none ended).1 j later ?_ (by omega)
    rw [later_same j late]
    exact inside
  · intro past
    apply ongoing.nextStep_over
    intro j later inside late
    refine past j later ?_ (by omega)
    rw [← later_same j (by omega)]
    exact inside

/-- The handling of a node ends in a stable state if it starts in one. -/
theorem Recorded.rests {before after : Coordinator td} (recorded : Recorded before after)
    (rests : before.Rests) : after.Rests := by
  unfold Rests
  rcases recorded.state with same | ⟨-, past⟩
  · rw [same]
    exact rests
  · rw [past]
    rfl

/-- An answer that ends a test case with an open step leaves the machine in a transient state. -/
theorem EndsOpen.not_rests (coherent : Coherent c) (ends : c.EndsOpen input) :
    ¬ (next upper c input).Rests := by
  intro rests
  cases input with
  | abortTestcase | timeout => cases ends
  | event event services =>
    obtain ⟨kind, complete, i, k, step, awaits, found, filled, past, blocked⟩ := ends
    have executing := awaits.executing coherent
    obtain ⟨state, current, at_step, -⟩ := awaits
    obtain ⟨result, handled, advance⟩ :=
      handle_answered upper services state current executing at_step found kind complete filled
    rw [next, handled, finalState_andThen_ok] at rests
    obtain ⟨tc, ended⟩ := (answered_over event executing at_step found).mpr past
    cases advance with
    | execute fetched _ _ _ => cases ended.symm.trans fetched
    | refuse _ _ _ => cases rests
    | interrupt _ _ _ => cases rests
    | complete fetched exhausted completed =>
      have ending := finishOutcome_ending services (td.id i)
        ((c.answered i k step event).analyzeRequest i) exhausted
      rw [completed] at ending
      have ongoing := answered_current event executing at_step found
      have left := (exhaust_open ongoing fetched).mpr
        ((answered_open executing at_step found).mpr blocked)
      cases ending with
      | completed complete _ _ => exact not_open_of_complete complete left

/-- Executing the next step after an answer that does not end a test case with an open step. -/
theorem Advance.rests {event : Event} {services : Services} {i : Fin td.size} {k : Nat}
    {step : Step} {result : EStateM.Result PyException (Coordinator td) Unit}
    (advance : Advance services (c.answered i k step event) i result) (coherent : Coherent c)
    (awaits : c.Awaits i k) (found : (c.testsuite.testcase i).sequence[k]? = some step)
    (kind : controlEventsTriggers event = some .stepExecuted) (complete : malformed event = false)
    (filled : blank step.type event = false) (closed : ¬ c.EndsOpen (.event event services))
    (caught : ∀ exception, raised result = some exception →
      exception.caughtByHandleControl = true) : (finalState result).Rests := by
  have executing := awaits.executing coherent
  have ongoing := answered_current event executing awaits.2.2.1 found
  rcases advance.rests_or ongoing with rests | ⟨exception, tc, raises, ended, blocked⟩
  · exact rests
  · have left := (answered_open executing awaits.2.2.1 found).mp
      (blocked (caught exception raises))
    have past := (answered_over event executing awaits.2.2.1 found).mp ⟨tc, ended⟩
    exact absurd ⟨kind, complete, i, k, step, awaits, found, filled, past, left⟩ closed

/-- A move that raises nothing uncaught ends in a stable state, unless an answer ends a test case
with an open step. -/
theorem Move.rests {result : EStateM.Result PyException (Coordinator td) Bool}
    (move : Move c input result) (coherent : Coherent c) (rests : c.Rests)
    (closed : ¬ c.EndsOpen input)
    (caught : ∀ event services exception, input = .event event services →
      raised result = some exception → exception.caughtByHandleControl = true) :
    (finalState result).Rests := by
  cases move with
  | ignored => exact rests
  | refused => exact rests
  | empty _ _ state _ _ =>
    rw [finalState_error, Rests, state]
    exact rests
  | configured _ _ _ => rfl
  | skippedEarly _ _ => exact rests
  | recordedEarly _ _ _ =>
    rw [finalState_andThen_ok]
    exact (recordNode_recorded _).rests rests
  | started _ _ _ => exact proceed_rests _
  | recordedWaiting _ _ =>
    rw [finalState_andThen_ok]
    exact (recordNode_recorded _).rests rests
  | recordedExecuting _ _ _ _ _ _ =>
    rw [finalState_andThen_ok]
    exact (recordNode_recorded _).rests rests
  | recordedFinished _ _ =>
    rw [finalState_andThen_ok]
    exact (recordNode_recorded _).rests rfl
  | retried state _ _ _ _ =>
    rw [Rests, state] at rests
    cases rests
  | timedOut state =>
    rw [finalState_andThen_ok]
    exact (announceReady_recorded state).rests rests
  | @executed _ _ i _ waits current advance =>
    have configuring := coherent.configuring waits current
    rcases advance.rests_or (by simpa [modify] using configuring.start) with
      rests | ⟨exception, -, raises, -, blocked⟩
    · rw [finalState_andThen_ok]
      refine finalState_andThen rests fun after later => ?_
      obtain ⟨messages, sent, -⟩ := announceStarted_sends after
      rw [sent]
      exact later
    · -- No step has been fetched yet, so none is open.
      have left := blocked (caught _ _ exception rfl (raised_andThen (raised_andThen raises)))
      have steps : ((c.testsuite.testcase i).changeState .executing).Open := by
        simpa [modify] using left
      obtain ⟨step, member, state⟩ := steps
      exact absurd state (TestCase.pristine_idle (configuring.pristine step member))
  | @answered event services i k step result state current executing at_step found kind complete
      filled advance =>
    rw [finalState_andThen_ok]
    obtain ⟨l, other, located, -, found', under, -⟩ := executing.current
    obtain rfl : l = k := Option.some.inj (located.symm.trans at_step)
    obtain rfl : other = step := Option.some.inj (found'.symm.trans found)
    have awaits : c.Awaits i l := ⟨state, current, at_step, by simp [found, under]⟩
    refine advance.rests coherent awaits found kind complete filled closed
      fun exception raises => ?_
    exact caught _ _ exception rfl (raised_andThen raises)
  | restarted _ _ => rfl
  | selected _ =>
    rw [finalState_ok]
    apply selectTestcase_rule
    · exact fun _ => rfl
    · exact proceed_rests _
  | skippedCurrent _ _ _ => exact proceed_rests _
  | skippedOther _ _ _ => exact rests
  | skippedInstead _ _ _ => exact rests
  | skippedExecuting _ _ _ _ _ _ _ => exact rests
  | aborted _ _ => exact proceed_rests _

/-- In the transient state that a session can be left in, a step is still open. -/
def Stranded (c : Coordinator td) : Prop :=
  c.state = .preparingNextStep →
    ∃ i, c.testsuite.currentTc = some i ∧ (c.testsuite.testcase i).Open

/-- A coordinator that rests is not in that state. -/
theorem Rests.stranded (rests : c.Rests) : c.Stranded := by
  intro state
  rw [Rests, state] at rests
  cases rests

/-- Executing the next step is left in the middle only with an open step, unless it raises an
exception that is not caught. -/
theorem Advance.stranded {services : Services} {i : Fin td.size}
    {result : EStateM.Result PyException (Coordinator td) Unit}
    (advance : Advance services c i result) (current : c.testsuite.currentTc = some i)
    (caught : ∀ exception, raised result = some exception →
      exception.caughtByHandleControl = true) : (finalState result).Stranded := by
  cases advance with
  | execute _ _ _ _ => exact Rests.stranded rfl
  | complete _ _ _ => exact (proceed_rests _).stranded
  | @refuse tc exception fetched exhausted outcome =>
    have ending := finishOutcome_ending services (td.id i) (c.analyzeRequest i) exhausted
    rw [outcome] at ending
    cases ending with
    | empty _ => cases caught _ rfl
    | pending blocked => exact fun _ => ⟨i, current, by simpa [exhaust, modify] using blocked⟩
  | @interrupt tc exception _ fetched exhausted outcome =>
    have ending := finishOutcome_ending services (td.id i) (c.analyzeRequest i) exhausted
    rw [outcome] at ending
    cases ending with
    | unreadable _ _ _ uncaught => exact absurd (caught _ rfl) (by simp [uncaught])

/-- The handling of a node strands nothing. -/
theorem Recorded.stranded {before after : Coordinator td} (recorded : Recorded before after)
    (stranded : before.Stranded) : after.Stranded := by
  intro state
  rw [recorded.currentTc, recorded.testcase]
  apply stranded
  rcases recorded.state with same | ⟨-, past⟩
  · rw [← same, state]
  · cases past.symm.trans state

/-- A move that raises nothing uncaught strands a session only with an open step. -/
theorem Move.stranded {result : EStateM.Result PyException (Coordinator td) Bool}
    (move : Move c input result) (coherent : Coherent c) (stranded : c.Stranded)
    (caught : ∀ event services exception, input = .event event services →
      raised result = some exception → exception.caughtByHandleControl = true) :
    (finalState result).Stranded := by
  by_cases rests : c.Rests
  · by_cases ends : c.EndsOpen input
    · cases move with
      | answered _ current _ _ _ _ _ _ advance =>
        rw [finalState_andThen_ok]
        refine advance.stranded (by simpa using current) fun exception raises => ?_
        exact caught _ _ exception rfl (raised_andThen raises)
      | ignored | refused => exact rests.stranded
      | recordedEarly _ _ kind | recordedWaiting _ kind | recordedExecuting _ _ _ _ _ kind
      | recordedFinished _ kind | retried _ _ _ kind _ => cases ends.1.symm.trans kind
      | configured _ _ _ | skippedEarly _ _ | started _ _ _ | executed _ _ _ | restarted _ _
      | selected _ | skippedCurrent _ _ _ | skippedOther _ _ _ | skippedInstead _ _ _
      | skippedExecuting _ _ _ _ _ _ _ => cases ends.1
      | timedOut _ | aborted _ _ => cases ends
      | empty _ early state _ _ =>
        refine Rests.stranded ?_
        rw [finalState_error, Rests, state]
        exact rests
    · exact (move.rests coherent rests ends caught).stranded
  · -- The session was stranded before.
    have state : c.state = .preparingNextStep := by
      cases coherent with
      | stuck _ state _ _ _ => exact state
      | setup early _ _ | waiting early _ _ _ =>
        rcases early with state | state <;> rw [Rests, state] at rests <;> exact absurd rfl rests
      | executing _ state _ _ _ | finished state _ _ _ _ =>
        rw [Rests, state] at rests
        exact absurd rfl rests
    cases move with
    | ignored | refused => exact stranded
    | retried _ current _ _ advance =>
      rw [finalState_andThen_ok]
      have advanced := advance.stranded current fun exception raises =>
        caught _ _ exception rfl (raised_andThen (raised_andThen raises))
      exact finalState_andThen advanced fun _ later => (recordNode_recorded _).stranded later
    | aborted _ _ => exact (proceed_rests _).stranded
    | empty _ early _ _ _ | recordedEarly _ early _ | started _ early _
    | recordedWaiting early _ | executed early _ _ | skippedOther early _ _
    | skippedInstead early _ _ => rcases early with wrong | wrong <;> cases state.symm.trans wrong
    | configured _ wrong _ | skippedEarly wrong _ | recordedExecuting wrong _ _ _ _ _
    | recordedFinished wrong _ | timedOut wrong | answered wrong _ _ _ _ _ _ _ _
    | skippedExecuting wrong _ _ _ _ _ _ => cases state.symm.trans wrong
    | restarted accepted _ | selected accepted | skippedCurrent accepted _ _ =>
      rw [state] at accepted
      cases accepted

/-- A session that survives is stranded only with an open step. -/
theorem reached_stranded (reached : Reached upper testsuiteName (Survives upper) c) :
    c.Stranded := by
  have tame (c : Coordinator td) (input : Input) (survives : Survives upper c input) :
      input.Known td ∨ Survives upper c input := .inr survives
  refine reached.invariant ?_ fun c input earlier stranded survives => ?_
  · rw [initial_eq]
    exact Rests.stranded rfl
  · refine (reached_move tame earlier survives).stranded (reached_coherent tame earlier) stranded ?_
    rintro event services exception rfl raises
    exact survives exception raises

/-- **The coordinator rests in a stable state as long as no answer ends a test case with an open
step.** An input that is survived in a stable state ends in one exactly when it is not such an
answer, and a session without such answers goes through stable states only. -/
theorem rests_between_events (upper : String → String) (td : TestDescriptions)
    (testsuiteName : String) :
    (∀ c : Coordinator td, Reached upper testsuiteName (Survives upper) c → c.Rests →
      ∀ input, Survives upper c input →
        ((next upper c input).Rests ↔ ¬ c.EndsOpen input)) ∧
    ∀ c : Coordinator td,
      Reached upper testsuiteName (fun c input => Survives upper c input ∧ ¬ c.EndsOpen input) c →
        c.Rests := by
  have survived {c : Coordinator td} {input : Input} (survives : Survives upper c input)
      (event : Event) (services : Services) (exception : PyException)
      (arrived : input = .event event services)
      (raises : raised (c.handle upper input) = some exception) :
      exception.caughtByHandleControl = true := by
    subst arrived
    exact survives exception raises
  constructor
  · intro c reached rests input survives
    have coherent := reached_coherent (fun _ _ survives => .inr survives) reached
    have move : Move c input (c.handle upper input) :=
      handle_move coherent (oriented coherent (.inr survives))
    constructor
    · exact fun stable ends => ends.not_rests coherent stable
    · exact fun closed => move.rests coherent rests closed (survived survives)
  · intro c reached
    have tame (c : Coordinator td) (input : Input)
        (permitted : Survives upper c input ∧ ¬ c.EndsOpen input) :
        input.Known td ∨ Survives upper c input := .inr permitted.1
    refine reached.invariant ?_ fun c input earlier rests permitted => ?_
    · rw [initial_eq]
      rfl
    · exact (reached_move tame earlier permitted).rests (reached_coherent tame earlier) rests
        permitted.2 (survived permitted.1)

/-- The answer to a stimuli step that has already been passed over ends the first test case of the
small suite with an open step. -/
theorem strayVerify_strands :
    Reached id "coap" (Survives id) (next id stimuliAwaited strayVerify) ∧
      (next id stimuliAwaited strayVerify).Rests ∧
      Survives id (next id stimuliAwaited strayVerify) strayVerify ∧
      ¬ (next id (next id stimuliAwaited strayVerify) strayVerify).Rests := by
  refine ⟨.step stimuliAwaited_reached (by decide +kernel), by decide +kernel, by decide +kernel, ?_⟩
  decide +kernel

end Coordinator

end Ioppytest
