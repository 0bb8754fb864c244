import Ioppytest.TestCoordinator.Endings
import Ioppytest.TestCoordinator.Sessions
import Mathlib.Data.List.Basic

/-!
# The iteration over the steps

Calls of `next_step`, each step being finished before the next call, return the stimuli and verify
steps in order and nothing after the last one. What is left for the iterator at any time is the rest
of the positions of these steps, whatever other steps stand between them.
-/

namespace Ioppytest

namespace TestCase

/-- The positions of the steps that an IUT executes. -/
def executables (types : List StepType) : List Nat := types.findIdxs StepType.isExecutable

/-- What the iterator at a position has left. -/
theorem findIdxs_drop {types : List StepType} {start k : Nat} {type : StepType}
    (found : types[k]? = some type) (executable : type.isExecutable = true) (low : start ≤ k)
    (between : ∀ j other, types[j]? = some other → start ≤ j → j < k →
      other.isExecutable = false) :
    (types.drop start).findIdxs StepType.isExecutable start =
      k :: (types.drop (k + 1)).findIdxs StepType.isExecutable (k + 1) := by
  have inside : k < types.length := (List.getElem?_eq_some_iff.mp found).1
  induction distance : k - start generalizing start with
  | zero =>
    obtain rfl : start = k := by omega
    obtain ⟨_, here⟩ := List.getElem?_eq_some_iff.mp found
    rw [List.drop_eq_getElem_cons inside, List.findIdxs_cons, here, if_pos executable]
  | succ steps ih =>
    have before : start < types.length := by omega
    have passed := between start types[start] (List.getElem?_eq_getElem before) (le_refl _)
      (by omega)
    rw [List.drop_eq_getElem_cons before, List.findIdxs_cons, passed, if_neg (by simp)]
    exact ih (by omega) (fun j other inside low high => between j other inside (by omega) high)
      (by omega)

/-- Nothing is left of steps that no IUT executes. -/
theorem findIdxs_drop_nil {types : List StepType} {start : Nat} :
    (types.drop start).findIdxs StepType.isExecutable start = [] ↔
      ∀ j type, types[j]? = some type → start ≤ j → type.isExecutable = false := by
  rw [List.findIdxs_eq_nil_iff]
  constructor
  · intro blocked j type found low
    refine blocked type (List.mem_of_getElem? (i := j - start) ?_)
    rw [List.getElem?_drop, show start + (j - start) = j by omega, found]
  · intro blocked type member
    obtain ⟨j, found⟩ := List.getElem?_of_mem member
    rw [List.getElem?_drop] at found
    exact blocked _ type found (Nat.le_add_right _ _)

/-- Every step that an IUT executes is finished. -/
def Done (tc : TestCase) : Prop :=
  ∀ step ∈ tc.sequence, step.type.isExecutable = true → step.state = some .finished

/-- The first steps have been returned and finished. -/
structure Returned (types : List StepType) (calls : Nat) (tc : TestCase) : Prop
    extends Ongoing tc where
  /-- The steps are those of the test case. -/
  described : tc.sequence.map (·.type) = types
  /-- None of them is being executed. -/
  idle : ∀ step ∈ tc.sequence, step.state ≠ some .executing
  /-- The iterator is at what the calls have left. -/
  remaining : (executables types).drop calls =
    (types.drop tc.stepIt).findIdxs StepType.isExecutable tc.stepIt

variable {tc after : TestCase} {types : List StepType} {calls k : Nat}

/-- The other steps stay postponed. -/
theorem Ongoing.postponed (ongoing : tc.Ongoing) {step : Step} (member : step ∈ tc.sequence)
    (blocked : step.type.isExecutable = false) : step.state = some .postponed := by
  obtain ⟨j, found⟩ := List.getElem?_of_mem member
  by_cases past : j < tc.stepIt
  · have visited := ongoing.visited j step found past
    rwa [Visited, if_neg (by simp [blocked])] at visited
  · exact (pristine_postponed (ongoing.ahead j step found (Nat.le_of_not_lt past))).mpr blocked

/-- The check of the steps tells whether all that an IUT executes are finished. -/
theorem Ongoing.checkAllStepsFinished_iff (ongoing : tc.Ongoing) (nonempty : tc.sequence ≠ []) :
    ∃ answer, tc.checkAllStepsFinished = .ok answer ∧ (answer = true ↔ tc.Done) := by
  have checked : tc.checkAllStepsFinished =
      .ok (tc.sequence.all fun step => !stepUnfinished step) := by
    unfold TestCase.checkAllStepsFinished
    cases steps : tc.sequence with
    | nil => exact absurd steps nonempty
    | cons first rest => rfl
  refine ⟨_, checked, ?_⟩
  rw [List.all_eq_true]
  refine forall_congr' fun step => forall_congr' fun member => ?_
  cases executable : step.type.isExecutable with
  | false =>
    have postponed := ongoing.postponed member executable
    simp [stepUnfinished, postponed]
  | true =>
    obtain ⟨j, found⟩ := List.getElem?_of_mem member
    by_cases past : j < tc.stepIt
    · have visited := ongoing.visited j step found past
      rw [Visited, if_pos executable] at visited
      rcases visited with state | state <;> simp [stepUnfinished, state]
    · have pristine := ongoing.ahead j step found (Nat.le_of_not_lt past)
      have state : step.state = none := by simp [pristine.1, Step.initialState, executable]
      simp [stepUnfinished, state]

/-- Where a step stands, its type does. -/
theorem Returned.type_of_step (returned : tc.Returned types calls) {j : Nat} {step : Step}
    (found : tc.sequence[j]? = some step) : types[j]? = some step.type := by
  rw [← returned.described, List.getElem?_map, found]
  rfl

/-- Where a type stands, a step does. -/
theorem Returned.step_of_type (returned : tc.Returned types calls) {j : Nat} {type : StepType}
    (found : types[j]? = some type) : ∃ step, tc.sequence[j]? = some step ∧ step.type = type := by
  rw [← returned.described, List.getElem?_map] at found
  exact Option.map_eq_some_iff.mp found

/-- All are finished exactly when there have been calls for all. -/
theorem Returned.done_iff (returned : tc.Returned types calls) :
    tc.Done ↔ (executables types).length ≤ calls := by
  rw [← List.drop_eq_nil_iff, returned.remaining, findIdxs_drop_nil]
  constructor
  · intro done j type found low
    obtain ⟨step, inside, rfl⟩ := returned.step_of_type found
    have pristine := returned.ahead j step inside low
    by_contra executable
    have state := done step (List.mem_of_getElem? inside) (by simpa using executable)
    rw [pristine.1, Step.initialState] at state
    split at state <;> cases state
  · intro blocked step member executable
    obtain ⟨j, found⟩ := List.getElem?_of_mem member
    by_cases past : j < tc.stepIt
    · have visited := returned.visited j step found past
      rw [Visited, if_pos executable] at visited
      exact visited.resolve_left (returned.idle step member)
    · have wrong := blocked j step.type (returned.type_of_step found) (Nat.le_of_not_lt past)
      cases executable.symm.trans wrong

/-- The step that is returned is the next one. -/
theorem Returned.nextStep_some (returned : tc.Returned types calls)
    (fetched : tc.nextStep = (some k, after)) :
    (executables types)[calls]? = some k ∧
      (executables types).drop (calls + 1) =
        (types.drop (k + 1)).findIdxs StepType.isExecutable (k + 1) := by
  obtain ⟨step, found, -, executable, low, between, -⟩ :=
    returned.toOngoing.nextStep_some fetched
  have rest := findIdxs_drop (returned.type_of_step found) executable low
    fun j type inside low high => by
      obtain ⟨earlier, position, rfl⟩ := returned.step_of_type inside
      exact between j earlier position low high
  rw [← returned.remaining] at rest
  refine ⟨?_, ?_⟩
  · rw [← Nat.add_zero calls, ← List.getElem?_drop, rest]
    rfl
  · rw [← List.drop_drop, rest]
    rfl

/-- Without a step returned there is none left. -/
theorem Returned.nextStep_none (returned : tc.Returned types calls)
    (fetched : tc.nextStep = (none, after)) :
    (executables types).length ≤ calls := by
  rw [← List.drop_eq_nil_iff, returned.remaining, findIdxs_drop_nil]
  intro j type found low
  obtain ⟨step, inside, rfl⟩ := returned.step_of_type found
  exact (returned.toOngoing.nextStep_none fetched).1 j step inside low

/-- A call at the end changes nothing that matters. -/
theorem Returned.exhaust (returned : tc.Returned types calls)
    (fetched : tc.nextStep = (none, after)) : after.Returned types (calls + 1) := by
  have few := returned.nextStep_none fetched
  have ongoing := returned.toOngoing.exhaust fetched
  obtain ⟨-, currentStep, stepIt, rfl, past⟩ := returned.toOngoing.nextStep_none fetched
  refine ⟨⟨ongoing.visited, ongoing.ahead⟩, returned.described, returned.idle, ?_⟩
  have length : types.length ≤ stepIt := by
    rw [← returned.described, List.length_map]
    exact past
  rw [List.drop_eq_nil_of_le (by omega), List.drop_eq_nil_of_le length]
  rfl

/-- A step that is returned is being executed. -/
theorem Returned.executing (returned : tc.Returned types calls)
    (fetched : tc.nextStep = (some k, after)) :
    after.Ongoing ∧ ∃ step, tc.sequence[k]? = some step ∧ step.type.isExecutable = true ∧
      after.currentStep = some k ∧
        after.sequence[k]? = some (step.changeState (some .executing)) := by
  have ongoing := (returned.toOngoing.execute fetched).toOngoing
  obtain ⟨step, found, -, executable, -, -, rfl⟩ := returned.toOngoing.nextStep_some fetched
  refine ⟨⟨ongoing.visited, ongoing.ahead⟩, step, found, executable, rfl, ?_⟩
  rw [modifyStep_getElem?]
  simp [found]

/-- Once it is finished, one more has been returned and finished. -/
theorem Returned.finish (returned : tc.Returned types calls)
    (fetched : tc.nextStep = (some k, after)) {change : Step → Step}
    (type : ∀ step, (change step).type = step.type)
    (state : ∀ step, (change step).state = some .finished) :
    (after.modifyStep k change).Returned types (calls + 1) := by
  obtain ⟨ongoing, step, found, executable, -, here⟩ := returned.executing fetched
  have rest := (returned.nextStep_some fetched).2
  obtain ⟨-, -, -, -, -, -, rfl⟩ := returned.toOngoing.nextStep_some fetched
  refine ⟨ongoing.finishStep change here (Nat.lt_succ_self k) executable (type _) (state _), ?_,
    ?_, rest⟩
  · rw [← returned.described]
    apply List.ext_getElem?
    intro j
    rw [List.getElem?_map, List.getElem?_map, modifyStep_getElem?, modifyStep_getElem?,
      Option.map_map, Option.map_map]
    refine congrArg (Option.map · _) ?_
    funext other
    by_cases same : k = j <;> simp [same, type]
  · intro other member executing
    obtain ⟨j, inside⟩ := List.getElem?_of_mem member
    obtain ⟨earlier, position, rfl⟩ :=
      Option.map_eq_some_iff.mp ((modifyStep_getElem? _ _ _ _).symm.trans inside)
    by_cases same : k = j
    · rw [if_pos same, state] at executing
      cases executing
    · rw [if_neg same] at executing
      obtain ⟨first, origin, rfl⟩ :=
        Option.map_eq_some_iff.mp ((modifyStep_getElem? _ _ _ _).symm.trans position)
      rw [if_neg same] at executing
      exact returned.idle first (List.mem_of_getElem? origin) executing

/-- After `reinit` there have been no calls. -/
theorem reinit_returned (tc : TestCase) :
    tc.reinit.Returned (tc.sequence.map (·.type)) 0 := by
  have start := tc.reinit_pristine.toAtStart
  refine ⟨start.ongoing, ?_, fun step member => pristine_idle (start.pristine step member), rfl⟩
  simp [reinit, Function.comp_def]

end TestCase

namespace TestSuite

variable {td : TestDescriptions}

/-- The current step is finished by the method for its type; a verify step with an answer. -/
def finishStep (ts : TestSuite td) (verifyResponse : Bool) : TestSuite td :=
  if ts.awaits .stimuli then ts.finishStimuliStep
  else (ts.finishVerifyStep (some verifyResponse)).toOption.getD ts

/-- A call of `next_step`; the step that it returns is finished before the next call. -/
def callNextStep (ts : TestSuite td) (verifyResponse : Bool) : TestSuite td :=
  match ts.nextStep with
  | (some _, after) => after.finishStep verifyResponse
  | (none, after) => after

/-- What the next call returns and leaves, after some calls. -/
structure Iterates (ts : TestSuite td) (i : Fin td.size) (executables : List Nat) (calls : Nat) :
    Prop where
  /-- It returns the next step that an IUT executes, and none after the last one. -/
  returned : ts.nextStep.1 = executables[calls]?
  /-- The step that it returns is being executed. -/
  executing : ∀ k, ts.nextStep.1 = some k →
    ∃ step, (ts.nextStep.2.testcase i).sequence[k]? = some step ∧
      step.type.isExecutable = true ∧ step.state = some .executing
  /-- The other steps are postponed before it and after it. -/
  postponed : ∀ tc ∈ [ts.testcase i, ts.nextStep.2.testcase i], ∀ step ∈ tc.sequence,
    step.type.isExecutable = false → step.state = some .postponed
  /-- Before it and after it, all steps count as finished exactly when those that an IUT executes
  have been returned and finished. -/
  finished : ∀ tc ∈ [ts.testcase i, ts.nextStep.2.testcase i],
    ∃ answer, tc.checkAllStepsFinished = .ok answer ∧
      (answer = true ↔ executables.length ≤ calls) ∧ (answer = true ↔ tc.Done)

variable {ts : TestSuite td} {i : Fin td.size} {types : List StepType} {calls : Nat}

/-- A call of `next_step` for the current test case. -/
theorem nextStep_current (current : ts.currentTc = some i) :
    ts.nextStep = ((ts.testcase i).nextStep.1, ts.modify i fun tc => tc.nextStep.2) := by
  rw [TestSuite.nextStep, current]

/-- The step that is being executed is finished. -/
theorem finishStep_eq {step : Step} {k : Nat} (current : ts.currentTc = some i)
    (at_step : (ts.testcase i).currentStep = some k)
    (found : (ts.testcase i).sequence[k]? = some step) (executing : step.state = some .executing)
    (executable : step.type.isExecutable = true) (verifyResponse : Bool) :
    ∃ change : Step → Step, (∀ other, (change other).type = other.type) ∧
      (∀ other, (change other).state = some .finished) ∧
        ts.finishStep verifyResponse = ts.modify i (·.modifyStep k change) := by
  have guard := awaits_executing current at_step found executing
  unfold finishStep
  cases type : step.type with
  | stimuli =>
    refine ⟨(·.changeState (some .finished)), fun _ => rfl, fun _ => rfl, ?_⟩
    have stimuli : ts.awaits .stimuli = true := by
      rw [guard, type]
      rfl
    rw [if_pos stimuli, finishStimuliStep, if_pos stimuli, modifyCurrentStep_eq current at_step]
  | verify =>
    refine ⟨(·.verified verifyResponse), fun other => other.verified_type verifyResponse,
      fun _ => rfl, ?_⟩
    have other : ¬ ts.awaits .stimuli = true := by
      rw [guard, type]
      decide
    have verify : ts.awaits .verify = true := by
      rw [guard, type]
      rfl
    rw [if_neg other, finishVerifyStep, if_pos verify]
    exact modifyCurrentStep_eq current at_step _
  | check | feature =>
    rw [type] at executable
    cases executable

/-- One call more. -/
theorem returned_step (current : ts.currentTc = some i)
    (returned : (ts.testcase i).Returned types calls) (verifyResponse : Bool) :
    (ts.callNextStep verifyResponse).currentTc = some i ∧
      ((ts.callNextStep verifyResponse).testcase i).Returned types (calls + 1) := by
  unfold callNextStep
  rw [nextStep_current current]
  cases fetched : (ts.testcase i).nextStep with
  | mk step after =>
    have here : ((ts.modify i fun tc => tc.nextStep.2).testcase i) = after := by
      rw [modify_testcase, Function.update_self, fetched]
    cases step with
    | none => exact ⟨current, by rw [here]; exact returned.exhaust fetched⟩
    | some k =>
      obtain ⟨-, step, -, executable, at_step, found⟩ := returned.executing fetched
      have position : ((ts.modify i fun tc => tc.nextStep.2).testcase i).sequence[k]? =
          some (step.changeState (some .executing)) := by rw [here, found]
      have pointer : ((ts.modify i fun tc => tc.nextStep.2).testcase i).currentStep = some k := by
        rw [here, at_step]
      have still : (ts.modify i fun tc => tc.nextStep.2).currentTc = some i := current
      obtain ⟨change, type, state, finished⟩ :=
        finishStep_eq still pointer position rfl executable verifyResponse
      dsimp only
      rw [finished]
      refine ⟨current, ?_⟩
      rw [modify_testcase, Function.update_self, here]
      exact returned.finish fetched type state

/-- Whatever the answers, each call adds one. -/
theorem returned_run (current : ts.currentTc = some i)
    (returned : (ts.testcase i).Returned types calls) (verifyResponses : List Bool) :
    (verifyResponses.foldl callNextStep ts).currentTc = some i ∧
      ((verifyResponses.foldl callNextStep ts).testcase i).Returned types
        (calls + verifyResponses.length) := by
  induction verifyResponses generalizing ts calls with
  | nil => exact ⟨current, returned⟩
  | cons response rest ih =>
    obtain ⟨still, more⟩ := returned_step current returned response
    have later := ih still more
    rwa [Nat.add_assoc, Nat.add_comm 1] at later

/-- The next call returns and leaves what it should. -/
theorem returned_iterates (current : ts.currentTc = some i)
    (returned : (ts.testcase i).Returned types calls) (nonempty : types ≠ []) :
    ts.Iterates i (TestCase.executables types) calls := by
  have some_step : (ts.testcase i).sequence ≠ [] := fun wrong => nonempty (by
    rw [← returned.described, wrong]
    rfl)
  obtain ⟨answer, checked, answered⟩ := returned.toOngoing.checkAllStepsFinished_iff some_step
  have before := answered.trans returned.done_iff
  have called := nextStep_current current
  have here : ts.nextStep.2.testcase i = (ts.testcase i).nextStep.2 := by
    rw [called, modify_testcase, Function.update_self]
  have step : ts.nextStep.1 = (ts.testcase i).nextStep.1 := by rw [called]
  cases fetched : (ts.testcase i).nextStep with
  | mk found after =>
    rw [fetched] at here step
    cases found with
    | none =>
      have few := returned.nextStep_none fetched
      have exhausted := returned.exhaust fetched
      obtain ⟨-, currentStep, stepIt, same, -⟩ := returned.toOngoing.nextStep_none fetched
      have same_check : after.checkAllStepsFinished = .ok answer := by
        rw [← checked, same]
        rfl
      refine ⟨?_, ?_, ?_, ?_⟩
      · rw [step, List.getElem?_eq_none few]
      · intro k wrong
        rw [step] at wrong
        cases wrong
      · rw [here]
        intro tc member
        rcases List.mem_pair.mp member with rfl | rfl
        · exact fun step inside => returned.toOngoing.postponed inside
        · exact fun step inside => exhausted.toOngoing.postponed inside
      · rw [here]
        intro tc member
        rcases List.mem_pair.mp member with rfl | rfl
        · exact ⟨answer, checked, before, answered⟩
        · refine ⟨answer, same_check, before, ?_⟩
          rw [same]
          exact answered
    | some k =>
      obtain ⟨position, -⟩ := returned.nextStep_some fetched
      obtain ⟨ongoing, first, origin, executable, -, executing⟩ := returned.executing fetched
      have inside := List.mem_of_getElem? executing
      have undone : ¬ after.Done := fun done => by
        have wrong := done _ inside executable
        cases wrong
      have more : ¬ (TestCase.executables types).length ≤ calls := by
        have := (List.getElem?_eq_some_iff.mp position).1
        omega
      refine ⟨?_, ?_, ?_, ?_⟩
      · rw [step, position]
      · intro other same
        rw [step] at same
        obtain rfl := Option.some.inj same
        rw [here]
        exact ⟨_, executing, executable, rfl⟩
      · rw [here]
        intro tc member
        rcases List.mem_pair.mp member with rfl | rfl
        · exact fun step inside => returned.toOngoing.postponed inside
        · exact fun step inside => ongoing.postponed inside
      · rw [here]
        intro tc member
        rcases List.mem_pair.mp member with rfl | rfl
        · exact ⟨answer, checked, before, answered⟩
        · refine ⟨false, TestCase.checkAllStepsFinished_open ⟨_, inside, rfl⟩, ?_, ?_⟩
          · exact iff_of_false Bool.false_ne_true more
          · exact iff_of_false Bool.false_ne_true undone

/-- **The iteration over the steps is exact**: after `reinit` and any number of calls, the steps
being finished with any answers. -/
theorem iteration_exact (ts : TestSuite td) (i : Fin td.size) (current : ts.currentTc = some i)
    (nonempty : (ts.testcase i).sequence ≠ []) (verifyResponses : List Bool) :
    (verifyResponses.foldl callNextStep (ts.modify i (·.reinit))).Iterates i
      (TestCase.executables ((ts.testcase i).sequence.map (·.type))) verifyResponses.length := by
  have start : ((ts.modify i (·.reinit)).testcase i).Returned
      ((ts.testcase i).sequence.map (·.type)) 0 := by
    rw [modify_testcase, Function.update_self]
    exact (ts.testcase i).reinit_returned
  have pointer : (ts.modify i (·.reinit)).currentTc = some i := current
  obtain ⟨still, returned⟩ := returned_run pointer start verifyResponses
  rw [Nat.zero_add] at returned
  exact returned_iterates still returned (by simpa using nonempty)

/-- The first test case of the small suite after one call. -/
theorem iteration_exact_small :
    ([true].foldl callNextStep
      ({ TestSuite.new Coordinator.smallSuite with currentTc := some Coordinator.smallFirst }.modify
        Coordinator.smallFirst (·.reinit))).Iterates Coordinator.smallFirst [0, 2] 1 :=
  iteration_exact { TestSuite.new Coordinator.smallSuite with
    currentTc := some Coordinator.smallFirst } Coordinator.smallFirst rfl (by decide) [true]

end TestSuite

end Ioppytest
