import Ioppytest.TestSuite.Suite

/-!
# Progress of a test case

What the operations of a test case and of a test suite do, stated on the shapes that a test case
takes in a session: pristine, configuring, executing and exhausted. Later modules use these
statements instead of the definitions.
-/

namespace Ioppytest

namespace TestCase

/-- No step has been fetched since the last `reinit`. -/
structure AtStart (tc : TestCase) : Prop where
  /-- No step is the current one. -/
  currentStep : tc.currentStep = none
  /-- The iterator is at the first step. -/
  stepIt : tc.stepIt = 0
  /-- Every step is as `reinit` leaves it. -/
  pristine : ∀ step ∈ tc.sequence, step.Pristine

/-- A test case that is still to be executed. -/
structure Pristine (tc : TestCase) : Prop extends AtStart tc where
  /-- It has no state yet. -/
  state : tc.state = none

/-- A test case that waits for being started. -/
structure Configuring (tc : TestCase) : Prop extends AtStart tc where
  /-- It is being configured. -/
  state : tc.state = some .configuring

/-- A step that the iterator has left behind or is at. -/
def Visited (step : Step) : Prop :=
  if step.type.isExecutable then step.state = some .executing ∨ step.state = some .finished
  else step.state = some .postponed

/-- The iterator divides the steps into visited and pristine ones. -/
structure Ongoing (tc : TestCase) : Prop where
  /-- Steps before the iterator. -/
  visited : ∀ j step, tc.sequence[j]? = some step → j < tc.stepIt → Visited step
  /-- Steps from the iterator on. -/
  ahead : ∀ j step, tc.sequence[j]? = some step → tc.stepIt ≤ j → step.Pristine

/-- A test case whose current step is being executed. -/
structure Executing (tc : TestCase) : Prop extends Ongoing tc where
  /-- It is being executed. -/
  state : tc.state = some .executing
  /-- The current step is the one fetched last, and an IUT is executing it. -/
  current : ∃ k step, tc.currentStep = some k ∧ tc.stepIt = k + 1 ∧
    tc.sequence[k]? = some step ∧ step.state = some .executing ∧ step.type.isExecutable = true

/-- A test case without a step left to execute, whose analysis was not completed. -/
structure Exhausted (tc : TestCase) : Prop extends Ongoing tc where
  /-- It waits for its analysis or was left in it. -/
  state : tc.state = some .readyForAnalysis ∨ tc.state = some .analyzing
  /-- The iterator is at its end. -/
  past : tc.sequence.length ≤ tc.stepIt

/-- A test case that needs nothing or everything. -/
def Settled (tc : TestCase) : Prop :=
  tc.Pristine ∨ ∃ state, tc.state = some state ∧ state.isTerminal = true

/-- A test case that is reinitialised has no state. -/
@[simp] theorem reinit_state (tc : TestCase) : tc.reinit.state = none := rfl

/-- A test case that is reinitialised keeps its report. -/
@[simp] theorem reinit_report (tc : TestCase) : tc.reinit.report = tc.report := rfl

/-- `reinit` makes any test case pristine. -/
theorem reinit_pristine (tc : TestCase) : tc.reinit.Pristine where
  currentStep := rfl
  stepIt := rfl
  state := rfl
  pristine := by
    intro step member
    obtain ⟨earlier, -, rfl⟩ := List.mem_map.mp member
    exact earlier.reinit_pristine

/-- A change of state. -/
@[simp] theorem changeState_state (tc : TestCase) (state : TestCaseState) :
    (tc.changeState state).state = some state := by
  cases state <;> rfl

/-- A change of state keeps the report. -/
@[simp] theorem changeState_report (tc : TestCase) (state : TestCaseState) :
    (tc.changeState state).report = tc.report := by
  cases state <;> rfl

/-- A test case that is aborted. -/
@[simp] theorem abort_state (tc : TestCase) : tc.abort.state = some .aborted := rfl

/-- A test case that is aborted keeps its report. -/
@[simp] theorem abort_report (tc : TestCase) : tc.abort.report = tc.report := rfl

/-- Changing a step changes the step at its position only. -/
theorem modifyStep_getElem? (tc : TestCase) (k : Nat) (change : Step → Step) (j : Nat) :
    (tc.modifyStep k change).sequence[j]? =
      tc.sequence[j]?.map fun step => if k = j then change step else step := by
  simp only [modifyStep, List.getElem?_modify, Option.map_eq_map]

/-- Configuring a pristine test case. -/
theorem Pristine.configuring {tc : TestCase} (pristine : tc.Pristine) :
    (tc.changeState .configuring).Configuring :=
  ⟨⟨pristine.currentStep, pristine.stepIt, pristine.pristine⟩, rfl⟩

/-- Nothing has been visited at the start. -/
theorem AtStart.ongoing {tc : TestCase} (start : tc.AtStart) : tc.Ongoing where
  visited j _ _ before := by
    rw [start.stepIt] at before
    omega
  ahead j step found _ := start.pristine step (List.mem_of_getElem? found)

/-- Starting a test case that is being configured. -/
theorem Configuring.start {tc : TestCase} (configuring : tc.Configuring) :
    (tc.changeState .executing).Ongoing :=
  ⟨configuring.toAtStart.ongoing.visited, configuring.toAtStart.ongoing.ahead⟩

/-- A pristine step is postponed exactly when no IUT executes it. -/
theorem pristine_postponed {step : Step} (pristine : step.Pristine) :
    step.state = some .postponed ↔ step.type.isExecutable = false := by
  rw [pristine.1, Step.initialState]
  cases step.type.isExecutable <;> simp

/-- A pristine step is not being executed. -/
theorem pristine_idle {step : Step} (pristine : step.Pristine) : step.state ≠ some .executing := by
  rw [pristine.1, Step.initialState]
  cases step.type.isExecutable <;> simp

/-- How the iterator finds a step: it passes over postponed ones. -/
theorem nextStepFrom_some {steps : List Step} {tc after : TestCase} {k : Nat}
    (fetched : nextStepFrom steps tc = (some k, after)) :
    ∃ passed step rest, steps = passed ++ step :: rest ∧ k = tc.stepIt + passed.length ∧
      (∀ earlier ∈ passed, earlier.state = some .postponed) ∧ step.state ≠ some .postponed ∧
      after = { tc with currentStep := some k, stepIt := k + 1 }.modifyStep k
        (·.changeState (some .executing)) := by
  induction steps generalizing tc with
  | nil => simp [nextStepFrom] at fetched
  | cons step rest ih =>
    unfold nextStepFrom at fetched
    by_cases postponed : step.state = some .postponed
    · simp only [postponed, ↓reduceIte] at fetched
      obtain ⟨passed, found, later, rfl, position, skipped, ready, rfl⟩ := ih fetched
      refine ⟨step :: passed, found, later, rfl, ?_, ?_, ready, rfl⟩
      · simp only [List.length_cons, position]
        omega
      · intro earlier member
        rcases List.mem_cons.mp member with rfl | inside
        · exact postponed
        · exact skipped earlier inside
    · simp only [postponed, ↓reduceIte, Prod.mk.injEq, Option.some.injEq] at fetched
      obtain ⟨rfl, rfl⟩ := fetched
      exact ⟨[], step, rest, rfl, rfl, by simp, postponed, rfl⟩

/-- How the iterator ends: every step that was left is postponed, and the test case is the same
but for its position. -/
theorem nextStepFrom_none {steps : List Step} {tc after : TestCase}
    (fetched : nextStepFrom steps tc = (none, after)) :
    (∀ step ∈ steps, step.state = some .postponed) ∧
      ∃ currentStep, after = { tc with currentStep, stepIt := tc.stepIt + steps.length } := by
  induction steps generalizing tc with
  | nil =>
    simp only [nextStepFrom, Prod.mk.injEq, true_and] at fetched
    subst fetched
    exact ⟨by simp, tc.currentStep, rfl⟩
  | cons step rest ih =>
    unfold nextStepFrom at fetched
    by_cases postponed : step.state = some .postponed
    · simp only [postponed, ↓reduceIte] at fetched
      obtain ⟨skipped, currentStep, rfl⟩ := ih fetched
      refine ⟨?_, currentStep, ?_⟩
      · intro earlier member
        rcases List.mem_cons.mp member with rfl | inside
        · exact postponed
        · exact skipped earlier inside
      · simp only [List.length_cons, TestCase.mk.injEq, true_and, and_true]
        omega
    · simp [postponed] at fetched

/-- Fetching a step of an ongoing test case executes a pristine step, and everything between it
and the steps visited before is postponed. -/
theorem Ongoing.nextStep_some {tc after : TestCase} {k : Nat} (ongoing : tc.Ongoing)
    (fetched : tc.nextStep = (some k, after)) :
    ∃ step, tc.sequence[k]? = some step ∧ step.Pristine ∧ step.type.isExecutable = true ∧
      tc.stepIt ≤ k ∧
      (∀ j earlier, tc.sequence[j]? = some earlier → tc.stepIt ≤ j → j < k →
        earlier.type.isExecutable = false) ∧
      after = { tc with currentStep := some k, stepIt := k + 1 }.modifyStep k
        (·.changeState (some .executing)) := by
  obtain ⟨passed, step, rest, split, position, skipped, ready, rfl⟩ := nextStepFrom_some fetched
  have located (j : Nat) : tc.sequence[tc.stepIt + j]? = (passed ++ step :: rest)[j]? := by
    rw [← split, List.getElem?_drop]
  have found : tc.sequence[k]? = some step := by
    rw [position, located]
    simp
  have pristine := ongoing.ahead k step found (by omega)
  refine ⟨step, found, pristine, ?_, by omega, ?_, rfl⟩
  · by_contra blocked
    exact ready ((pristine_postponed pristine).mpr (Bool.eq_false_iff.mpr blocked))
  · intro j earlier inside low high
    have member : earlier ∈ passed := by
      have shifted := located (j - tc.stepIt)
      rw [show tc.stepIt + (j - tc.stepIt) = j by omega, inside,
        List.getElem?_append_left (by omega)] at shifted
      exact List.mem_of_getElem? shifted.symm
    exact (pristine_postponed (ongoing.ahead j earlier inside low)).mp (skipped earlier member)

/-- At the end of an ongoing test case no step that an IUT executes is left. -/
theorem Ongoing.nextStep_none {tc after : TestCase} (ongoing : tc.Ongoing)
    (fetched : tc.nextStep = (none, after)) :
    (∀ j step, tc.sequence[j]? = some step → tc.stepIt ≤ j → step.type.isExecutable = false) ∧
      ∃ currentStep stepIt, after = { tc with currentStep, stepIt } ∧
        tc.sequence.length ≤ stepIt := by
  obtain ⟨skipped, currentStep, rfl⟩ := nextStepFrom_none fetched
  refine ⟨?_, currentStep, _, rfl, ?_⟩
  · intro j step found low
    have member : step ∈ tc.sequence.drop tc.stepIt := by
      refine List.mem_of_getElem? (i := j - tc.stepIt) ?_
      rw [List.getElem?_drop, show tc.stepIt + (j - tc.stepIt) = j by omega, found]
    exact (pristine_postponed (ongoing.ahead j step found low)).mp (skipped step member)
  · rw [List.length_drop]
    omega

/-- Without an executable step left, the test case ends. -/
theorem Ongoing.nextStep_over {tc : TestCase} (ongoing : tc.Ongoing)
    (past : ∀ j later, tc.sequence[j]? = some later → tc.stepIt ≤ j →
      later.type.isExecutable = false) : ∃ after, tc.nextStep = (none, after) := by
  cases fetched : tc.nextStep with
  | mk step after =>
    cases step with
    | none => exact ⟨after, rfl⟩
    | some k =>
      obtain ⟨step, found, -, executable, low, -, -⟩ := ongoing.nextStep_some fetched
      rw [past k step found low] at executable
      cases executable

/-- A test case that is started ends at once exactly when no IUT executes a step of it. -/
theorem Configuring.ends_iff {tc : TestCase} (configuring : tc.Configuring) :
    (∃ after, (tc.changeState .executing).nextStep = (none, after)) ↔
      ∀ step ∈ tc.sequence, step.type.isExecutable = false := by
  constructor
  · rintro ⟨after, fetched⟩ step member
    obtain ⟨j, inside⟩ := List.getElem?_of_mem member
    exact (configuring.start.nextStep_none fetched).1 j step inside
      (configuring.stepIt.trans_le (Nat.zero_le j))
  · exact fun blocked => configuring.start.nextStep_over fun j later inside _ =>
      blocked later (List.mem_of_getElem? inside)

/-- A pristine step that no IUT executes counts as visited. -/
theorem visited_of_pristine {step : Step} (pristine : step.Pristine)
    (blocked : step.type.isExecutable = false) : Visited step := by
  simp [Visited, blocked, (pristine_postponed pristine).mpr blocked]

/-- Fetching a step of an ongoing test case leaves it executing that step. -/
theorem Ongoing.execute {tc after : TestCase} {k : Nat} (ongoing : tc.Ongoing)
    (fetched : tc.nextStep = (some k, after)) : (after.changeState .executing).Executing := by
  obtain ⟨step, found, pristine, executable, low, between, rfl⟩ := ongoing.nextStep_some fetched
  refine ⟨⟨?_, ?_⟩, rfl, k, step.changeState (some .executing), rfl, rfl, ?_, rfl, executable⟩
  · intro j other inside before
    obtain ⟨earlier, position, rfl⟩ :=
      Option.map_eq_some_iff.mp ((modifyStep_getElem? _ _ _ _).symm.trans inside)
    have before : j < k + 1 := before
    by_cases same : k = j
    · subst same
      rw [found] at position
      cases position
      simp [Visited, executable]
    · simp only [same, ↓reduceIte]
      by_cases old : j < tc.stepIt
      · exact ongoing.visited j earlier position old
      · exact visited_of_pristine (ongoing.ahead j earlier position (by omega))
          (between j earlier position (by omega) (by omega))
  · intro j other inside after
    obtain ⟨later, position, rfl⟩ :=
      Option.map_eq_some_iff.mp ((modifyStep_getElem? _ _ _ _).symm.trans inside)
    have after : k + 1 ≤ j := after
    have apart : k ≠ j := by omega
    simp only [apart, ↓reduceIte]
    exact ongoing.ahead j later position (by omega)
  · simp [changeState, modifyStep, found]

/-- The end of the iterator leaves an ongoing test case exhausted. -/
theorem Ongoing.exhaust {tc after : TestCase} (ongoing : tc.Ongoing)
    (fetched : tc.nextStep = (none, after)) :
    (after.changeState .readyForAnalysis).Exhausted := by
  obtain ⟨blocked, currentStep, stepIt, rfl, past⟩ := ongoing.nextStep_none fetched
  refine ⟨⟨?_, ?_⟩, .inl rfl, past⟩
  · intro j step found before
    by_cases old : j < tc.stepIt
    · exact ongoing.visited j step found old
    · exact visited_of_pristine (ongoing.ahead j step found (by omega))
        (blocked j step found (by omega))
  · intro j step found after
    have inside := (List.getElem?_eq_some_iff.mp found).1
    have : tc.sequence.length ≤ j := le_trans past after
    exact absurd inside (by simp only [changeState]; omega)

/-- Finishing a visited step that an IUT executes leaves a test case ongoing. -/
theorem Ongoing.finishStep {tc : TestCase} {k : Nat} {step : Step} (change : Step → Step)
    (ongoing : tc.Ongoing) (found : tc.sequence[k]? = some step) (before : k < tc.stepIt)
    (executable : step.type.isExecutable = true) (type : (change step).type = step.type)
    (state : (change step).state = some .finished) : (tc.modifyStep k change).Ongoing where
  visited j other inside low := by
    obtain ⟨earlier, position, rfl⟩ :=
      Option.map_eq_some_iff.mp ((modifyStep_getElem? _ _ _ _).symm.trans inside)
    by_cases same : k = j
    · subst same
      rw [found] at position
      cases position
      simp [Visited, type, executable, state]
    · simp only [same, ↓reduceIte]
      exact ongoing.visited j earlier position low
  ahead j other inside high := by
    have high : tc.stepIt ≤ j := high
    obtain ⟨later, position, rfl⟩ :=
      Option.map_eq_some_iff.mp ((modifyStep_getElem? _ _ _ _).symm.trans inside)
    have apart : k ≠ j := by omega
    simp only [apart, ↓reduceIte]
    exact ongoing.ahead j later position high

/-- An exhausted test case has no further step. -/
theorem Exhausted.nextStep {tc : TestCase} (exhausted : tc.Exhausted) :
    tc.nextStep = (none, tc) := by
  rw [TestCase.nextStep, List.drop_eq_nil_of_le exhausted.past]
  rfl

/-- The analysis of an exhausted test case leaves it exhausted. -/
theorem Exhausted.analyzing {tc : TestCase} (exhausted : tc.Exhausted) :
    tc.analyzing.Exhausted :=
  ⟨⟨exhausted.visited, exhausted.ahead⟩, .inr rfl, exhausted.past⟩

/-- An error message is the whole report. -/
theorem generateTestcaseReport_error (tc : TestCase) (items : List AnalysisItem)
    {message : String} (reason : message ≠ "") :
    tc.generateTestcaseReport items (some message) =
      .ok { tc with report := some ⟨.error, message, []⟩ } := by
  simp [generateTestcaseReport, Option.filter, reason]

/-- The report of a test case that was executed is made of its steps and of the analysis, unless the
check of its steps fails. -/
theorem generateTestcaseReport_executed {tc : TestCase} (items : List AnalysisItem)
    (state : tc.state ≠ none ∧ tc.state ≠ some .skipped ∧ tc.state ≠ some .aborted) :
    tc.generateTestcaseReport items none =
      tc.checkAllStepsFinished.bind fun finished =>
        if finished = false then .ok tc
        else (analysisReport tc.sequence items).map fun report =>
          { tc with report := some report } := by
  have executed : ¬ (tc.state = none ∨ tc.state = some .skipped ∨ tc.state = some .aborted) := by
    rintro (wrong | wrong | wrong)
    exacts [state.1 wrong, state.2.1 wrong, state.2.2 wrong]
  simp only [generateTestcaseReport, Option.filter_none, if_neg executed]
  cases tc.checkAllStepsFinished with
  | error exception => rfl
  | ok finished =>
    cases finished with
    | false => rfl
    | true => cases analysisReport tc.sequence items <;> rfl

/-- The report of a test case under analysis. -/
theorem generateTestcaseReport_analyzing {tc : TestCase} (items : List AnalysisItem)
    (state : tc.state = some .analyzing) (past : tc.checkAllStepsFinished = .ok true) :
    tc.generateTestcaseReport items none =
      (analysisReport tc.sequence items).map fun report => { tc with report := some report } := by
  rw [generateTestcaseReport_executed items (by simp [state]), past]
  rfl

end TestCase

namespace TestSuite

variable {td : TestDescriptions}

/-- Changing a test case changes no other one. -/
@[simp] theorem modify_testcase (ts : TestSuite td) (i : Fin td.size)
    (change : TestCase → TestCase) :
    (ts.modify i change).testcase = Function.update ts.testcase i (change (ts.testcase i)) := rfl

/-- Changing a test case leaves the others as they are. -/
theorem modify_testcase_of_ne (ts : TestSuite td) {i j : Fin td.size}
    (change : TestCase → TestCase) (apart : j ≠ i) :
    (ts.modify i change).testcase j = ts.testcase j :=
  Function.update_of_ne apart _ _

/-- Changing a test case leaves which one is current. -/
@[simp] theorem modify_currentTc (ts : TestSuite td) (i : Fin td.size)
    (change : TestCase → TestCase) : (ts.modify i change).currentTc = ts.currentTc := rfl

/-- Changing a test case leaves the nodes. -/
@[simp] theorem modify_nodesConfigured (ts : TestSuite td) (i : Fin td.size)
    (change : TestCase → TestCase) :
    (ts.modify i change).nodesConfigured = ts.nodesConfigured := rfl

/-- Changing a test case leaves the report of the session. -/
@[simp] theorem modify_report (ts : TestSuite td) (i : Fin td.size)
    (change : TestCase → TestCase) : (ts.modify i change).report = ts.report := rfl

/-- Two changes of one test case are one change. -/
@[simp] theorem modify_modify (ts : TestSuite td) (i : Fin td.size)
    (first second : TestCase → TestCase) :
    (ts.modify i first).modify i second = ts.modify i fun tc => second (first tc) := by
  simp only [modify, Function.update_self, Function.update_idem]

/-- `go_to_testcase` of a test case of the suite. -/
theorem goToTestcase_id (ts : TestSuite td) (i : Fin td.size) :
    ts.goToTestcase (td.id i) = .ok ({ ts with currentTc := some i }.modify i .reinit) := by
  simp [goToTestcase, getTestcase]

/-- The first test case in state `None`. -/
def pending (ts : TestSuite td) : Option (Fin td.size) :=
  if nonempty : 0 < td.size then
    CyclicSearch.search (fun i => (ts.testcase i).state.isNone) td.size ⟨0, nonempty⟩
  else none

/-- `next_testcase` makes the first test case in state `None` the current one. -/
theorem nextTestcase_eq (ts : TestSuite td) (nonempty : 0 < td.size) :
    ts.nextTestcase = .ok (ts.pending, { ts with currentTc := ts.pending }) := by
  simp only [nextTestcase, pending, nonempty, ↓reduceDIte]

/-- The pending test case is the first one in state `None`. -/
theorem pending_eq_some {ts : TestSuite td} {i : Fin td.size} :
    ts.pending = some i ↔
      (ts.testcase i).state = none ∧ ∀ j, j < i → (ts.testcase j).state ≠ none := by
  have nonempty : 0 < td.size := i.pos
  simp only [pending, nonempty, ↓reduceDIte]
  rw [CyclicSearch.search_eq_some rfl]
  simp only [Option.isNone_iff_eq_none, Option.isNone_eq_false_iff, Option.isSome_iff_ne_none]

/-- Without a pending test case none is in state `None`. -/
theorem pending_eq_none {ts : TestSuite td} :
    ts.pending = none ↔ ∀ i, (ts.testcase i).state ≠ none := by
  unfold pending
  split
  · rw [CyclicSearch.search_eq_none rfl]
    simp only [Option.isNone_eq_false_iff, Option.isSome_iff_ne_none]
  · rename_i empty
    exact ⟨fun _ i => absurd i.pos empty, fun _ => rfl⟩

/-- Skip a test case unless it is skipped already. -/
def skip (ts : TestSuite td) (i : Fin td.size) : TestSuite td :=
  if (ts.testcase i).state = some .skipped then ts
  else
    let skipped := ts.modify i (·.changeState .skipped)
    if ts.currentTc = some i then { skipped with currentTc := none } else skipped

/-- `skip_testcase` of a test case that is found. -/
theorem skipTestcase_found {ts : TestSuite td} {testcaseId : Option String} {i : Fin td.size}
    (found : (ts.getTestcase testcaseId).or ts.currentTc = some i) :
    ts.skipTestcase testcaseId = .ok (ts.skip i) := by
  simp only [skipTestcase, found, skip]
  split <;> rfl

/-- Skipping a test case without a current one leaves the others alone. -/
theorem skip_idle {ts : TestSuite td} {i : Fin td.size} (idle : ts.currentTc = none) :
    ts.skip i = ts ∨ ts.skip i = ts.modify i (·.changeState .skipped) := by
  unfold skip
  split
  · exact .inl rfl
  · rw [idle]
    exact .inr rfl

/-- Skipping changes the skipped test case only, and only once. -/
theorem skip_testcase (ts : TestSuite td) (j k : Fin td.size) :
    (ts.skip j).testcase k =
      if k = j ∧ (ts.testcase j).state ≠ some .skipped then (ts.testcase j).changeState .skipped
      else ts.testcase k := by
  unfold TestSuite.skip
  by_cases skipped : (ts.testcase j).state = some .skipped
  · simp [skipped]
  · by_cases same : k = j
    · subst same
      by_cases current : ts.currentTc = some k <;> simp [skipped, current]
    · by_cases current : ts.currentTc = some j <;> simp [skipped, current, same]

/-- What the guard of the `finish_*_step` methods says when a step is being executed. -/
theorem awaits_executing {ts : TestSuite td} {i : Fin td.size} {k : Nat} {step : Step}
    (current : ts.currentTc = some i) (at_step : (ts.testcase i).currentStep = some k)
    (found : (ts.testcase i).sequence[k]? = some step) (executing : step.state = some .executing)
    (type : StepType) : ts.awaits type = (step.type == type) := by
  have here : ts.getCurrentStep = some step := by
    simp [getCurrentStep, current, TestCase.step?, at_step, found]
  simp [awaits, getCurrentStepState, here, executing]

/-- Changing the current step. -/
theorem modifyCurrentStep_eq {ts : TestSuite td} {i : Fin td.size} {k : Nat}
    (current : ts.currentTc = some i) (at_step : (ts.testcase i).currentStep = some k)
    (change : Step → Step) :
    ts.modifyCurrentStep change = ts.modify i (·.modifyStep k change) := by
  simp only [modifyCurrentStep, current, at_step]

/-- What the configuration of a suite may change: test cases may be skipped, and the fields about
the session are set. -/
structure SkippedFrom (before after : TestSuite td) : Prop where
  /-- Each test case is the same or skipped. -/
  testcase : ∀ i, after.testcase i = before.testcase i ∨
    after.testcase i = (before.testcase i).changeState .skipped
  /-- No test case is the current one. -/
  currentTc : after.currentTc = none
  /-- The nodes are the same. -/
  nodesConfigured : after.nodesConfigured = before.nodesConfigured
  /-- Their addresses are the same. -/
  addressingTable : after.addressingTable = before.addressingTable

/-- Skipping known test cases in order never raises. -/
theorem skipAll {ids : List String} (known : ∀ id ∈ ids, ∃ i : Fin td.size, td.id i = id)
    {before start : TestSuite td} (skipped : SkippedFrom before start) :
    ∃ after, ids.foldlM (fun ts id => ts.skipTestcase (some id)) start =
      (.ok after : Except PyException (TestSuite td)) ∧ SkippedFrom before after := by
  induction ids generalizing start with
  | nil => exact ⟨start, rfl, skipped⟩
  | cons id rest ih =>
    obtain ⟨i, rfl⟩ := known id List.mem_cons_self
    have step : start.skipTestcase (some (td.id i)) = .ok (start.skip i) :=
      skipTestcase_found (by simp [getTestcase])
    have kept : SkippedFrom before (start.skip i) := by
      rcases skip_idle (i := i) skipped.currentTc with same | changed
      · rw [same]
        exact skipped
      · rw [changed]
        refine ⟨fun j => ?_, skipped.currentTc, skipped.nodesConfigured,
          skipped.addressingTable⟩
        by_cases here : j = i
        · subst here
          rw [modify_testcase, Function.update_self]
          rcases skipped.testcase j with equal | equal
          · exact .inr (by rw [equal])
          · refine .inr ?_
            rw [equal]
            simp only [TestCase.changeState, List.map_map]
            congr 1
        · rw [modify_testcase_of_ne _ _ here]
          exact skipped.testcase j
    obtain ⟨after, run, result⟩ :=
      ih (fun other member => known other (List.mem_cons_of_mem _ member)) kept
    refine ⟨after, ?_, result⟩
    rw [List.foldlM_cons, step]
    exact run

/-- Configuring a suite without a current test case never raises. -/
theorem configureTestsuite_ok (upper : String → String) (ts : TestSuite td)
    (tcListRequested : List String) (sessionId : Option String) (users : Option (List String))
    (configuration : Option SessionConfiguration) (idle : ts.currentTc = none) :
    ∃ after, ts.configureTestsuite upper tcListRequested sessionId users configuration =
      .ok after ∧ SkippedFrom ts after := by
  have start : SkippedFrom ts { ts with
      sessionId
      sessionUsers := users
      sessionConfiguration := configuration
      sessionSelectedTcList := some (tcListRequested.map upper) } :=
    ⟨fun _ => .inl rfl, idle, rfl, rfl⟩
  unfold configureTestsuite
  split
  · exact ⟨_, rfl, start⟩
  · refine skipAll (fun id member => ?_) start
    have inside := List.mem_filter.mp ((List.mem_insertionSort _).mp member)
    obtain ⟨i, -, same⟩ := List.mem_map.mp inside.1
    exact ⟨i, same⟩

/-- Starting a suite without a current test case never raises, and leaves every test case
pristine or skipped. -/
theorem reinit_ok (upper : String → String) (ts : TestSuite td) (idle : ts.currentTc = none) :
    ∃ after, ts.reinit upper = .ok after ∧
      SkippedFrom { ts with testcase := fun i => (ts.testcase i).reinit } after := by
  have reset : SkippedFrom { ts with testcase := fun i => (ts.testcase i).reinit }
      { ts with testcase := fun i => (ts.testcase i).reinit } :=
    ⟨fun _ => .inl rfl, idle, rfl, rfl⟩
  unfold reinit
  cases ts.sessionSelectedTcList.filter (· ≠ []) with
  | none => exact ⟨_, rfl, reset⟩
  | some selection =>
    exact configureTestsuite_ok upper _ selection none none none idle

end TestSuite

end Ioppytest
