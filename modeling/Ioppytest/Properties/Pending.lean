import Ioppytest.TestCoordinator.Sessions

/-!
# Which test case is next, and whether there is one

Both searches go round the test cases with a countdown. The one for the next test case finds the
first one without a state. The one that tells whether the suite is finished has its own list of
unfinished states, which leaves out the two in which a test case waits for being started.
-/

namespace Ioppytest

namespace TestSuite

open Coordinator

variable {td : TestDescriptions}

/-- **The next test case is the first one without a state**, which becomes the current one; without
one there is no current test case. Nothing else changes. -/
theorem nextTestcase_first (ts : TestSuite td) (nonempty : 0 < td.size) :
    ∃ found, ts.nextTestcase = .ok (found, { ts with currentTc := found }) ∧
      (∀ i, found = some i ↔
        (ts.testcase i).state = none ∧ ∀ j, j < i → (ts.testcase j).state ≠ none) ∧
      (found = none ↔ ∀ i, (ts.testcase i).state ≠ none) :=
  ⟨ts.pending, nextTestcase_eq ts nonempty, fun _ => pending_eq_some, pending_eq_none⟩

/-- The first of two test cases is finished, and the second one has not begun. -/
def firstFinished : TestSuite smallSuite :=
  { TestSuite.new smallSuite with currentTc := some smallFirst }.modify smallFirst
    (·.changeState .finished)

/-- The second one is next. -/
theorem nextTestcase_first_small :
    ∃ found, firstFinished.nextTestcase = .ok (found, { firstFinished with currentTc := found }) ∧
      (∀ i, found = some i ↔ (firstFinished.testcase i).state = none ∧
        ∀ j, j < i → (firstFinished.testcase j).state ≠ none) ∧
      (found = none ↔ ∀ i, (firstFinished.testcase i).state ≠ none) :=
  nextTestcase_first firstFinished (by decide)

/-- A test case needs nothing more. -/
def Ended (ts : TestSuite td) (i : Fin td.size) : Prop :=
  ∃ state, (ts.testcase i).state = some state ∧ state.isTerminal = true

/-- A test case waits for being started. -/
def Awaiting (ts : TestSuite td) (i : Fin td.size) : Prop :=
  (ts.testcase i).state = some .configuring ∨ (ts.testcase i).state = some .ready

/-- The suite is reported as finished exactly if all test cases have ended, and not while there is a
next one or the current one is being configured or executed. -/
def ReportsFinished (ts : TestSuite td) : Prop :=
  ∃ answer, ts.checkTestsuiteFinished = .ok answer ∧ (answer = true ↔ ∀ i, ts.Ended i) ∧
    (answer = true → (∃ after, ts.nextTestcase = .ok (none, after)) ∧
      ∀ i, ts.currentTc = some i → (ts.testcase i).state ≠ some .configuring ∧
        (ts.testcase i).state ≠ some .ready ∧ (ts.testcase i).state ≠ some .executing)

/-- Every test case has ended or waits for being started, and some waits. -/
def OnlyAwaiting (ts : TestSuite td) : Prop :=
  (∀ i, ts.Ended i ∨ ts.Awaiting i) ∧ ∃ i, ts.Awaiting i

/-- A test case that is not found unfinished has ended or waits. -/
theorem unfinishedState_eq_false {ts : TestSuite td} {i : Fin td.size} :
    unfinishedState (ts.testcase i).state = false ↔ ts.Ended i ∨ ts.Awaiting i := by
  unfold Ended Awaiting
  cases (ts.testcase i).state with
  | none => simp [unfinishedState]
  | some state => cases state <;> simp [unfinishedState, TestCaseState.isTerminal]

/-- A test case that waits has not ended. -/
theorem Awaiting.not_ended {ts : TestSuite td} {i : Fin td.size} (awaiting : ts.Awaiting i) :
    ¬ ts.Ended i := by
  rintro ⟨state, same, terminal⟩
  rcases awaiting with waits | waits <;> rw [waits] at same <;> cases same <;> cases terminal

/-- The answer tells that no test case is found unfinished. -/
theorem checkTestsuiteFinished_eq (ts : TestSuite td) (nonempty : 0 < td.size) :
    ∃ answer, ts.checkTestsuiteFinished = .ok answer ∧
      (answer = true ↔ ∀ i, ts.Ended i ∨ ts.Awaiting i) := by
  unfold checkTestsuiteFinished
  rw [dif_pos nonempty]
  refine ⟨_, rfl, ?_⟩
  rw [Option.isNone_iff_eq_none, CyclicSearch.search_eq_none rfl]
  exact forall_congr' fun i => unfinishedState_eq_false

/-- **The suite is reported as finished exactly when it is, unless all that is left are test cases
that wait.** -/
theorem reportsFinished_iff (ts : TestSuite td) (nonempty : 0 < td.size) :
    ts.ReportsFinished ↔ ¬ ts.OnlyAwaiting := by
  obtain ⟨answer, answered, tells⟩ := checkTestsuiteFinished_eq ts nonempty
  constructor
  · rintro ⟨other, same, right, -⟩ ⟨done, i, awaiting⟩
    obtain rfl : answer = other := Except.ok.inj (answered.symm.trans same)
    exact awaiting.not_ended (right.mp (tells.mpr done) i)
  · intro none_waits
    have ended (finished : answer = true) (i : Fin td.size) : ts.Ended i := by
      have all := tells.mp finished
      refine (all i).resolve_right fun awaiting => none_waits ⟨all, i, awaiting⟩
    refine ⟨answer, answered, ⟨ended, fun all => tells.mpr fun i => .inl (all i)⟩, ?_⟩
    intro finished
    have none_pending : ts.pending = none := pending_eq_none.mpr fun i absent => by
      obtain ⟨state, present, -⟩ := ended finished i
      cases absent.symm.trans present
    refine ⟨⟨_, none_pending ▸ nextTestcase_eq ts nonempty⟩, fun i _ => ?_⟩
    obtain ⟨state, present, terminal⟩ := ended finished i
    rw [present]
    cases state <;> simp_all [TestCaseState.isTerminal]

/-- A suite with a test case that has not begun is not reported as finished. -/
theorem reportsFinished_small : firstFinished.ReportsFinished := by
  refine (reportsFinished_iff firstFinished (by decide)).mpr fun waiting => ?_
  have blank : (firstFinished.testcase smallSecond).state = none := by decide +kernel
  rcases waiting.1 smallSecond with ⟨state, present, -⟩ | (wrong | wrong)
  · cases blank.symm.trans present
  · cases blank.symm.trans wrong
  · cases blank.symm.trans wrong

/-- The first test case is skipped and the second one is being configured. -/
def lastConfiguring : TestSuite smallSuite :=
  ({ TestSuite.new smallSuite with currentTc := some smallSecond }.modify smallFirst
    (·.changeState .skipped)).modify smallSecond (·.changeState .configuring)

/-- A suite whose last test case is being configured is reported as finished. -/
theorem lastConfiguring_finished : lastConfiguring.checkTestsuiteFinished = .ok true ∧
    ¬ lastConfiguring.ReportsFinished := by
  have answered : lastConfiguring.checkTestsuiteFinished = .ok true := by decide +kernel
  refine ⟨answered, ?_⟩
  rintro ⟨answer, same, -, idle⟩
  obtain rfl : true = answer := Except.ok.inj (answered.symm.trans same)
  exact ((idle rfl).2 smallSecond rfl).1 (by decide +kernel)

end TestSuite

end Ioppytest
