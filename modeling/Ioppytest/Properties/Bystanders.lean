import Ioppytest.TestCoordinator.Sessions

/-!
# Test cases that an event does not concern

One event can finish the current test case, search the whole suite and prepare another test case.
Still no test case changes that is neither the current one before or after the event nor named by
it, but for the error report that the end of the session gives to a test case without a report.
-/

namespace Ioppytest

open Raising

variable {td : TestDescriptions}

namespace Coordinator

/-- The test case that an input names. -/
def Input.names? (td : TestDescriptions) : Input → Option (Fin td.size)
  | .event (.testCaseStart id) _ | .event (.testCaseSelect id) _ | .event (.testCaseSkip id) _ =>
    id.join.bind td.find
  | _ => none

/-- The test case is the same, or the session is over and gives it a report, which it lacked. -/
def Spares (before after : Coordinator td) (j : Fin td.size) : Prop :=
  after.testsuite.testcase j = before.testsuite.testcase j ∨
    (after.state = .testsuiteFinished ∧ (before.testsuite.testcase j).report = none ∧
      after.testsuite.testcase j = { before.testsuite.testcase j with
        report := some ⟨.error, "No test case verdict/report found for test case", []⟩ })

/-- Test cases are compared. -/
instance (before after : Coordinator td) (j : Fin td.size) : Decidable (before.Spares after j) :=
  inferInstanceAs (Decidable (_ ∨ _))

variable {upper : String → String} {testsuiteName : String} {c before middle after : Coordinator td}
  {input : Input} {i j : Fin td.size}

/-- Going on from a coordinator with the same test case. -/
theorem Spares.of_same (spares : middle.Spares after j)
    (same : middle.testsuite.testcase j = before.testsuite.testcase j) : before.Spares after j := by
  unfold Spares at spares ⊢
  rwa [same] at spares

/-- The end of the session gives a report to the test cases that lack one. -/
theorem spares_conclude (c : Coordinator td) (j : Fin td.size) : c.Spares c.conclude j := by
  cases lacks : (c.testsuite.testcase j).report with
  | some report =>
    refine .inl ?_
    have same : c.conclude.testsuite.testcase j = { c.testsuite.testcase j with
        report := some (TestSuite.reportOf (c.testsuite.testcase j)) } := rfl
    rw [same, TestSuite.reportOf, lacks, Option.getD_some, ← lacks]
  | none =>
    refine .inr ⟨rfl, lacks, ?_⟩
    have given : TestSuite.reportOf (c.testsuite.testcase j) =
        ⟨.error, "No test case verdict/report found for test case", []⟩ := by
      rw [TestSuite.reportOf, lacks, Option.getD_none]
    rw [← given]
    rfl

/-- Configuring another test case. -/
theorem spares_configure (apart : (c.configure i).testsuite.currentTc ≠ some j) :
    c.Spares (c.configure i) j := by
  have different : j ≠ i := fun same => apart (by rw [same]; rfl)
  exact .inl (by simp [configure, different])

/-- Going on with the next test case. -/
theorem spares_proceed (apart : c.proceed.testsuite.currentTc ≠ some j) :
    c.Spares c.proceed j := by
  unfold proceed at apart ⊢
  cases pending : c.testsuite.pending with
  | none => exact spares_conclude _ j
  | some i =>
    rw [pending] at apart
    exact spares_configure apart

/-- Changing another test case. -/
theorem modify_other (c : Coordinator td) (change : TestCase → TestCase) (apart : j ≠ i) :
    (c.modify i change).testsuite.testcase j = c.testsuite.testcase j :=
  TestSuite.modify_testcase_of_ne c.testsuite change apart

/-- Executing the next step of another test case. -/
theorem Advance.spares {services : Services}
    {result : EStateM.Result PyException (Coordinator td) Unit}
    (advance : Advance services c i result) (apart : j ≠ i)
    (later : (finalState result).testsuite.currentTc ≠ some j) :
    c.Spares (finalState result) j := by
  cases advance with
  | @execute _ tc _ _ _ _ _ =>
    have same := modify_other c (fun _ => tc.changeState .executing) apart
    exact .inl same
  | @refuse tc _ _ _ _ =>
    have same := modify_other c (fun _ => tc.changeState .readyForAnalysis) apart
    exact .inl same
  | @interrupt tc _ _ _ _ _ =>
    have same := (modify_other (c.exhaust i tc) (·.analyzing) apart).trans
      (modify_other c (fun _ => tc.changeState .readyForAnalysis) apart)
    exact .inl same
  | @complete tc report _ _ _ _ =>
    have same := (modify_other (c.exhaust i tc) (·.reported report) apart).trans
      (modify_other c (fun _ => tc.changeState .readyForAnalysis) apart)
    exact (spares_proceed later).of_same same

/-- The handling of a node. -/
theorem Recorded.spares (recorded : Recorded middle after) (spares : before.Spares middle j) :
    before.Spares after j := by
  rcases spares with same | ⟨past, lacked, given⟩
  · exact .inl ((congrFun recorded.testcase j).trans same)
  · refine .inr ⟨?_, lacked, (congrFun recorded.testcase j).trans given⟩
    rcases recorded.state with kept | ⟨wrong, -⟩
    · exact kept.trans past
    · cases past.symm.trans wrong

/-- The announcement of a start. -/
theorem announceStarted_spares (spares : before.Spares middle j) :
    before.Spares (finalState middle.announceStarted) j := by
  obtain ⟨messages, sent, -⟩ := announceStarted_sends middle
  rw [sent]
  exact spares

/-- Skipping another test case. -/
theorem skip_other (c : Coordinator td) (apart : j ≠ i) :
    (c.withTestsuite (c.testsuite.skip i)).testsuite.testcase j = c.testsuite.testcase j :=
  TestSuite.skip_testcase_of_ne apart

/-- **A move changes only the test cases that it concerns.** -/
theorem Move.spares_others {result : EStateM.Result PyException (Coordinator td) Bool}
    (move : Move c input result) (begun : c.Begun) (now : c.testsuite.currentTc ≠ some j)
    (later : (finalState result).testsuite.currentTc ≠ some j) (named : input.names? td ≠ some j) :
    c.Spares (finalState result) j := by
  have other {i : Fin td.size} (current : c.testsuite.currentTc = some i) : j ≠ i := by
    rintro rfl
    exact now current
  have unnamed {id : String} {i : Fin td.size} {services : Services}
      (skips : input = .event (.testCaseSkip (some (some id))) services)
      (found : td.find id = some i) : j ≠ i := by
    rintro rfl
    subst skips
    exact named found
  cases move with
  | ignored => exact .inl rfl
  | refused => exact .inl rfl
  | empty _ early _ _ _ | recordedEarly _ early _ | started _ early _ => exact absurd early begun
  | configured _ state _ => exact absurd (.inl state) begun
  | skippedEarly state _ => exact absurd (.inl state) begun
  | recordedWaiting _ _ =>
    rw [finalState_andThen_ok]
    exact (recordNode_recorded _).spares (.inl rfl)
  | recordedExecuting _ _ _ _ _ _ =>
    rw [finalState_andThen_ok]
    exact (recordNode_recorded _).spares (.inl rfl)
  | recordedFinished _ _ =>
    rw [finalState_andThen_ok]
    exact (recordNode_recorded _).spares (spares_conclude c j)
  | @retried event _ _ result _ current _ _ advance =>
    rw [finalState_andThen_ok] at later ⊢
    cases result with
    | error exception left => exact advance.spares (other current) later
    | ok _ left =>
      have recorded : Recorded left (finalState (left.recordNode (some event))) :=
        recordNode_recorded _
      rw [andThen_ok, recorded.currentTc] at later
      exact recorded.spares (advance.spares (other current) later)
  | timedOut state =>
    rw [finalState_andThen_ok]
    exact (announceReady_recorded state).spares (.inl rfl)
  | @executed _ _ i result _ current advance =>
    rw [finalState_andThen_ok] at later ⊢
    have begins := modify_other c (·.changeState .executing) (other current)
    cases result with
    | error exception left => exact (advance.spares (other current) later).of_same begins
    | ok _ left =>
      obtain ⟨messages, sent, -⟩ := announceStarted_sends left
      rw [andThen_ok, sent] at later
      exact announceStarted_spares ((advance.spares (other current) later).of_same begins)
  | @answered event _ i k step result _ current _ _ _ _ _ _ advance =>
    rw [finalState_andThen_ok] at later ⊢
    have same : (c.answered i k step event).testsuite.testcase j = c.testsuite.testcase j := by
      unfold Coordinator.answered
      split
      · exact modify_other c _ (other current)
      · rfl
    exact (advance.spares (other current) later).of_same same
  | @restarted _ i _ current =>
    exact (spares_configure later).of_same (modify_other c _ (other current))
  | selected _ =>
    revert later
    have reset : (c.testsuite.reinitTestcase c.testsuite.getCurrentTestcaseId).testcase j =
        c.testsuite.testcase j := by
      rw [TestSuite.reinitTestcase_testcase, if_neg now]
    refine @selectTestcase_rule td (fun after =>
      after.testsuite.currentTc ≠ some j → c.Spares after j) c _ (fun i later => ?_) fun later => ?_
    · have different : j ≠ i := fun same => later (by rw [same]; rfl)
      exact (spares_configure later).of_same ((modify_other _ _ different).trans reset)
    · exact (spares_proceed later).of_same reset
  | @skippedCurrent _ _ i _ _ current _ =>
    exact (spares_proceed later).of_same (skip_other c (other current))
  | skippedOther _ found _ => exact .inl (skip_other c (unnamed rfl found))
  | skippedInstead _ _ current => exact .inl (skip_other c (other current))
  | skippedExecuting _ _ _ _ _ found _ => exact .inl (skip_other c (unnamed rfl found))
  | @aborted i _ current =>
    exact (spares_proceed later).of_same (modify_other c _ (other current))

/-- Even the input that coherence does not withstand changes the current test case only. -/
theorem disorients_spares (coherent : Coherent c) (disorients : Disorients c input)
    (now : c.testsuite.currentTc ≠ some j) : c.Spares (next upper c input) j := by
  obtain ⟨state, id, services, rfl, unknown⟩ := disorients
  obtain ⟨i, current, -⟩ := coherent.executes state
  have skipped := next_skip_unknown upper services unknown (by rw [state]; rfl)
  rw [current] at skipped
  have apart : j ≠ i := by
    rintro rfl
    exact now current
  refine .inl ?_
  rw [skipped]
  exact TestSuite.skip_testcase_of_ne apart

/-- **Events change only the test cases that they concern**, but for the report that the end of the
session gives to a test case without one. -/
theorem bystanders_spared (upper : String → String) (td : TestDescriptions)
    (testsuiteName : String) (c : Coordinator td)
    (started : Started upper testsuiteName
      (fun c input => input.Known td ∨ Survives upper c input) c)
    (input : Input) (j : Fin td.size) (now : c.testsuite.currentTc ≠ some j)
    (later : (next upper c input).testsuite.currentTc ≠ some j)
    (named : input.names? td ≠ some j) : c.Spares (next upper c input) j := by
  have coherent := reached_coherent (fun _ _ tame => tame) started.reached
  by_cases disorients : Disorients c input
  · exact disorients_spares coherent disorients now
  · have move : Move c input (c.handle upper input) := handle_move coherent disorients
    exact move.spares_others (started.begun fun _ _ tame => tame) now later named

/-- The restart of the first test case of the small suite spares the second one. -/
theorem bystanders_spared_small : stimuliAwaited.Spares
    (next id stimuliAwaited (.event .testCaseRestart noServices)) smallSecond := by
  have further : Runs.AllAllowed (next id)
      (fun c input => input.Known smallSuite ∨ Survives id c input) firstWaits
      [.event (.testCaseStart none) noServices] := ⟨.inl trivial, trivial⟩
  have started : Started id "coap"
      (fun c input => input.Known smallSuite ∨ Survives id c input) stimuliAwaited :=
    ⟨_, noServices, firstWaits, .init, .inl trivial, by rfl, further.reachable⟩
  exact bystanders_spared id smallSuite "coap" stimuliAwaited started _ smallSecond
    (by decide +kernel) (by decide +kernel) (by decide +kernel)

end Coordinator

end Ioppytest
