import Ioppytest.TestCoordinator.Endings
import Ioppytest.TestSuite.Grading
import Ioppytest.Lib.RunningMax

/-!
# The final verdict

The report of a test case whose steps are all finished or postponed: its verdict is the worst one of
the finished steps and of the analysis, its description the message of the last of those that are as
bad, and its partial verdicts are theirs in order. Only a test case without steps has no report: the
check of its steps raises.
-/

namespace Ioppytest

/-- What a step or an item of the analysis adds to the running verdict. -/
def PartialVerdict.toVerdict (entry : PartialVerdict) : Verdict := ⟨entry.verdict, entry.message⟩

namespace TestCase

/-- The entries of the finished steps that have a verdict. -/
def stepEntries (steps : List Step) : List PartialVerdict :=
  (steps.filter fun step => step.type.hasVerdict && step.state == some .finished).map fun step =>
    ⟨step.id, step.partialVerdict.value, step.partialVerdict.message, some ""⟩

/-- The entries of an analysis whose verdicts are known. -/
def itemEntries (items : List AnalysisItem) : List PartialVerdict :=
  items.filterMap fun item =>
    (VerdictValue.ofName? item.verdict).map fun value => ⟨item.id, value, item.message, none⟩

/-- What contributes to a verdict: steps, then items, and an error instead of an empty analysis. -/
def contributions (steps : List Step) (items : List AnalysisItem) : List Verdict :=
  (stepEntries steps).map (·.toVerdict) ++
    if items = [] then [⟨.error, "Test Analysis Tool returned an empty analysis report"⟩]
    else (itemEntries items).map (·.toVerdict)

/-- The report gives the worst contribution, with the message of the last one as bad unless nothing
is wrong, and all entries in order. -/
structure Judged (steps : List Step) (items : List AnalysisItem) (report : Report) : Prop where
  /-- The verdict is one of a contribution, and the later ones are less bad. -/
  worst : ∃ before last after, contributions steps items = before ++ last :: after ∧
    last.value = report.verdict ∧ (∀ later ∈ after, later.value < report.verdict) ∧
      report.description =
        if report.verdict = .pass then "No interoperability error was detected."
        else last.message
  /-- No contribution is worse. -/
  bound : ∀ contribution ∈ contributions steps items, contribution.value ≤ report.verdict
  /-- Steps first, then items. -/
  entries : report.partialVerdicts = stepEntries steps ++ itemEntries items

/-- Every item has one of the verdicts of `Verdict.values()`. -/
def Known (items : List AnalysisItem) : Prop :=
  ∀ item ∈ items, item.verdict ∈ VerdictValue.values.map VerdictValue.name

/-- The analysis ends in a report. -/
def Reports (tc : TestCase) (items : List AnalysisItem) (report : Report) : Prop :=
  tc.generateTestcaseReport items none = .ok { tc with report := some report }

/-- **The final verdict is the worst partial verdict**: the report is judged so, the order of the
items does not matter for its verdict, and an item that is added to others never improves it. -/
def WorstVerdict (tc : TestCase) (items : List AnalysisItem) : Prop :=
  ∃ report, tc.Reports items report ∧ Judged tc.sequence items report ∧
    (∀ others, others.Perm items →
      ∃ other, tc.Reports others other ∧ other.verdict = report.verdict) ∧
    ∀ front back item, items = front ++ back → items ≠ [] → Known [item] →
      ∃ worse, tc.Reports (front ++ item :: back) worse ∧ report.verdict ≤ worse.verdict

variable {tc : TestCase} {steps : List Step} {items : List AnalysisItem}

/-- A known verdict string stands for a value. -/
theorem ofName?_of_known {string : String}
    (known : string ∈ VerdictValue.values.map VerdictValue.name) :
    ∃ value, VerdictValue.ofName? string = some value := by
  obtain ⟨value, member, rfl⟩ := List.mem_map.mp known
  refine Option.isSome_iff_exists.mp (List.find?_isSome.mpr ⟨value, member, ?_⟩)
  exact beq_self_eq_true _

/-- The steps' part of a report. -/
theorem reportSteps_eq (final : Verdict) (entries : List PartialVerdict)
    (complete : ∀ step ∈ steps, step.state = some .finished ∨ step.state = some .postponed) :
    reportSteps steps final entries =
      .ok (((stepEntries steps).map (·.toVerdict)).foldl (RunningMax.take Verdict.value) final,
        entries ++ stepEntries steps) := by
  induction steps generalizing final entries with
  | nil => simp [reportSteps, stepEntries]
  | cons step rest ih =>
    have later (final : Verdict) (entries : List PartialVerdict) :=
      ih final entries fun other member => complete other (List.mem_cons_of_mem _ member)
    by_cases graded : step.type.hasVerdict = true
    · rcases complete step List.mem_cons_self with finished | postponed
      · have entry : stepEntries (step :: rest) =
            ⟨step.id, step.partialVerdict.value, step.partialVerdict.message, some ""⟩ ::
              stepEntries rest := by
          simp [stepEntries, graded, finished]
        simp only [reportSteps, graded, finished, ↓reduceIte]
        rw [later, entry, List.map_cons, List.foldl_cons, List.append_assoc,
          List.singleton_append]
        rfl
      · have entry : stepEntries (step :: rest) = stepEntries rest := by
          simp [stepEntries, postponed]
        simp only [reportSteps, graded, postponed, ↓reduceIte]
        rw [later, entry]
    · have entry : stepEntries (step :: rest) = stepEntries rest := by
        simp [stepEntries, graded]
      rw [reportSteps, if_neg graded, later, entry]

/-- The analysis part of a report. -/
theorem reportItems_eq (final : Verdict) (entries : List PartialVerdict) (known : Known items) :
    reportItems items final entries =
      .ok (((itemEntries items).map (·.toVerdict)).foldl (RunningMax.take Verdict.value) final,
        entries ++ itemEntries items) := by
  induction items generalizing final entries with
  | nil => simp [reportItems, itemEntries]
  | cons item rest ih =>
    obtain ⟨value, read⟩ := ofName?_of_known (known item List.mem_cons_self)
    have entry : itemEntries (item :: rest) =
        ⟨item.id, value, item.message, none⟩ :: itemEntries rest := by
      simp [itemEntries, read]
    simp only [reportItems, read]
    rw [ih _ _ fun other member => known other (List.mem_cons_of_mem _ member), entry,
      List.map_cons, List.foldl_cons, List.append_assoc, List.singleton_append]
    rfl

/-- The report folds all contributions. -/
theorem analysisReport_eq
    (complete : ∀ step ∈ steps, step.state = some .finished ∨ step.state = some .postponed)
    (known : Known items) :
    analysisReport steps items =
      .ok (finalReport ((contributions steps items).foldl (RunningMax.take Verdict.value) {})
        (stepEntries steps ++ itemEntries items)) := by
  unfold analysisReport contributions
  rw [reportSteps_eq {} [] complete, List.foldl_append]
  cases items with
  | nil =>
    simp only [itemEntries, List.filterMap_nil, List.append_nil]
    rfl
  | cons item rest =>
    simp only [bind, Except.bind, reportItems_eq _ _ known, List.nil_append]
    rfl

/-- Something always contributes. -/
theorem contributions_ne_nil (known : Known items) : contributions steps items ≠ [] := by
  unfold contributions
  cases items with
  | nil => simp
  | cons item rest =>
    obtain ⟨value, read⟩ := ofName?_of_known (known item List.mem_cons_self)
    simp [itemEntries, read]

/-- The final verdict is the last of the worst contributions. -/
theorem contributions_lastMax (known : Known items) :
    RunningMax.LastMax Verdict.value (contributions steps items)
      ((contributions steps items).foldl (RunningMax.take Verdict.value) {}) :=
  RunningMax.foldl_take_of_le (contributions_ne_nil known) fun _ _ => VerdictValue.none_le _

/-- A report made of the worst contribution is judged so. -/
theorem finalReport_judged {final : Verdict} (maximal : RunningMax.LastMax Verdict.value
    (contributions steps items) final) :
    Judged steps items (finalReport final (stepEntries steps ++ itemEntries items)) := by
  obtain ⟨before, after, whole, below⟩ := maximal.last
  have verdict := finalReport_verdict final (stepEntries steps ++ itemEntries items)
  refine ⟨⟨before, final, after, whole, verdict.symm, ?_, ?_⟩, ?_, ?_⟩
  · rw [verdict]
    exact below
  · rw [verdict]
    unfold finalReport
    by_cases passed : final.value = .pass
    · simp [passed, Verdict.update]
    · simp [passed]
  · rw [verdict]
    exact maximal.le
  · rfl

/-- The report of a test case whose steps are all finished or postponed. -/
theorem reports_final (state : tc.state ≠ none ∧ tc.state ≠ some .skipped ∧
    tc.state ≠ some .aborted) (complete : tc.Complete) (nonempty : tc.sequence ≠ [])
    (known : Known items) :
    tc.Reports items (finalReport
      ((contributions tc.sequence items).foldl (RunningMax.take Verdict.value) {})
      (stepEntries tc.sequence ++ itemEntries items)) := by
  rw [Reports, generateTestcaseReport_executed items state,
    checkAllStepsFinished_complete complete nonempty, analysisReport_eq complete known]
  rfl

/-- Items in another order contribute the same. -/
theorem contributions_perm {others : List AnalysisItem} (same : others.Perm items) :
    (contributions steps others).Perm (contributions steps items) := by
  have empty : others = [] ↔ items = [] := by
    rw [← List.length_eq_zero_iff, same.length_eq, List.length_eq_zero_iff]
  unfold contributions
  refine List.Perm.append_left _ ?_
  by_cases none : items = []
  · rw [if_pos none, if_pos (empty.mpr none)]
  · rw [if_neg none, if_neg fun wrong => none (empty.mp wrong)]
    exact (same.filterMap _).map _

/-- An item that is added to others only adds to what contributes. -/
theorem contributions_subset {front back : List AnalysisItem} (item : AnalysisItem)
    (nonempty : front ++ back ≠ []) :
    contributions steps (front ++ back) ⊆ contributions steps (front ++ item :: back) := by
  have among : front ++ back ⊆ front ++ item :: back := by
    intro other member
    rcases List.mem_append.mp member with first | last
    · exact List.mem_append_left _ first
    · exact List.mem_append_right _ (List.mem_cons_of_mem _ last)
  unfold contributions
  rw [if_neg nonempty, if_neg (by simp)]
  refine List.append_subset.mpr ⟨List.subset_append_left _ _, ?_⟩
  exact List.Subset.trans (List.map_subset _ (List.filterMap_subset _ among))
    (List.subset_append_right _ _)

/-- **The final verdict is the worst partial verdict exactly for the test cases that have a
step.** -/
theorem worstVerdict_iff (tc : TestCase) (items : List AnalysisItem)
    (state : tc.state ≠ none ∧ tc.state ≠ some .skipped ∧ tc.state ≠ some .aborted)
    (complete : tc.Complete) (known : Known items) :
    tc.WorstVerdict items ↔ tc.sequence ≠ [] := by
  constructor
  · rintro ⟨report, reports, -⟩ empty
    have refused : tc.checkAllStepsFinished = .error .stopIteration := by
      rw [checkAllStepsFinished, empty]
    rw [Reports, generateTestcaseReport_executed items state, refused] at reports
    cases reports
  · intro nonempty
    have maximal (others : List AnalysisItem) (known : Known others) :
        RunningMax.LastMax Verdict.value (contributions tc.sequence others)
          ((contributions tc.sequence others).foldl (RunningMax.take Verdict.value) {}) :=
      contributions_lastMax known
    refine ⟨_, reports_final state complete nonempty known, finalReport_judged (maximal _ known),
      fun others same => ?_, ?_⟩
    · have others_known : Known others := fun item member => known item (same.subset member)
      refine ⟨_, reports_final state complete nonempty others_known, ?_⟩
      rw [finalReport_verdict, finalReport_verdict]
      exact (maximal _ others_known).perm (maximal _ known) (contributions_perm same)
    · rintro front back item rfl some_item item_known
      have more_known : Known (front ++ item :: back) := by
        intro other member
        rcases List.mem_append.mp member with first | later
        · exact known other (List.mem_append_left _ first)
        · rcases List.mem_cons.mp later with rfl | last
          · exact item_known _ (List.mem_singleton.mpr rfl)
          · exact known other (List.mem_append_right _ last)
      refine ⟨_, reports_final state complete nonempty more_known, ?_⟩
      rw [finalReport_verdict, finalReport_verdict]
      exact (maximal _ known).mono (maximal _ more_known) (contributions_subset item some_item)

/-- A test case under analysis whose only step was answered. -/
def answeredTestcase : TestCase where
  state := some .analyzing
  sequence := [⟨"TD_COAP_CORE_01_step_01", .verify, "The response is displayed",
    some (Iut.mk "coap_server" "user_assisted" none), rfl, some .finished, ⟨.pass, "displayed"⟩⟩]

/-- It fails if one of two items does. -/
theorem worstVerdict_small :
    answeredTestcase.WorstVerdict [⟨"1", "fail", "no token"⟩, ⟨"2", "pass", "match"⟩] :=
  (worstVerdict_iff answeredTestcase _ (by decide) (by unfold Complete; decide)
    (by unfold Known; decide)).mpr (by decide)

/-- A test case under analysis that has no steps has no report. -/
theorem stepless_unreported :
    ¬ ({ state := some .analyzing, sequence := [] } : TestCase).WorstVerdict
      [⟨"1", "pass", "match"⟩] := by
  rintro ⟨report, reports, -⟩
  cases reports

end TestCase

end Ioppytest
