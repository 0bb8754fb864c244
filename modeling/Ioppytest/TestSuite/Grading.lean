import Ioppytest.TestSuite.Progress

/-!
# What the verdict of a report says

A report is made by updating one verdict with every contribution, and an update keeps the worst
value. So the verdict of a report bounds all its contributions, and a report of 'pass' says that
nothing worse than 'pass' contributed to it.
-/

namespace Ioppytest

/-- An update keeps the value that takes precedence. -/
theorem Verdict.update_value (verdict : Verdict) (newVerdict : VerdictValue) (message : String) :
    (verdict.update newVerdict message).value = max verdict.value newVerdict := by
  unfold update
  by_cases replaced : verdict.value ≤ newVerdict
  · rw [if_pos replaced, max_eq_right replaced]
  · have kept : newVerdict ≤ verdict.value := le_of_not_ge replaced
    rw [if_neg replaced, max_eq_left kept]

/-- Every value takes precedence over 'none'. -/
@[simp] theorem VerdictValue.none_le (value : VerdictValue) : .none ≤ value :=
  le_iff_index.mpr (Nat.zero_le _)

/-- An answer gives a verify step its partial verdict. -/
theorem Step.verified_value {step : Step} (blank : step.partialVerdict = {}) (response : Bool) :
    (step.verified response).partialVerdict.value = if response then .pass else .fail := by
  cases response with
  | true => simp [verified, blank, Verdict.update_value]
  | false => simp [verified, blank, Verdict.update_value]

/-- A string that stands for a value is its name. -/
theorem VerdictValue.name_of_ofName? {string : String} {value : VerdictValue}
    (found : ofName? string = some value) : string = value.name := by
  have named := List.find?_some found
  exact (beq_iff_eq.mp named).symm

/-- Nothing worse than 'pass' is 'none' or 'pass'. -/
theorem VerdictValue.le_pass {value : VerdictValue} (harmless : value ≤ .pass) :
    value = .none ∨ value = .pass := by
  have position : value.index ≤ VerdictValue.pass.index := harmless
  cases value with
  | none => exact .inl rfl
  | pass => exact .inr rfl
  | inconclusive | fail | aborted | error => exact absurd position (by decide)

namespace TestCase

/-- The report of the last analysis says 'pass'. -/
def Passes (tc : TestCase) : Prop := tc.report.map (·.verdict) = some .pass

/-- Whether a test case passes is a verdict. -/
instance (tc : TestCase) : Decidable tc.Passes := inferInstanceAs (Decidable (_ = _))

/-- Changes of anything but the report leave its verdict alone. -/
theorem passes_congr {before after : TestCase} (same : after.report = before.report) :
    after.Passes ↔ before.Passes := by
  rw [Passes, Passes, same]

/-- The steps' part of a verdict bounds what came before it and every step that was finished. -/
theorem reportSteps_bounds {steps : List Step} {final verdict : Verdict}
    {entries all : List PartialVerdict}
    (reported : reportSteps steps final entries = .ok (verdict, all)) :
    final.value ≤ verdict.value ∧ ∀ step ∈ steps, step.type.hasVerdict = true →
      step.state = some .finished → step.partialVerdict.value ≤ verdict.value := by
  induction steps generalizing final entries with
  | nil =>
    cases reported
    exact ⟨le_refl _, by simp⟩
  | cons step rest ih =>
    unfold reportSteps at reported
    by_cases graded : step.type.hasVerdict = true
    · rw [if_pos graded] at reported
      split at reported
      · -- A postponed step contributes nothing.
        rename_i postponed
        obtain ⟨kept, bounded⟩ := ih reported
        refine ⟨kept, fun other member executed past => ?_⟩
        rcases List.mem_cons.mp member with rfl | inside
        · cases postponed.symm.trans past
        · exact bounded other inside executed past
      · obtain ⟨kept, bounded⟩ := ih reported
        rw [Verdict.update_value] at kept
        have before : final.value ≤ verdict.value := le_trans (le_max_left _ _) kept
        have contributed : step.partialVerdict.value ≤ verdict.value :=
          le_trans (le_max_right _ _) kept
        refine ⟨before, fun other member executed past => ?_⟩
        rcases List.mem_cons.mp member with rfl | inside
        · exact contributed
        · exact bounded other inside executed past
      · cases reported
    · rw [if_neg graded] at reported
      obtain ⟨kept, bounded⟩ := ih reported
      refine ⟨kept, fun other member executed past => ?_⟩
      rcases List.mem_cons.mp member with rfl | inside
      · exact absurd executed graded
      · exact bounded other inside executed past

/-- The analysis part bounds what came before it and every item. -/
theorem reportItems_bounds {items : List AnalysisItem} {final verdict : Verdict}
    {entries all : List PartialVerdict}
    (reported : reportItems items final entries = .ok (verdict, all)) :
    final.value ≤ verdict.value ∧ ∀ item ∈ items,
      ∃ value, VerdictValue.ofName? item.verdict = some value ∧ value ≤ verdict.value := by
  induction items generalizing final entries with
  | nil =>
    cases reported
    exact ⟨le_refl _, by simp⟩
  | cons item rest ih =>
    unfold reportItems at reported
    cases read : VerdictValue.ofName? item.verdict with
    | none =>
      rw [read] at reported
      cases reported
    | some value =>
      rw [read] at reported
      obtain ⟨kept, bounded⟩ := ih reported
      rw [Verdict.update_value] at kept
      have before : final.value ≤ verdict.value := le_trans (le_max_left _ _) kept
      have contributed : value ≤ verdict.value := le_trans (le_max_right _ _) kept
      refine ⟨before, fun other member => ?_⟩
      rcases List.mem_cons.mp member with rfl | inside
      · exact ⟨value, read, contributed⟩
      · exact bounded other inside

/-- The report gives the verdict that it was made from. -/
theorem finalReport_verdict (final : Verdict) (entries : List PartialVerdict) :
    (finalReport final entries).verdict = final.value := by
  unfold finalReport
  by_cases passed : final.value = .pass
  · simp [passed, Verdict.update_value]
  · simp [passed]

/-- The partial verdicts of an analysis that found nothing wrong. -/
def Clean (verdicts : List String) : Prop :=
  verdicts ≠ [] ∧ ∀ verdict ∈ verdicts, verdict = "none" ∨ verdict = "pass"

/-- **A report says 'pass' only if nothing worse contributed to it**: the analysis found something
and nothing wrong, and no finished step has a worse verdict. -/
theorem analysisReport_pass {steps : List Step} {items : List AnalysisItem} {report : Report}
    (made : analysisReport steps items = .ok report) (passed : report.verdict = .pass) :
    Clean (items.map (·.verdict)) ∧ ∀ step ∈ steps, step.type.hasVerdict = true →
      step.state = some .finished → step.partialVerdict.value ≤ .pass := by
  unfold analysisReport at made
  cases stepped : reportSteps steps {} [] with
  | error exception =>
    rw [stepped] at made
    cases made
  | ok result =>
    obtain ⟨verdict, entries⟩ := result
    rw [stepped] at made
    have steps_bounded := (reportSteps_bounds stepped).2
    cases items with
    | nil =>
      -- An empty analysis is an error.
      cases made
      rw [finalReport_verdict, Verdict.update_value] at passed
      have worst : VerdictValue.error ≤ .pass := passed ▸ le_max_right _ _
      exact absurd worst (by decide)
    | cons item rest =>
      cases itemized : reportItems (item :: rest) verdict entries with
      | error exception =>
        simp only [bind, Except.bind, itemized] at made
        cases made
      | ok result =>
        obtain ⟨final, all⟩ := result
        simp only [bind, Except.bind, itemized] at made
        cases made
        rw [finalReport_verdict] at passed
        obtain ⟨kept, items_bounded⟩ := reportItems_bounds itemized
        rw [passed] at kept items_bounded
        refine ⟨⟨by simp, ?_⟩, fun step member graded past => ?_⟩
        · intro string member
          obtain ⟨other, inside, rfl⟩ := List.mem_map.mp member
          obtain ⟨value, read, harmless⟩ := items_bounded other inside
          rw [VerdictValue.name_of_ofName? read]
          rcases VerdictValue.le_pass harmless with rfl | rfl
          · exact .inl rfl
          · exact .inr rfl
        · exact le_trans (steps_bounded step member graded past) kept

end TestCase

end Ioppytest
