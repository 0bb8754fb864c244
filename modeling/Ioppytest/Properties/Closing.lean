import Ioppytest.TestCoordinator.Endings
import Ioppytest.TestCoordinator.Sessions

/-!
# Closing a test case

`finish_testcase` of a test case whose steps are all finished or postponed: whatever the services
answer, it ends with a report, which is one of an error if a service failed. Three things keep it
from that: a test case without steps, a service that answers that it succeeded and leaves a field at
`None`, and an analysis that names a verdict nobody knows.
-/

namespace Ioppytest

namespace SnifferReply

/-- The reply holds a capture. -/
def Usable (reply : SnifferReply) : Prop :=
  reply.ok = some (some true) ∧ reply.value.join.isSome = true ∧ reply.filename.join.isSome = true

end SnifferReply

namespace AnalysisReply

/-- The reply holds the partial verdicts of an analysis. -/
def Usable (reply : AnalysisReply) : Prop :=
  reply.ok = some (some true) ∧ reply.partialVerdicts.join.isSome = true

end AnalysisReply

namespace Services

/-- A service does not answer, or with an error, or with a reply whose fields are missing or `None`. -/
def Failed (services : Services) : Prop :=
  (∀ reply, services.getCapture = some reply → ¬ reply.Usable) ∨
    ∀ reply, services.analysis = some reply → ¬ reply.Usable

variable {services : Services}

/-- What a failed service leads to is reported as an error. -/
theorem Failed.verdict (failed : services.Failed) {captureId : String} {analyze : String → Message}
    {tc : TestCase} {report : Report} {requests : List Message}
    (completed : finishOutcome services captureId analyze tc = .completed report requests) :
    report.verdict = .error := by
  unfold finishOutcome at completed
  split at completed
  · cases completed
  · cases completed
  split at completed
  · cases completed
  · cases completed
    rfl
  rename_i pcap read
  split at completed
  · cases completed
  · cases completed
    rfl
  rename_i items analyzed
  -- A capture was read and an analysis is there, so no service has failed.
  obtain ⟨filename, repr, captured, -⟩ := Handler.captureOf_ok read
  obtain ⟨verdicts, text, code, repr, answered, -⟩ := Handler.analysisOf_ok analyzed
  rcases failed with sniffer | analysis
  · exact absurd ⟨rfl, rfl, rfl⟩ (sniffer _ captured)
  · exact absurd ⟨rfl, rfl⟩ (analysis _ answered)

/-- The sniffer answers that it succeeded, and leaves the capture or its file name at `None`. -/
def Unnamed (services : Services) : Prop :=
  ∃ value filename repr,
    services.getCapture = some ⟨some (some true), some value, some filename, repr⟩ ∧
      (value = none ∨ filename = none)

/-- A reply without a capture cannot be read. -/
theorem Unnamed.captured (unnamed : services.Unnamed) : services.Captured false := by
  obtain ⟨value, filename, repr, replied, lacking⟩ := unnamed
  refine ⟨value, filename, repr, replied, ?_⟩
  rcases lacking with rfl | rfl
  · rfl
  · simp [savable]

/-- Where captures can be decoded, one that cannot be read is missing. -/
theorem Captured.unnamed (garbled : services.Captured false)
    (decodable : ∀ value filename repr,
      services.getCapture = some ⟨some (some true), some (some value), some (some filename), repr⟩ →
        PyString.b64decodes value = true) : services.Unnamed := by
  obtain ⟨value, filename, repr, replied, unsavable⟩ := garbled
  refine ⟨value, filename, repr, replied, ?_⟩
  match value, filename with
  | none, _ => exact .inl rfl
  | some value, none => exact .inr rfl
  | some value, some filename => simp [savable, decodable value filename repr replied] at unsavable

end Services

namespace Coordinator

open Raising

variable {td : TestDescriptions} {c : Coordinator td} {i : Fin td.size} {services : Services}

/-- `finish_testcase` returns, and the test case is finished with a report, which is one of an error
if a service failed. -/
def Closes (c : Coordinator td) (i : Fin td.size) (services : Services) : Prop :=
  ∃ after, (Handler.finishTestcase services).run c = .ok () after ∧
    (after.testsuite.testcase i).state = some .finished ∧
      ∃ report, (after.testsuite.testcase i).report = some report ∧
        report.verdict ∈ VerdictValue.values ∧ (services.Failed → report.verdict = .error)

/-- **A test case whose steps are all finished or postponed is closed exactly if it has steps, no
service that answers that it succeeded leaves a field of its reply at `None`, and the analysis names
no unknown verdict**, provided that a capture which the sniffer sends can be decoded. -/
theorem closes_iff (c : Coordinator td) (i : Fin td.size) (services : Services)
    (current : c.testsuite.currentTc = some i) (complete : (c.testsuite.testcase i).Complete)
    (decodable : ∀ value filename repr,
      services.getCapture = some ⟨some (some true), some (some value), some (some filename), repr⟩ →
        PyString.b64decodes value = true) :
    c.Closes i services ↔
      (c.testsuite.testcase i).sequence ≠ [] ∧ ¬ services.Unnamed ∧ ¬ services.Misjudged := by
  have finished := Handler.finishTestcase_run services current
  by_cases nonempty : (c.testsuite.testcase i).sequence = []
  · refine iff_of_false ?_ fun closed => closed.1 nonempty
    rintro ⟨after, returns, -⟩
    simp only [finishOutcome, TestCase.checkAllStepsFinished, nonempty] at finished
    rw [finished] at returns
    cases returns
  have ending := finishOutcome_complete services (td.id i) (c.analyzeRequest i) complete nonempty
  cases outcome : finishOutcome services (td.id i) (c.analyzeRequest i) (c.testsuite.testcase i) with
  | refused exception =>
    rw [outcome] at ending
    cases ending with
    | empty none => exact absurd none nonempty
    | pending blocked =>
      obtain ⟨step, member, executing⟩ := blocked
      rcases complete step member with wrong | wrong <;> cases executing.symm.trans wrong
  | interrupted exception requests =>
    rw [outcome] at ending finished
    cases ending with
    | unreadable _ _ unreadable _ =>
      refine iff_of_false ?_ fun closed => unreadable.elim
        (fun garbled => closed.2.1 (garbled.unnamed decodable)) closed.2.2
      rintro ⟨after, returns, -⟩
      rw [finished] at returns
      cases returns
  | completed report requests =>
    rw [outcome] at ending finished
    cases ending with
    | completed _ _ readable =>
      refine iff_of_true ⟨_, finished, ?_, report, ?_, ?_, fun failed => failed.verdict outcome⟩
        ⟨nonempty, fun unnamed => readable (.inl unnamed.captured),
          fun misjudged => readable (.inr misjudged)⟩
      · simp [modify, TestCase.reported]
      · simp [modify, TestCase.reported]
      · cases report.verdict <;> decide

/-- The small suite while the steps of its first test case are all finished. -/
def stepsFinished : Coordinator smallSuite :=
  { firstWaits with
    testsuite := firstWaits.testsuite.modify smallFirst fun tc =>
      { tc with sequence := tc.sequence.map (·.changeState (some .finished)) } }

/-- The steps are all finished. -/
theorem stepsFinished_complete : (stepsFinished.testsuite.testcase smallFirst).Complete := by
  unfold TestCase.Complete
  decide +kernel

/-- Without an answer from the sniffer the test case is closed. -/
theorem closes_unanswered : stepsFinished.Closes smallFirst noServices := by
  have named : ¬ noServices.Unnamed := by
    rintro ⟨_, _, _, wrong, -⟩
    cases wrong
  have judged : ¬ noServices.Misjudged := by
    rintro ⟨⟨_, _, _, wrong, -⟩, -⟩
    cases wrong
  exact (closes_iff stepsFinished smallFirst noServices (by decide +kernel) stepsFinished_complete
    (fun _ _ _ wrong => by cases wrong)).mpr ⟨by decide +kernel, named, judged⟩

/-- The analysis tool names a verdict in capital letters. -/
def capitalServices : Services where
  getCapture := some ⟨some (some true), some (some "TWFu"), some (some "TD_COAP_CORE_01.pcap"),
    "MsgSniffingGetCaptureReply"⟩
  analysis := some ⟨some (some true), some (some [("PASS", "match")]), none, none,
    "MsgInteropTestCaseAnalyzeReply"⟩

/-- The sniffer answers that it succeeded, and nothing else. -/
def lackingServices : Services where
  getCapture := some ⟨some (some true), some none, some none, "MsgSniffingGetCaptureReply"⟩
  analysis := none

/-- A verdict in capital letters keeps the test case from being closed, and so does a reply without
a capture. -/
theorem capital_unclosed : stepsFinished.testsuite.currentTc = some smallFirst ∧
    (stepsFinished.testsuite.testcase smallFirst).Complete ∧ capitalServices.Captured true ∧
      ¬ stepsFinished.Closes smallFirst capitalServices ∧
      ¬ stepsFinished.Closes smallFirst lackingServices := by
  refine ⟨by decide +kernel, stepsFinished_complete, ⟨_, _, _, rfl, by decide +kernel⟩, ?_, ?_⟩
  · rintro ⟨after, returns, -⟩
    have raised : raised ((Handler.finishTestcase capitalServices).run stepsFinished) =
        some .assertionError := by decide +kernel
    rw [returns] at raised
    cases raised
  · rintro ⟨after, returns, -⟩
    have raised : raised ((Handler.finishTestcase lackingServices).run stepsFinished) =
        some .typeError := by decide +kernel
    rw [returns] at raised
    cases raised

end Coordinator

end Ioppytest
