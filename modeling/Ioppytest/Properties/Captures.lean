import Ioppytest.PacketSniffer.Service
import Ioppytest.Properties.SnifferReplies
import Ioppytest.TestCoordinator.Consultations

/-!
# Captures on their way

A capture leaves the sniffer as a text. The coordinator saves what the text decodes to and passes the
text on to the analysis tool. Whatever the file of the sniffer holds is saved and analyzed byte by
byte; where there is no such file, or it is empty, nothing is analyzed and the verdict is an error.
-/

namespace Ioppytest

open Raising PyString PacketSniffer

/-- The message asks for an analysis. -/
def Message.isAnalyze : Message → Bool
  | .interopTestCaseAnalyze .. => true
  | _ => false

/-- The bytes that a host has captured for an id, if there are any. -/
def PacketSniffer.Host.capture (host : Host) (captureId : String) : Option (List UInt8) :=
  match host.file (joinPath host.tmpdir (filenameOf (some captureId))) with
  | .content [] => none
  | .content bytes => some bytes
  | _ => none

namespace PacketSniffer.Sniffer

variable {host : Host} {sniffer : Sniffer} {captureId repr : String}

/-- A capture is handed out as a text. -/
theorem answer_captured {bytes : List UInt8} (captured : host.capture captureId = some bytes) :
    sniffer.answer host (.sniffingGetCapture captureId) repr =
      some ⟨some (some true), some (some (b64encode bytes)), some (some (captureId ++ ".pcap")),
        repr⟩ := by
  have asked : Request.ofMessage? (.sniffingGetCapture captureId) =
      some (.getCapture (some (some captureId))) := rfl
  unfold Host.capture at captured
  split at captured
  · cases captured
  · rename_i content nonempty file
    have same : content = bytes := Option.some.inj captured
    subst same
    cases content with
    | nil => exact absurd rfl nonempty
    | cons first rest =>
      have replied : (sniffer.next (host, .getCapture (some (some captureId)))).replies =
          sniffer.replies ++ [⟨.getCapture (some (some captureId)),
            .getCaptureReply (filenameOf (some captureId)) (b64encode (first :: rest))⟩] := by
        simp [next, onRequest, onGetCapture, file, reply, publish]
      exact answer_reply asked replied
  · cases captured

/-- Without a capture there is an error or no answer. -/
theorem answer_uncaptured (uncaptured : host.capture captureId = none) :
    sniffer.answer host (.sniffingGetCapture captureId) repr = none ∨
      sniffer.answer host (.sniffingGetCapture captureId) repr =
        some ⟨some (some false), some none, some none, repr⟩ := by
  have asked : Request.ofMessage? (.sniffingGetCapture captureId) =
      some (.getCapture (some (some captureId))) := rfl
  unfold Host.capture at uncaptured
  cases file : host.file (joinPath host.tmpdir (filenameOf (some captureId))) with
  | missing message =>
    right
    have replied : (sniffer.next (host, .getCapture (some (some captureId)))).replies =
        sniffer.replies ++ [⟨.getCapture (some (some captureId)), .errorReply message⟩] := by
      simp [next, onRequest, onGetCapture, file, reply, publish]
    exact answer_reply asked replied
  | inaccessible exception message | unreadable exception message =>
    left
    apply answer_silent asked
    simp [next, onRequest, onGetCapture, file]
  | content bytes =>
    cases bytes with
    | nil =>
      left
      apply answer_silent asked
      simp [next, onRequest, onGetCapture, file]
    | cons first rest =>
      rw [file] at uncaptured
      cases uncaptured

end PacketSniffer.Sniffer

/-- The end of a test case asks for an analysis among its requests only. -/
theorem FinishOutcome.filter_published (outcome : FinishOutcome) (info : TestCaseInfo) :
    (outcome.published info).filter Message.isAnalyze =
      outcome.requests.filter Message.isAnalyze := by
  cases outcome <;> simp [published, requests, Message.isAnalyze]

/-- A test case whose capture can be read is analyzed with that capture. -/
theorem finishOutcome_captured {services : Services} {captureId value : String}
    {analyze : String → Message} {tc : TestCase}
    (captured : Handler.captureOf services.getCapture = .ok (.ok value)) :
    (∃ exception, finishOutcome services captureId analyze tc = .refused exception) ∨
      (finishOutcome services captureId analyze tc).requests =
        [.sniffingStop, .sniffingGetCapture captureId, analyze value] := by
  unfold finishOutcome
  cases tc.checkAllStepsFinished with
  | error exception => exact .inl ⟨exception, rfl⟩
  | ok past =>
    cases past with
    | false => exact .inl ⟨_, rfl⟩
    | true =>
      right
      simp only [captured]
      cases Handler.analysisOf services.analysis with
      | error exception => rfl
      | ok answer =>
        cases answer with
        | error message => rfl
        | ok items =>
          dsimp only
          cases TestCase.analysisReport tc.sequence items <;> rfl

/-- A test case whose capture is not there gets an error as its verdict, without an analysis. -/
theorem finishOutcome_uncaptured {services : Services} {captureId message : String}
    {analyze : String → Message} {tc : TestCase}
    (uncaptured : Handler.captureOf services.getCapture = .ok (.error message)) :
    (∃ exception, finishOutcome services captureId analyze tc = .refused exception) ∨
      finishOutcome services captureId analyze tc =
        .completed ⟨.error, message, []⟩ [.sniffingStop, .sniffingGetCapture captureId] := by
  unfold finishOutcome
  cases tc.checkAllStepsFinished with
  | error exception => exact .inl ⟨exception, rfl⟩
  | ok past =>
    cases past with
    | false => exact .inl ⟨_, rfl⟩
    | true =>
      right
      simp only [uncaptured]

namespace Coordinator

variable {td : TestDescriptions}

/-- What an input publishes. -/
def published (upper : String → String) (c : Coordinator td) (input : Input) : List Message :=
  (next upper c input).bus.drop c.bus.length

variable {upper : String → String} {c : Coordinator td} {input : Input} {services : Services}
  {i : Fin td.size}

/-- A move that asks for a capture is the end of the current test case, and saves the capture that is
answered. -/
theorem Move.ends {event : Event} (move : Move c (.event event services)
    (c.handle upper (.event event services))) (current : c.testsuite.currentTc = some i)
    {captureId : String}
    (asked : .sniffingGetCapture captureId ∈ c.published upper (.event event services)) :
    (next upper c (.event event services)).captures = (c.save services.captureFile).captures ∧
      ∃ before ended later tc info,
        c.published upper (.event event services) = before ++ ended ++ later ∧
        info.testcaseId = td.id i ∧ ended ≠ [] ∧
        ended = (finishOutcome services (td.id i) (c.analyzeRequest i) tc).published info ∧
        before.filter Message.isAnalyze = [] ∧ later.filter Message.isAnalyze = [] := by
  have unasked {sent : List Message} (apart : ∀ message ∈ sent, message.Apart) :
      .sniffingGetCapture captureId ∉ sent := fun member => by cases apart _ member
  have unanalyzed {sent : List Message} (apart : ∀ message ∈ sent, message.Apart) :
      sent.filter Message.isAnalyze = [] := by
    rw [List.filter_eq_nil_iff]
    intro message member
    have quiet := apart message member
    cases message <;> simp_all [Message.Apart, Message.concludes, Message.isAnalyze]
  cases move.consults with
  | inl sends =>
    obtain ⟨sent, bus, apart⟩ := sends
    rw [published, next, bus, List.drop_left] at asked
    exact absurd asked (unasked apart)
  | inr consults =>
    obtain ⟨_, _, j, same, here, saved, before, ended, later, tc, info, bus, named, ending, apart,
      others⟩ := consults
    cases same
    obtain rfl : j = i := Option.some.inj (here.symm.trans current)
    have split : c.published upper (.event event services) = before ++ ended ++ later := by
      rw [published, next, bus, List.drop_left]
    have routine : ∀ message ∈ before, message.Apart := fun message member =>
      (apart message member).1
    refine ⟨saved, before, ended, later, tc, info, split, named, ?_, ending, unanalyzed routine,
      unanalyzed others⟩
    intro empty
    rw [split, empty, List.append_nil] at asked
    exact (List.mem_append.mp asked).elim (unasked routine) (unasked others)

/-- **A capture reaches the disk of the coordinator and the analysis tool as the sniffer has it.**
When the end of a test case asks the sniffer, the bytes of its file are saved and handed to the
analysis tool, in one request; without them nothing is analyzed and the verdict is an error. -/
theorem captures_intact (upper : String → String) (testsuiteName : String) (c : Coordinator td)
    (event : Event) (i : Fin td.size) (host : Host) (sniffer : Sniffer) (repr : String)
    (services : Services) (reached : Reached upper testsuiteName (Survives upper) c)
    (survives : Survives upper c (.event event services))
    (current : c.testsuite.currentTc = some i)
    (answered : services.getCapture =
      sniffer.answer host (.sniffingGetCapture (td.id i)) repr)
    (asked : .sniffingGetCapture (td.id i) ∈ c.published upper (.event event services)) :
    match host.capture (td.id i) with
    | some bytes =>
      (next upper c (.event event services)).captures.get? (td.id i ++ ".pcap") = some bytes ∧
        ∃ value, b64decode value = some bytes ∧
          (c.published upper (.event event services)).filter Message.isAnalyze =
            [c.analyzeRequest i value]
    | none =>
      (next upper c (.event event services)).captures = c.captures ∧
        (c.published upper (.event event services)).filter Message.isAnalyze = [] ∧
        ∃ message info, info.testcaseId = td.id i ∧
          .testCaseVerdict ⟨.error, message, []⟩ info ∈
            c.published upper (.event event services) := by
  have move := reached_move (fun _ _ survives => .inr survives) reached survives
  obtain ⟨saved, before, ended, later, tc, info, split, named, nonempty, ending, apart, others⟩ :=
    move.ends current asked
  have analyses : (c.published upper (.event event services)).filter Message.isAnalyze =
      ended.filter Message.isAnalyze := by
    rw [split, List.filter_append, List.filter_append, apart, others, List.append_nil,
      List.nil_append]
  rw [analyses, saved]
  cases captured : host.capture (td.id i) with
  | some bytes =>
    have reply := answered.trans (Sniffer.answer_captured captured)
    have decoded := b64decode_b64encode bytes
    have read : Handler.captureOf services.getCapture = .ok (.ok (b64encode bytes)) := by
      simp [reply, Handler.captureOf, b64decodes_b64encode]
    have file : services.captureFile = some (td.id i ++ ".pcap", bytes) := by
      simp [Services.captureFile, reply, Handler.captureFile, decoded]
    refine ⟨by simp [file, save, OrderedDict.get?_insert], b64encode bytes, decoded, ?_⟩
    cases finishOutcome_captured read with
    | inl refused =>
      obtain ⟨exception, outcome⟩ := refused
      rw [ending, outcome] at nonempty
      exact absurd rfl nonempty
    | inr requests =>
      rw [ending, FinishOutcome.filter_published, requests]
      simp [Message.isAnalyze, analyzeRequest]
  | none =>
    have reply : services.captureFile = none ∧
        ∃ message, Handler.captureOf services.getCapture = .ok (.error message) := by
      rw [Services.captureFile, answered]
      cases Sniffer.answer_uncaptured captured with
      | inl silent => exact silent ▸ ⟨rfl, _, rfl⟩
      | inr failed => exact failed ▸ ⟨rfl, _, rfl⟩
    obtain ⟨unsaved, message, failed⟩ := reply
    cases finishOutcome_uncaptured failed with
    | inl refused =>
      obtain ⟨exception, outcome⟩ := refused
      rw [ending, outcome] at nonempty
      exact absurd rfl nonempty
    | inr outcome =>
      rw [outcome] at ending
      refine ⟨by rw [unsaved]; rfl, by simp [ending, FinishOutcome.published, Message.isAnalyze],
        message, info, named, ?_⟩
      rw [split, ending]
      simp [FinishOutcome.published]

/-- The small suite while the verify step of its first test case is executed. -/
def verifyAwaited : Coordinator smallSuite :=
  afterwards [.event .testSuiteStart noServices, .event (.testCaseStart none) noServices,
    .event (.stepStimuliExecuted none) noServices]

/-- The answer to the first step is survived. -/
theorem verifyAwaited_reached : Reached id "coap" (Survives id) verifyAwaited :=
  afterwards_reached (by decide +kernel)

/-- The sniffer has captured four bytes, and the analysis finds nothing wrong with them. -/
def capturedServices : Services where
  getCapture := Sniffer.answer (hostWith [212, 195, 178, 161]) {}
    (.sniffingGetCapture "TD_COAP_CORE_01") ""
  analysis := smallServices.analysis

/-- Four bytes on their way. -/
theorem captures_intact_small :
    (next id verifyAwaited
        (.event (.stepVerifyExecuted (some (some true)) none) capturedServices)).captures.get?
          "TD_COAP_CORE_01.pcap" = some [212, 195, 178, 161] ∧
      ∃ value, b64decode value = some [212, 195, 178, 161] ∧
        (verifyAwaited.published id
          (.event (.stepVerifyExecuted (some (some true)) none) capturedServices)).filter
            Message.isAnalyze = [verifyAwaited.analyzeRequest smallFirst value] :=
  captures_intact id "coap" verifyAwaited (.stepVerifyExecuted (some (some true)) none) smallFirst
    (hostWith [212, 195, 178, 161]) {} "" capturedServices verifyAwaited_reached
    (by decide +kernel) (by decide +kernel) rfl (by decide +kernel)

end Coordinator

end Ioppytest
