import Ioppytest.EventBus.SavedResults
import Ioppytest.Lib.Paths
import Ioppytest.Properties.Captures
import Ioppytest.Properties.Completion

/-!
# What is saved of a session

The files that are written while a session goes on, and the requests that reach the results store,
agree with each other and with what the coordinator reports in the end.
-/

namespace Ioppytest

open PyString Raising PacketSniffer

variable {td : TestDescriptions}

/-- Messages that do not belong to the end of a test case hold no verdict. -/
theorem Message.apart_verdict {sent : List Message} (apart : ∀ message ∈ sent, message.Apart)
    (report : Report) (info : TestCaseInfo) : .testCaseVerdict report info ∉ sent :=
  fun member => by cases apart _ member

/-- The end of a test case reports nothing about the session. -/
theorem FinishOutcome.published_report {services : Services} {captureId : String}
    {analyze : String → Message} {tc : TestCase} {info : TestCaseInfo}
    (plain : ∀ pcap results, analyze pcap ≠ .testSuiteReport results)
    (results : Option (List ReportItem)) :
    .testSuiteReport results ∉ (finishOutcome services captureId analyze tc).published info := by
  have asked : .testSuiteReport results ∉ (finishOutcome services captureId analyze tc).requests := by
    intro member
    rcases requests_mem member with wrong | wrong | ⟨pcap, wrong⟩
    · cases wrong
    · cases wrong
    · exact plain pcap results wrong.symm
  intro member
  cases outcome : finishOutcome services captureId analyze tc with
  | refused exception =>
    rw [outcome] at member
    cases member
  | interrupted exception requests =>
    rw [outcome] at member asked
    exact asked member
  | completed report requests =>
    rw [outcome] at member asked
    simp only [published, List.mem_append, List.mem_cons, reduceCtorEq, List.not_mem_nil,
      or_false] at member
    exact asked member

/-- A verdict at the end of a test case is about that test case. -/
theorem FinishOutcome.published_verdict {services : Services} {captureId : String}
    {analyze : String → Message} {tc : TestCase} {info other : TestCaseInfo} {report : Report}
    (plain : ∀ pcap report info, analyze pcap ≠ .testCaseVerdict report info)
    (member : .testCaseVerdict report other ∈
      (finishOutcome services captureId analyze tc).published info) : other = info := by
  have asked : .testCaseVerdict report other ∉
      (finishOutcome services captureId analyze tc).requests := by
    intro inside
    rcases requests_mem inside with wrong | wrong | ⟨pcap, wrong⟩
    · cases wrong
    · cases wrong
    · exact plain pcap report other wrong.symm
  cases outcome : finishOutcome services captureId analyze tc with
  | refused exception =>
    rw [outcome] at member
    cases member
  | interrupted exception requests =>
    rw [outcome] at member asked
    exact absurd member asked
  | completed final requests =>
    rw [outcome] at member asked
    simp only [published, List.mem_append, List.mem_cons, List.not_mem_nil, or_false] at member
    rcases member with inside | wrong | same
    · exact absurd inside asked
    · cases wrong
    · cases same
      rfl

namespace Coordinator

variable {upper : String → String} {testsuiteName : String} {c : Coordinator td} {input : Input}

/-- Verdicts name test cases, and none follows a report of the session. -/
structure Filed (c : Coordinator td) : Prop where
  /-- A verdict names a test case. -/
  named : ∀ report info, .testCaseVerdict report info ∈ c.bus → ∃ i, info.testcaseId = td.id i
  /-- Reports of the session come after the verdicts. -/
  order : ∃ early late, c.bus = early ++ late ∧ (∀ results, .testSuiteReport results ∉ early) ∧
    ∀ report info, .testCaseVerdict report info ∉ late

/-- At the end of the session no test case is the current one. -/
theorem Coherent.retired (coherent : Coherent c) (past : c.state = .testsuiteFinished) :
    c.testsuite.currentTc = none := by
  cases coherent with
  | finished _ idle _ _ _ => exact idle
  | setup wrong _ _ | waiting wrong _ _ _ =>
    rcases wrong with wrong | wrong <;> cases past.symm.trans wrong
  | executing _ wrong _ _ _ | stuck _ wrong _ _ _ => cases past.symm.trans wrong

/-- Every move keeps verdicts before reports. -/
theorem Move.filed {result : EStateM.Result PyException (Coordinator td) Bool}
    (move : Move c input result) (coherent : Coherent c) (accounted : c.Accounted)
    (filed : c.Filed) : (finalState result).Filed := by
  cases move.consults with
  | inl sends =>
    obtain ⟨sent, bus, apart⟩ := sends
    have unjudged := Message.apart_verdict apart
    constructor
    · intro report info member
      rw [bus] at member
      exact filed.named report info ((List.mem_append.mp member).resolve_right (unjudged report info))
    · obtain ⟨early, late, whole, unreported, judged⟩ := filed.order
      refine ⟨early, late ++ sent, by rw [bus, whole, List.append_assoc], unreported, ?_⟩
      intro report info member
      exact (List.mem_append.mp member).elim (judged report info) (unjudged report info)
  | inr consults =>
    obtain ⟨event, services, i, -, current, -, before, ended, later, tc, info, bus, named, ending,
      routine, apart⟩ := consults
    have quiet := Message.apart_verdict fun message member => (routine message member).1
    have unjudged := Message.apart_verdict apart
    have going : c.state ≠ .testsuiteFinished := by
      intro past
      rw [coherent.retired past] at current
      cases current
    constructor
    · intro report other member
      simp only [bus, List.mem_append] at member
      rcases member with earlier | (inside | inside) | inside
      · exact filed.named report other earlier
      · exact absurd inside (quiet report other)
      · rw [ending] at inside
        have same := FinishOutcome.published_verdict (fun _ _ _ => Message.noConfusion) inside
        exact ⟨i, same ▸ named⟩
      · exact absurd inside (unjudged report other)
    · refine ⟨c.bus ++ (before ++ ended), later, by simp only [bus, List.append_assoc], ?_, unjudged⟩
      intro results member
      simp only [List.mem_append] at member
      rcases member with earlier | inside | inside
      · exact going (accounted.only results earlier).1
      · exact (routine _ inside).2
      · rw [ending] at inside
        exact FinishOutcome.published_report (fun _ _ => Message.noConfusion) results inside

/-- In every reached state verdicts come before reports. -/
theorem reached_filed {allowed : Coordinator td → Input → Prop}
    (tame : ∀ c input, allowed c input → input.Known td ∨ Survives upper c input)
    (reached : Reached upper testsuiteName allowed c) : c.Filed := by
  refine reached.invariant ⟨fun _ _ member => ?_, [], [], rfl, by simp, by simp⟩ ?_
  · cases member
  · intro c input earlier filed permitted
    exact (reached_move tame earlier permitted).filed (reached_coherent tame earlier)
      (reached_accounted tame earlier) filed

end Coordinator

namespace ResultsLogToFile

variable {resultsDir : String} {log : ResultsLogToFile} {message : BusMessage}

/-- The file that a message leaves, with its path. -/
def written (resultsDir : String) : BusMessage → Option (String × SavedFile)
  | .published (.testSuiteReport tcResults) => some (reportPath resultsDir, .report tcResults)
  | .published (.testCaseVerdict report tc) =>
    some (verdictPath resultsDir tc.testcaseId, .verdict report tc)
  | .captureReply reply =>
    (Handler.captureFile (some reply)).map fun file => (joinPath resultsDir file.1, .pcap file.2)
  | _ => none

/-- The content that a message gives to the file at a path. -/
def writtenTo (resultsDir path : String) (message : BusMessage) : Option SavedFile :=
  (written resultsDir message).bind fun file => if file.1 = path then some file.2 else none

/-- A reply about a capture comes from the sniffer, which was asked for the capture of a test
case. -/
def Sniffed (td : TestDescriptions) : BusMessage → Prop
  | .captureReply reply => ∃ host sniffer i repr,
      Sniffer.answer host sniffer (.sniffingGetCapture (td.id i)) repr = some reply
  | _ => True

/-- A reply of the sniffer hands out the capture of a test case, or is an error. -/
theorem Sniffed.cases {reply : SnifferReply} (sniffed : Sniffed td (.captureReply reply)) :
    (∃ i bytes, reply.ok = some (some true) ∧ reply.value = some (some (b64encode bytes)) ∧
      reply.filename = some (some (td.id i ++ ".pcap"))) ∨ reply.ok = some (some false) := by
  obtain ⟨host, sniffer, i, repr, answered⟩ := sniffed
  cases captured : host.capture (td.id i) with
  | some bytes =>
    rw [Sniffer.answer_captured captured] at answered
    cases answered
    exact .inl ⟨i, bytes, rfl, rfl, rfl⟩
  | none =>
    right
    cases Sniffer.answer_uncaptured captured with
    | inl silent => cases silent.symm.trans answered
    | inr failed =>
      cases failed.symm.trans answered
      rfl

/-- The path of a file that belongs to the results of a session. -/
def ExpectedPath (td : TestDescriptions) (resultsDir path : String) : Prop :=
  path = reportPath resultsDir ∨ ∃ i : Fin td.size,
    path = verdictPath resultsDir (td.id i) ∨ path = joinPath resultsDir (td.id i ++ ".pcap")

/-- Only such files are written. -/
theorem written_path {file : String × SavedFile} (sniffed : Sniffed td message)
    (named : ∀ report tc, message = .published (.testCaseVerdict report tc) →
      ∃ j, tc.testcaseId = td.id j) (wrote : written resultsDir message = some file) :
    ExpectedPath td resultsDir file.1 := by
  cases message with
  | terminate | other => cases wrote
  | captureReply reply =>
    cases sniffed.cases with
    | inl captured =>
      obtain ⟨i, bytes, ok, value, filename⟩ := captured
      obtain ⟨_, _, _, repr⟩ := reply
      subst ok value filename
      cases wrote
      exact .inr ⟨i, .inr rfl⟩
    | inr failed =>
      obtain ⟨_, value, filename, repr⟩ := reply
      subst failed
      cases wrote
  | published message =>
    cases message with
    | testSuiteReport tcResults =>
      cases wrote
      exact .inl rfl
    | testCaseVerdict report tc =>
      obtain ⟨i, name⟩ := named report tc rfl
      cases wrote
      exact .inr ⟨i, .inl (congrArg (verdictPath resultsDir) name)⟩
    | _ => cases wrote

/-- A file that is written replaces the one at its path. -/
theorem get?_write (target path : String) (content : SavedFile) :
    (log.files.insert target content).get? path =
      (if target = path then some content else none).or (log.files.get? path) := by
  rw [OrderedDict.get?_insert]
  by_cases same : path = target
  · simp [same]
  · have apart : ¬ target = path := fun equal => same equal.symm
    simp [same, apart]

/-- A capture is written; the file is opened, and thereby emptied, before. -/
theorem processMessage_capture {value : String} {bytes : List UInt8} (name : String)
    (decoded : b64decode value = some bytes) {repr : String} :
    finalState ((processMessage resultsDir
        (.captureReply ⟨some (some true), some (some value), some (some name), repr⟩)).run log) =
      ⟨(log.files.insert (joinPath resultsDir name) (.pcap [])).insert (joinPath resultsDir name)
        (.pcap bytes), log.stopped⟩ := by
  simp [processMessage, write, decoded]

/-- Every message but the termination leaves its file and goes on. -/
theorem hear_files (sniffed : Sniffed td message) (going : message ≠ .terminate)
    (running : log.stopped = false) (path : String) :
    (hear resultsDir log message).stopped = false ∧
      (hear resultsDir log message).files.get? path =
        (writtenTo resultsDir path message).or (log.files.get? path) := by
  unfold hear
  rw [if_neg (by simp [running])]
  cases message with
  | terminate => exact absurd rfl going
  | other => exact ⟨running, rfl⟩
  | captureReply reply =>
    cases sniffed.cases with
    | inl captured =>
      obtain ⟨i, bytes, ok, value, filename⟩ := captured
      obtain ⟨_, _, _, repr⟩ := reply
      subst ok value filename
      rw [processMessage_capture _ (b64decode_b64encode bytes)]
      refine ⟨running, ?_⟩
      rw [OrderedDict.get?_insert, OrderedDict.get?_insert]
      simp only [writtenTo, written, Handler.captureFile, Option.bind_some, b64decode_b64encode,
        Option.getD_some, Option.map_some]
      by_cases same : path = joinPath resultsDir (td.id i ++ ".pcap")
      · simp [same]
      · have apart : joinPath resultsDir (td.id i ++ ".pcap") ≠ path := Ne.symm same
        simp [same, apart]
    | inr failed =>
      obtain ⟨_, value, filename, repr⟩ := reply
      subst failed
      exact ⟨by simp [processMessage, running], by simp [processMessage, writtenTo, written,
        Handler.captureFile]⟩
  | published message =>
    cases message with
    | testSuiteReport tcResults => exact ⟨running, get?_write _ path _⟩
    | testCaseVerdict report tc => exact ⟨running, get?_write _ path _⟩
    | _ => exact ⟨running, rfl⟩

/-- What is read from a file is what was written last. -/
theorem files_heard {heard : List BusMessage} (sniffed : ∀ message ∈ heard, Sniffed td message)
    (going : .terminate ∉ heard) (running : log.stopped = false) (path : String) :
    (heard.foldl (hear resultsDir) log).files.get? path =
      ((heard.filterMap (writtenTo resultsDir path)).getLast?).or (log.files.get? path) := by
  induction heard generalizing log with
  | nil => rfl
  | cons message rest ih =>
    have here : (hear resultsDir log message).stopped = false ∧
        (hear resultsDir log message).files.get? path =
          (writtenTo resultsDir path message).or (log.files.get? path) :=
      hear_files (sniffed message List.mem_cons_self)
        (fun same => going (same ▸ List.mem_cons_self)) running path
    rw [List.foldl_cons, ih (fun later member => sniffed later (List.mem_cons_of_mem _ member))
      (fun member => going (List.mem_cons_of_mem _ member)) here.1, here.2]
    cases writes : writtenTo resultsDir path message with
    | none => rw [List.filterMap_cons_none writes, Option.none_or]
    | some content =>
      rw [List.filterMap_cons_some writes, List.getLast?_cons]
      cases (rest.filterMap (writtenTo resultsDir path)).getLast? <;> rfl

/-- The ids of the test cases are plain names. -/
def PlainIds (td : TestDescriptions) : Prop := ∀ i, Relative (td.id i)

/-- The ids of a suite are a list. -/
instance (td : TestDescriptions) : Decidable (PlainIds td) :=
  inferInstanceAs (Decidable (∀ i : Fin td.size, Relative (td.id i)))

/-- A verdict about a test case, with what it says about it. -/
def judgement (id : String) : Message → Option (Report × TestCaseInfo)
  | .testCaseVerdict report tc => if tc.testcaseId = id then some (report, tc) else none
  | _ => none

/-- The results in a report of the session. -/
def results : Message → Option (Option (List ReportItem))
  | .testSuiteReport tcResults => some tcResults
  | _ => none

/-- The bytes that a reply hands out for a test case. -/
def captureFor (id : String) : BusMessage → Option (List UInt8)
  | .captureReply reply => (Handler.captureFile (some reply)).bind fun file =>
    if file.1 = id ++ ".pcap" then some file.2 else none
  | _ => none

/-- The last verdict is the last judgement. -/
theorem lastVerdict_eq (messages : List Message) (id : String) :
    lastVerdict messages id = ((messages.filterMap (judgement id)).getLast?).map (·.1) := by
  rw [lastVerdict, ← List.getLast?_map, List.map_filterMap]
  congr 2
  funext message
  cases message with
  | testCaseVerdict report tc =>
    simp only [Message.verdictFor, judgement]
    split <;> rfl
  | _ => rfl

/-- A capture is saved under a name that ends differently. -/
theorem capture_ends (id : String) : (id ++ ".pcap").toList.getLast? = some 'p' :=
  getLast?_ending id (by decide)

/-- The file of a verdict has another ending. -/
theorem verdict_ends (id : String) : (id ++ "_verdict.json").toList.getLast? = some 'n' :=
  getLast?_ending id (by decide)

/-- So has the file of the report. -/
theorem report_ends : "final_report.json".toList.getLast? = some 'n' := by decide

/-- No verdict is saved under the name of the report. -/
theorem verdict_name (id : String) : "final_report.json" ≠ id ++ "_verdict.json" := by
  intro same
  have split : "final_report.json" = "fina" ++ "l_report.json" := by decide
  rw [split] at same
  have endings := (ending_eq (by decide) same).2
  exact absurd endings (by decide)

section Paths

variable {i : Fin td.size} (plain : PlainIds td)

include plain

/-- Nothing else is written to the file of a verdict. -/
theorem writtenTo_verdictPath (sniffed : Sniffed td message)
    (named : ∀ report tc, message = .published (.testCaseVerdict report tc) →
      ∃ j, tc.testcaseId = td.id j) :
    writtenTo resultsDir (verdictPath resultsDir (td.id i)) message =
      (message.message?.bind (judgement (td.id i))).map fun entry => .verdict entry.1 entry.2 := by
  have here : Relative (td.id i ++ "_verdict.json") := (plain i).append (by decide)
  cases message with
  | terminate => rfl
  | other => rfl
  | captureReply reply =>
    cases sniffed.cases with
    | inl captured =>
      obtain ⟨j, bytes, ok, value, filename⟩ := captured
      obtain ⟨_, _, _, repr⟩ := reply
      subst ok value filename
      have apart : joinPath resultsDir (td.id j ++ ".pcap") ≠ verdictPath resultsDir (td.id i) :=
        fun same => ne_of_getLast (capture_ends _) (verdict_ends _) (by decide)
          (joinPath_inj ((plain j).append (by decide)) here same)
      simp [writtenTo, written, Handler.captureFile, b64decode_b64encode, apart,
        BusMessage.message?]
    | inr failed =>
      obtain ⟨_, value, filename, repr⟩ := reply
      subst failed
      rfl
  | published message =>
    cases message with
    | testSuiteReport tcResults =>
      have apart : reportPath resultsDir ≠ verdictPath resultsDir (td.id i) := fun same =>
        verdict_name (td.id i) (joinPath_inj (by decide) here same)
      simp [writtenTo, written, apart, BusMessage.message?, judgement]
    | testCaseVerdict report tc =>
      obtain ⟨j, name⟩ := named report tc rfl
      have path : verdictPath resultsDir tc.testcaseId = verdictPath resultsDir (td.id i) ↔
          tc.testcaseId = td.id i := by
        constructor
        · intro same
          rw [name] at same ⊢
          exact (ending_eq rfl (joinPath_inj ((plain j).append (by decide)) here same)).1
        · exact fun same => congrArg _ same
      simp only [writtenTo, written, Option.bind_some, path, BusMessage.message?, judgement]
      split <;> rfl
    | _ => rfl

/-- Nothing else is written to the file of the report. -/
theorem writtenTo_reportPath (sniffed : Sniffed td message)
    (named : ∀ report tc, message = .published (.testCaseVerdict report tc) →
      ∃ j, tc.testcaseId = td.id j) :
    writtenTo resultsDir (reportPath resultsDir) message =
      (message.message?.bind results).map .report := by
  cases message with
  | terminate => rfl
  | other => rfl
  | captureReply reply =>
    cases sniffed.cases with
    | inl captured =>
      obtain ⟨j, bytes, ok, value, filename⟩ := captured
      obtain ⟨_, _, _, repr⟩ := reply
      subst ok value filename
      have apart : joinPath resultsDir (td.id j ++ ".pcap") ≠ reportPath resultsDir := fun same =>
        ne_of_getLast (capture_ends _) report_ends (by decide)
          (joinPath_inj ((plain j).append (by decide)) (by decide) same)
      simp [writtenTo, written, Handler.captureFile, b64decode_b64encode, apart,
        BusMessage.message?]
    | inr failed =>
      obtain ⟨_, value, filename, repr⟩ := reply
      subst failed
      rfl
  | published message =>
    cases message with
    | testSuiteReport tcResults =>
      simp [writtenTo, written, BusMessage.message?, results]
    | testCaseVerdict report tc =>
      obtain ⟨j, name⟩ := named report tc rfl
      have apart : verdictPath resultsDir tc.testcaseId ≠ reportPath resultsDir := fun same => by
        rw [name] at same
        exact verdict_name (td.id j) (joinPath_inj ((plain j).append (by decide)) (by decide) same).symm
      simp [writtenTo, written, apart, BusMessage.message?, results]
    | _ => rfl

/-- Nothing else is written to the file of a capture. -/
theorem writtenTo_pcap (sniffed : Sniffed td message)
    (named : ∀ report tc, message = .published (.testCaseVerdict report tc) →
      ∃ j, tc.testcaseId = td.id j) :
    writtenTo resultsDir (joinPath resultsDir (td.id i ++ ".pcap")) message =
      (captureFor (td.id i) message).map .pcap := by
  have here : Relative (td.id i ++ ".pcap") := (plain i).append (by decide)
  cases message with
  | terminate => rfl
  | other => rfl
  | captureReply reply =>
    cases sniffed.cases with
    | inl captured =>
      obtain ⟨j, bytes, ok, value, filename⟩ := captured
      obtain ⟨_, _, _, repr⟩ := reply
      subst ok value filename
      have path : joinPath resultsDir (td.id j ++ ".pcap") =
          joinPath resultsDir (td.id i ++ ".pcap") ↔ td.id j ++ ".pcap" = td.id i ++ ".pcap" :=
        ⟨joinPath_inj ((plain j).append (by decide)) here, fun same => congrArg _ same⟩
      simp only [writtenTo, written, captureFor, Handler.captureFile, b64decode_b64encode,
        Option.map_some, Option.bind_some, path]
      split <;> rfl
    | inr failed =>
      obtain ⟨_, value, filename, repr⟩ := reply
      subst failed
      rfl
  | published message =>
    cases message with
    | testSuiteReport tcResults =>
      have apart : reportPath resultsDir ≠ joinPath resultsDir (td.id i ++ ".pcap") := fun same =>
        ne_of_getLast report_ends (capture_ends _) (by decide) (joinPath_inj (by decide) here same)
      simp [writtenTo, written, apart, captureFor]
    | testCaseVerdict report tc =>
      obtain ⟨j, name⟩ := named report tc rfl
      have apart : verdictPath resultsDir tc.testcaseId ≠
          joinPath resultsDir (td.id i ++ ".pcap") := fun same => by
        rw [name] at same
        exact ne_of_getLast (verdict_ends _) (capture_ends _) (by decide)
          (joinPath_inj ((plain j).append (by decide)) here same)
      simp [writtenTo, written, apart, captureFor]
    | _ => rfl

end Paths

section Heard

variable {published : List Message} {heard : List BusMessage} (plain : PlainIds td)
  (complete : heard.filterMap (·.message?) = published)
  (sniffed : ∀ message ∈ heard, Sniffed td message) (going : .terminate ∉ heard)
  (named : ∀ report tc, .testCaseVerdict report tc ∈ published → ∃ j, tc.testcaseId = td.id j)

include complete in
/-- A projection of the heard messages that looks at those of the coordinator only. -/
theorem filterMap_published {α : Type} {pick : BusMessage → Option SavedFile}
    {look : Message → Option α} {content : α → SavedFile}
    (same : ∀ message ∈ heard, pick message = (message.message?.bind look).map content) :
    heard.filterMap pick = (published.filterMap look).map content := by
  rw [← complete, List.filterMap_filterMap, List.map_filterMap]
  exact List.filterMap_congr same

include complete named in
/-- The verdicts that were heard name test cases. -/
theorem heard_named {report : Report} {tc : TestCaseInfo} {message : BusMessage}
    (member : message ∈ heard) (verdict : message = .published (.testCaseVerdict report tc)) :
    ∃ j, tc.testcaseId = td.id j := by
  apply named report tc
  rw [← complete]
  exact List.mem_filterMap.mpr ⟨message, member, by rw [verdict]; rfl⟩

include sniffed going in
/-- What is read from a file at the end. -/
theorem get?_heard (path : String) : (heard.foldl (hear resultsDir) {}).files.get? path =
    (heard.filterMap (writtenTo resultsDir path)).getLast? := by
  rw [files_heard sniffed going rfl]
  exact Option.or_none

include plain complete sniffed going named

/-- The verdict file of a test case holds its last verdict. -/
theorem savedVerdict_heard (i : Fin td.size) :
    savedVerdict resultsDir (heard.foldl (hear resultsDir) {}) (td.id i) =
      lastVerdict published (td.id i) := by
  have files : heard.filterMap (writtenTo resultsDir (verdictPath resultsDir (td.id i))) =
      (published.filterMap (judgement (td.id i))).map fun entry => .verdict entry.1 entry.2 :=
    filterMap_published complete fun message member =>
      writtenTo_verdictPath plain (sniffed message member) fun _ _ verdict =>
        heard_named complete named member verdict
  rw [savedVerdict, get?_heard sniffed going, files, List.getLast?_map, lastVerdict_eq]
  cases (published.filterMap (judgement (td.id i))).getLast? <;> rfl

/-- The capture file of a test case holds what was handed out last. -/
theorem savedPcap_heard (i : Fin td.size) :
    savedPcap resultsDir (heard.foldl (hear resultsDir) {}) (td.id i) =
      (heard.filterMap (captureFor (td.id i))).getLast? := by
  have files : heard.filterMap (writtenTo resultsDir (joinPath resultsDir (td.id i ++ ".pcap"))) =
      (heard.filterMap (captureFor (td.id i))).map .pcap := by
    rw [List.map_filterMap]
    exact List.filterMap_congr fun message member =>
      writtenTo_pcap plain (sniffed message member) fun _ _ verdict =>
        heard_named complete named member verdict
  rw [savedPcap, get?_heard sniffed going, files, List.getLast?_map]
  cases (heard.filterMap (captureFor (td.id i))).getLast? <;> rfl

omit plain sniffed in
/-- There are no other files. -/
theorem paths_heard (sniffed : ∀ message ∈ heard, Sniffed td message) {path : String}
    {content : SavedFile}
    (present : (heard.foldl (hear resultsDir) {}).files.get? path = some content) :
    ExpectedPath td resultsDir path := by
  rw [get?_heard sniffed going] at present
  obtain ⟨message, member, writes⟩ := List.mem_filterMap.mp (List.mem_of_getLast? present)
  obtain ⟨file, wrote, here⟩ := Option.bind_eq_some_iff.mp writes
  have same : file.1 = path := by
    by_contra apart
    simp [apart] at here
  rw [← same]
  exact written_path (sniffed message member)
    (fun _ _ verdict => heard_named complete named member verdict) wrote

/-- The file of the report holds the last one. -/
theorem report_heard :
    (heard.foldl (hear resultsDir) {}).files.get? (reportPath resultsDir) =
      ((published.filterMap results).getLast?).map .report := by
  have files : heard.filterMap (writtenTo resultsDir (reportPath resultsDir)) =
      (published.filterMap results).map .report :=
    filterMap_published complete fun message member =>
      writtenTo_reportPath plain (sniffed message member) fun _ _ verdict =>
        heard_named complete named member verdict
  rw [get?_heard sniffed going, files, List.getLast?_map]

end Heard

end ResultsLogToFile

namespace Coordinator

variable {upper : String → String} {testsuiteName : String} {c : Coordinator td}

/-- Before its end, no results of the session are published. -/
theorem Accounted.unreported (accounted : c.Accounted) (going : c.state ≠ .testsuiteFinished) :
    c.bus.filterMap ResultsLogToFile.results = [] := by
  rw [List.filterMap_eq_nil_iff]
  intro message member
  cases message with
  | testSuiteReport results => exact absurd (accounted.only results member).1 going
  | _ => rfl

/-- All results that are published are those of the end. -/
theorem Accounted.results (accounted : c.Accounted) (past : c.state = .testsuiteFinished) :
    (c.bus.filterMap ResultsLogToFile.results).getLast? = some (some c.testsuite.entries) := by
  obtain ⟨report, published⟩ := accounted.reported past
  cases last : (c.bus.filterMap ResultsLogToFile.results).getLast? with
  | none =>
    have empty := List.getLast?_eq_none_iff.mp last
    have member : c.testsuite.report ∈ c.bus.filterMap ResultsLogToFile.results :=
      List.mem_filterMap.mpr ⟨_, published, rfl⟩
    rw [empty] at member
    cases member
  | some results =>
    obtain ⟨message, member, same⟩ := List.mem_filterMap.mp (List.mem_of_getLast? last)
    cases message with
    | testSuiteReport tcResults =>
      obtain rfl : tcResults = results := Option.some.inj same
      rw [(accounted.only tcResults member).2, report]
    | _ => cases same

end Coordinator

namespace ResultsLogToFile

/-- **The files agree with the session.** Once everything that the coordinator has published was
heard, in any mixture with other messages, the verdict file of a test case holds its last verdict and
its capture file the bytes that the sniffer handed out last; the report is saved exactly at the end,
and holds for each test case what its verdict file does. There are no other files. -/
theorem results_saved (upper : String → String) (testsuiteName : String) (c : Coordinator td)
    (resultsDir : String) (heard : List BusMessage) (plain : PlainIds td)
    (reached : Coordinator.Reached upper testsuiteName (Coordinator.Survives upper) c)
    (complete : heard.filterMap (·.message?) = c.bus)
    (sniffed : ∀ message ∈ heard, Sniffed td message) (going : .terminate ∉ heard) :
    (∀ i, savedVerdict resultsDir (heard.foldl (hear resultsDir) {}) (td.id i) =
        lastVerdict c.bus (td.id i) ∧
      savedPcap resultsDir (heard.foldl (hear resultsDir) {}) (td.id i) =
        (heard.filterMap (captureFor (td.id i))).getLast?) ∧
    (c.state ≠ .testsuiteFinished →
      (heard.foldl (hear resultsDir) {}).files.get? (reportPath resultsDir) = none) ∧
    (c.state = .testsuiteFinished → ∃ entries,
      (heard.foldl (hear resultsDir) {}).files.get? (reportPath resultsDir) =
        some (.report (some entries)) ∧
      entries.map (·.testcaseId) = td.testcases.map (·.id) ∧
      ∀ entry ∈ entries, entry.report = (savedVerdict resultsDir
        (heard.foldl (hear resultsDir) {}) entry.testcaseId).getD missingReport) ∧
    ∀ path content, (heard.foldl (hear resultsDir) {}).files.get? path = some content →
      ExpectedPath td resultsDir path := by
  have tame : ∀ (c : Coordinator td) input, Coordinator.Survives upper c input →
      input.Known td ∨ Coordinator.Survives upper c input := fun _ _ survives => .inr survives
  have named := (Coordinator.reached_filed tame reached).named
  have accounted := Coordinator.reached_accounted tame reached
  have verdicts (i : Fin td.size) :
      savedVerdict resultsDir (heard.foldl (hear resultsDir) {}) (td.id i) =
        lastVerdict c.bus (td.id i) := savedVerdict_heard plain complete sniffed going named i
  refine ⟨fun i => ⟨verdicts i, savedPcap_heard plain complete sniffed going named i⟩, ?_, ?_,
    fun _ _ present => paths_heard complete going named sniffed present⟩
  · intro unfinished
    rw [report_heard plain complete sniffed going named, accounted.unreported unfinished]
    rfl
  · intro past
    refine ⟨c.testsuite.entries, ?_, c.testsuite.entries_ids, ?_⟩
    · rw [report_heard plain complete sniffed going named, accounted.results past]
      rfl
    · intro entry member
      obtain ⟨i, -, rfl⟩ := List.mem_map.mp member
      rw [verdicts i]
      exact accounted.kept i

section Small

open Coordinator

/-- The small suite at the end of a session in which one test case was finished and the other one was
skipped. -/
def smallReported : Coordinator smallSuite :=
  afterwards [.event .testSuiteStart noServices, .event (.testCaseStart none) noServices,
    .event (.stepStimuliExecuted none) noServices,
    .event (.stepVerifyExecuted (some (some true)) none) capturedServices,
    .event (.testCaseSkip (some none)) noServices]

/-- The report of the small session is reached. -/
theorem smallReported_reached : Coordinator.Reached id "coap" (Survives id) smallReported :=
  afterwards_reached (by decide +kernel)

/-- What is heard of it, with the reply of the sniffer among the messages of the coordinator. -/
def smallHeard : List BusMessage :=
  (smallReported.bus.take 9).map .published ++
    .captureReply ⟨some (some true), some (some (b64encode [212, 195, 178, 161])),
        some (some "TD_COAP_CORE_01.pcap"), ""⟩ ::
      (smallReported.bus.drop 9).map .published

/-- The files of the small session. -/
theorem results_saved_small :
    savedVerdict "results" (smallHeard.foldl (hear "results") {}) (smallSuite.id smallFirst) =
        lastVerdict smallReported.bus (smallSuite.id smallFirst) ∧
      savedPcap "results" (smallHeard.foldl (hear "results") {}) (smallSuite.id smallFirst) =
        some [212, 195, 178, 161] := by
  have sniffed : ∀ message ∈ smallHeard, Sniffed smallSuite message := by
    intro message member
    cases message with
    | captureReply reply =>
      simp only [smallHeard, List.mem_append, List.mem_map, List.mem_cons, reduceCtorEq, and_false,
        exists_false, false_or, or_false, BusMessage.captureReply.injEq] at member
      subst member
      exact ⟨hostWith [212, 195, 178, 161], {}, smallFirst, "", by decide +kernel⟩
    | _ => trivial
  have saved := (results_saved id "coap" smallReported "results" smallHeard (by decide +kernel)
    smallReported_reached (by decide +kernel) sniffed (by decide +kernel)).1 smallFirst
  exact ⟨saved.1, saved.2.trans (by decide +kernel)⟩

end Small

end ResultsLogToFile

/-- A message that carries a verdict. -/
def Message.verdict? : Message → Option (Report × TestCaseInfo)
  | .testCaseVerdict report tc => some (report, tc)
  | _ => none

/-- Without reports of the session, what is forwarded are the verdicts. -/
theorem forwarded_verdicts {messages : List Message}
    (unreported : ∀ results, .testSuiteReport results ∉ messages) :
    (messages.filter Message.forResultsStore).map saveResultIntoRsDb =
      (messages.filterMap Message.verdict?).map fun entry =>
        .ok (.intermediate entry.1 entry.2) := by
  induction messages with
  | nil => rfl
  | cons message rest ih =>
    have later := ih fun results member => unreported results (List.mem_cons_of_mem _ member)
    cases message with
    | testSuiteReport results => exact absurd List.mem_cons_self (unreported results)
    | testCaseVerdict report tc => exact congrArg (List.cons _) later
    | _ => exact later

/-- Without verdicts, what is forwarded are the reports of the session. -/
theorem forwarded_reports {messages : List Message} {results : Option (List ReportItem)}
    (unjudged : ∀ report tc, .testCaseVerdict report tc ∉ messages)
    (same : ∀ tcResults, .testSuiteReport tcResults ∈ messages → tcResults = results) :
    (messages.filter Message.forResultsStore).map saveResultIntoRsDb =
      List.replicate (messages.filterMap ResultsLogToFile.results).length (.ok (.final results)) := by
  induction messages with
  | nil => rfl
  | cons message rest ih =>
    have later := ih (fun report tc member => unjudged report tc (List.mem_cons_of_mem _ member))
      fun tcResults member => same tcResults (List.mem_cons_of_mem _ member)
    cases message with
    | testSuiteReport tcResults =>
      rw [same tcResults List.mem_cons_self]
      exact congrArg (List.cons _) later
    | testCaseVerdict report tc => exact absurd List.mem_cons_self (unjudged report tc)
    | _ => exact later

namespace Coordinator

/-- **What the results store is asked to save.** In every session these are the verdicts, in the order
in which they were published, and after them reports of the session, once it has ended and only then;
each of these holds for each test case what was saved for it last. -/
theorem results_forwarded (upper : String → String) (testsuiteName : String) (c : Coordinator td)
    (reached : Reached upper testsuiteName (Survives upper) c) :
    ∃ (verdicts : List (Report × TestCaseInfo)) (reports : Nat),
      (c.bus.filter Message.forResultsStore).map saveResultIntoRsDb =
        (verdicts.map fun entry => .ok (.intermediate entry.1 entry.2)) ++
          List.replicate reports (.ok (.final (some c.testsuite.entries))) ∧
      (0 < reports ↔ c.state = .testsuiteFinished) ∧
      ∀ entry ∈ c.testsuite.entries, entry.report =
        (((verdicts.filter fun saved => saved.2.testcaseId = entry.testcaseId).getLast?).map
          (·.1)).getD missingReport := by
  have tame : ∀ (c : Coordinator td) input, Survives upper c input →
      input.Known td ∨ Survives upper c input := fun _ _ survives => .inr survives
  have accounted := reached_accounted tame reached
  obtain ⟨early, late, split, unreported, unjudged⟩ := (reached_filed tame reached).order
  have last (id : String) : lastVerdict c.bus id =
      (((early.filterMap Message.verdict?).filter fun saved =>
        saved.2.testcaseId = id).getLast?).map (·.1) := by
    have judged : late.filterMap (Message.verdictFor id) = [] := by
      rw [List.filterMap_eq_nil_iff]
      intro message member
      cases message with
      | testCaseVerdict report tc => exact absurd member (unjudged report tc)
      | _ => rfl
    have picked : Message.verdictFor id = fun message =>
        (message.verdict?.filter fun saved => saved.2.testcaseId = id).map (·.1) := by
      funext message
      cases message with
      | testCaseVerdict report tc =>
        simp only [Message.verdictFor, Message.verdict?, Option.filter_some, decide_eq_true_eq]
        split <;> rfl
      | _ => rfl
    rw [lastVerdict, split, List.filterMap_append, judged, List.append_nil, ← List.getLast?_map,
      List.filter_filterMap, List.map_filterMap, picked]
  have reports : late.filterMap ResultsLogToFile.results =
      c.bus.filterMap ResultsLogToFile.results := by
    have none_early : early.filterMap ResultsLogToFile.results = [] := by
      rw [List.filterMap_eq_nil_iff]
      intro message member
      cases message with
      | testSuiteReport results => exact absurd member (unreported results)
      | _ => rfl
    rw [split, List.filterMap_append, none_early, List.nil_append]
  have final : ∀ tcResults, .testSuiteReport tcResults ∈ late →
      tcResults = some c.testsuite.entries := by
    intro tcResults member
    have inside : .testSuiteReport tcResults ∈ c.bus := by
      rw [split]
      exact List.mem_append_right _ member
    obtain ⟨past, same⟩ := accounted.only tcResults inside
    rw [same, (accounted.reported past).1]
  refine ⟨early.filterMap Message.verdict?, (late.filterMap ResultsLogToFile.results).length, ?_, ?_,
    ?_⟩
  · rw [split, List.filter_append, List.map_append, forwarded_verdicts unreported,
      forwarded_reports unjudged final]
  · rw [reports, List.length_pos_iff]
    constructor
    · intro nonempty
      by_contra going
      exact nonempty (accounted.unreported going)
    · intro past empty
      have results := accounted.results past
      rw [empty] at results
      cases results
  · intro entry member
    obtain ⟨i, -, rfl⟩ := List.mem_map.mp member
    rw [← last]
    exact accounted.kept i

/-- The small session sends a report of two entries in the end. -/
theorem results_forwarded_small :
    ∃ (verdicts : List (Report × TestCaseInfo)) (reports : Nat),
      (ResultsLogToFile.smallReported.bus.filter Message.forResultsStore).map saveResultIntoRsDb =
        (verdicts.map fun entry => .ok (.intermediate entry.1 entry.2)) ++
          List.replicate reports
            (.ok (.final (some ResultsLogToFile.smallReported.testsuite.entries))) ∧
      0 < reports := by
  obtain ⟨verdicts, reports, saved, past, -⟩ := results_forwarded id "coap"
    ResultsLogToFile.smallReported ResultsLogToFile.smallReported_reached
  exact ⟨verdicts, reports, saved, past.mpr (by decide +kernel)⟩

end Coordinator

end Ioppytest
