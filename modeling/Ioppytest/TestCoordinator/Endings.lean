import Ioppytest.TestCoordinator.Reactions

/-!
# The end of a test case

What `finish_testcase` does to a test case whose iterator has come to its end: it is refused when a
step is still being executed, it raises when the services answer that they succeeded and a field is
`None` or cannot be read, and it completes with a report otherwise.
-/

namespace Ioppytest

namespace Services

/-- A capture can be read when it has a file name and is base64. -/
def savable (value filename : Option String) : Bool :=
  value.any PyString.b64decodes && filename.isSome

/-- The sniffer answers that it succeeded, with the fields of a capture, which can be read or not. -/
def Captured (services : Services) (readable : Bool) : Prop :=
  ∃ value filename repr,
    services.getCapture = some ⟨some (some true), some value, some filename, repr⟩ ∧
      savable value filename = readable

/-- There are no partial verdicts, or there is one that nobody knows. -/
def Unjudged : Option (List (String × String)) → Prop
  | none => True
  | some verdicts => ∃ item ∈ verdicts, VerdictValue.ofName? item.1 = none

/-- The capture can be read, and the analysis tool answers that it succeeded, without partial
verdicts or with one that nobody knows. -/
def Misjudged (services : Services) : Prop :=
  services.Captured true ∧ ∃ verdicts message code repr,
    services.analysis = some ⟨some (some true), some verdicts, message, code, repr⟩ ∧
      Unjudged verdicts

/-- The answers of the services cannot be read. -/
def Unreadable (services : Services) : Prop := services.Captured false ∨ services.Misjudged

end Services

namespace TestCase

/-- Every step was executed or postponed. -/
def Complete (tc : TestCase) : Prop :=
  ∀ step ∈ tc.sequence, step.state = some .finished ∨ step.state = some .postponed

/-- A step is still being executed. -/
def Open (tc : TestCase) : Prop := ∃ step ∈ tc.sequence, step.state = some .executing

/-- A test case at its end is complete or has a step that is still being executed. -/
theorem Exhausted.complete_or_open {tc : TestCase} (exhausted : tc.Exhausted) :
    tc.Complete ∨ tc.Open := by
  by_cases blocked : tc.Open
  · exact .inr blocked
  · refine .inl fun step member => ?_
    obtain ⟨k, inside, rfl⟩ := List.getElem_of_mem member
    have before : k < tc.stepIt := Nat.lt_of_lt_of_le inside exhausted.past
    have visited := exhausted.visited k _ (List.getElem?_eq_getElem inside) before
    unfold Visited at visited
    split at visited
    · exact .inl (visited.resolve_left fun executing => blocked ⟨_, member, executing⟩)
    · exact .inr visited

/-- A step that is being executed is found. -/
theorem checkAllStepsFinished_open {tc : TestCase} (blocked : tc.Open) :
    tc.checkAllStepsFinished = .ok false := by
  obtain ⟨step, member, executing⟩ := blocked
  have unfinished : stepUnfinished step = true := by simp [stepUnfinished, executing]
  unfold checkAllStepsFinished
  cases steps : tc.sequence with
  | nil =>
    rw [steps] at member
    cases member
  | cons first rest =>
    rw [steps] at member
    have failing : ((first :: rest).all fun step => !stepUnfinished step) = false := by
      rw [List.all_eq_false]
      exact ⟨step, member, by simp [unfinished]⟩
    exact congrArg Except.ok failing

/-- Nothing unfinished is found in a complete test case. -/
theorem checkAllStepsFinished_complete {tc : TestCase} (complete : tc.Complete)
    (nonempty : tc.sequence ≠ []) : tc.checkAllStepsFinished = .ok true := by
  unfold checkAllStepsFinished
  cases steps : tc.sequence with
  | nil => exact absurd steps nonempty
  | cons first rest =>
    have passing : ((first :: rest).all fun step => !stepUnfinished step) = true := by
      rw [List.all_eq_true]
      intro step member
      rcases complete step (by rw [steps]; exact member) with state | state <;>
        simp [stepUnfinished, state]
    exact congrArg Except.ok passing

/-- The steps of a complete test case are always reported. -/
theorem reportSteps_complete {steps : List Step} (verdict : Verdict)
    (entries : List PartialVerdict)
    (complete : ∀ step ∈ steps, step.state = some .finished ∨ step.state = some .postponed) :
    ∃ result, reportSteps steps verdict entries = .ok result := by
  induction steps generalizing verdict entries with
  | nil => exact ⟨_, rfl⟩
  | cons step rest ih =>
    have remaining (verdict : Verdict) (entries : List PartialVerdict) :
        ∃ result, reportSteps rest verdict entries = .ok result :=
      ih verdict entries fun later member => complete later (List.mem_cons_of_mem _ member)
    unfold reportSteps
    split
    · rcases complete step List.mem_cons_self with state | state
      · rw [state]
        exact remaining _ _
      · rw [state]
        exact remaining _ _
    · exact remaining _ _

/-- The items of an analysis are reported exactly when every verdict is known. -/
theorem reportItems_ok {items : List AnalysisItem} (verdict : Verdict)
    (entries : List PartialVerdict)
    (known : ∀ item ∈ items, VerdictValue.ofName? item.verdict ≠ none) :
    ∃ result, reportItems items verdict entries = .ok result := by
  induction items generalizing verdict entries with
  | nil => exact ⟨_, rfl⟩
  | cons item rest ih =>
    unfold reportItems
    cases value : VerdictValue.ofName? item.verdict with
    | none => exact absurd value (known item List.mem_cons_self)
    | some value => exact ih _ _ fun later member => known later (List.mem_cons_of_mem _ member)

/-- An unknown verdict fails an assertion. -/
theorem reportItems_error {items : List AnalysisItem} (verdict : Verdict)
    (entries : List PartialVerdict)
    (unknown : ∃ item ∈ items, VerdictValue.ofName? item.verdict = none) :
    reportItems items verdict entries = .error .assertionError := by
  induction items generalizing verdict entries with
  | nil =>
    obtain ⟨item, member, -⟩ := unknown
    cases member
  | cons item rest ih =>
    unfold reportItems
    cases value : VerdictValue.ofName? item.verdict with
    | none => rfl
    | some value =>
      obtain ⟨other, member, absent⟩ := unknown
      rcases List.mem_cons.mp member with rfl | inside
      · cases value.symm.trans absent
      · exact ih _ _ ⟨other, inside, absent⟩

/-- The report of a complete test case is made unless a verdict is unknown. -/
theorem analysisReport_ok {steps : List Step} {items : List AnalysisItem}
    (complete : ∀ step ∈ steps, step.state = some .finished ∨ step.state = some .postponed)
    (known : ∀ item ∈ items, VerdictValue.ofName? item.verdict ≠ none) :
    ∃ report, analysisReport steps items = .ok report := by
  obtain ⟨⟨verdict, entries⟩, stepped⟩ := reportSteps_complete {} [] complete
  unfold analysisReport
  rw [stepped]
  cases items with
  | nil => exact ⟨_, rfl⟩
  | cons item rest =>
    obtain ⟨⟨final, all⟩, itemized⟩ := reportItems_ok verdict entries known
    simp only [bind, Except.bind, itemized]
    exact ⟨_, rfl⟩

/-- An unknown verdict keeps the report from being made. -/
theorem analysisReport_error {steps : List Step} {items : List AnalysisItem}
    (complete : ∀ step ∈ steps, step.state = some .finished ∨ step.state = some .postponed)
    (unknown : ∃ item ∈ items, VerdictValue.ofName? item.verdict = none) :
    analysisReport steps items = .error .assertionError := by
  obtain ⟨⟨verdict, entries⟩, stepped⟩ := reportSteps_complete {} [] complete
  unfold analysisReport
  rw [stepped]
  cases items with
  | nil =>
    obtain ⟨item, member, -⟩ := unknown
    cases member
  | cons item rest => simp only [bind, Except.bind, reportItems_error verdict entries unknown]

end TestCase

namespace Handler

/-- A capture that cannot be read raises. -/
theorem captureOf_unreadable {services : Services} (garbled : services.Captured false) :
    ∃ exception, captureOf services.getCapture = .error exception ∧
      exception.caughtByHandleControl = false := by
  obtain ⟨value, filename, repr, reply, unsavable⟩ := garbled
  rw [reply]
  match value, filename with
  | none, _ => exact ⟨.typeError, rfl, rfl⟩
  | some value, none => exact ⟨.typeError, rfl, rfl⟩
  | some value, some filename =>
    have undecodable : PyString.b64decodes value = false := by
      simpa [Services.savable] using unsavable
    exact ⟨.valueError, by simp [captureOf, undecodable], rfl⟩

/-- A capture that can be read is handed on. -/
theorem captureOf_readable {services : Services} (captured : services.Captured true) :
    ∃ pcap, captureOf services.getCapture = .ok (.ok pcap) := by
  obtain ⟨value, filename, repr, reply, savable⟩ := captured
  rw [reply]
  match value, filename with
  | none, _ => cases savable
  | some value, none => simp [Services.savable] at savable
  | some value, some filename =>
    have decodable : PyString.b64decodes value = true := by
      simpa [Services.savable] using savable
    exact ⟨value, by simp [captureOf, decodable]⟩

/-- Without a capture an error is reported. -/
theorem captureOf_failed {services : Services} (uncaptured : ∀ readable,
    ¬ services.Captured readable) :
    ∃ message, captureOf services.getCapture = .ok (.error message) := by
  cases answered : services.getCapture with
  | none => exact ⟨_, rfl⟩
  | some reply =>
    obtain ⟨ok, value, filename, repr⟩ := reply
    match ok, value, filename with
    | some (some false), _, _ => exact ⟨_, rfl⟩
    | some none, _, _ => exact ⟨_, rfl⟩
    | none, _, _ => exact ⟨_, rfl⟩
    | some (some true), none, _ => exact ⟨_, rfl⟩
    | some (some true), some none, none => exact ⟨_, rfl⟩
    | some (some true), some (some _), none => exact ⟨_, rfl⟩
    | some (some true), some value, some filename =>
      exact absurd ⟨value, filename, repr, answered, rfl⟩ (uncaptured _)

/-- A capture is handed on only if the reply holds it under a file name, in base64. -/
theorem captureOf_ok {reply : Option SnifferReply} {pcap : String}
    (read : captureOf reply = .ok (.ok pcap)) :
    ∃ filename repr,
      reply = some ⟨some (some true), some (some pcap), some (some filename), repr⟩ ∧
        PyString.b64decodes pcap = true := by
  unfold captureOf at read
  split at read
  · cases read
  · rename_i reply
    obtain ⟨ok, value, filename, repr⟩ := reply
    dsimp only at read
    split at read
    · split at read
      · rename_i decodes
        cases read
        exact ⟨_, _, rfl, decodes⟩
      · cases read
    all_goals cases read

/-- The items of an analysis have the verdicts of the reply. -/
theorem analysisItems_unknown {verdicts : List (String × String)} :
    (∃ item ∈ analysisItems verdicts, VerdictValue.ofName? item.verdict = none) ↔
      ∃ item ∈ verdicts, VerdictValue.ofName? item.1 = none := by
  constructor
  · rintro ⟨item, member, unknown⟩
    obtain ⟨k, inside, rfl⟩ := List.mem_mapIdx.mp member
    exact ⟨_, List.getElem_mem inside, unknown⟩
  · rintro ⟨item, member, unknown⟩
    obtain ⟨k, inside, rfl⟩ := List.getElem_of_mem member
    exact ⟨_, List.mem_mapIdx.mpr ⟨k, inside, rfl⟩, unknown⟩

/-- An analysis is handed on only if the reply says that it succeeded. -/
theorem analysisOf_ok {reply : Option AnalysisReply} {items : List AnalysisItem}
    (analyzed : analysisOf reply = .ok (.ok items)) :
    ∃ verdicts message code repr,
      reply = some ⟨some (some true), some (some verdicts), message, code, repr⟩ ∧
        items = analysisItems verdicts := by
  unfold analysisOf at analyzed
  split at analyzed
  · cases analyzed
  · rename_i reply
    obtain ⟨ok, verdicts, message, code, repr⟩ := reply
    dsimp only at analyzed
    split at analyzed
    · cases analyzed
      exact ⟨_, _, _, _, rfl, rfl⟩
    all_goals cases analyzed

/-- Only partial verdicts that are `None` raise. -/
theorem analysisOf_error {reply : Option AnalysisReply} {exception : PyException}
    (raises : analysisOf reply = .error exception) :
    exception = .typeError ∧
      ∃ message code repr, reply = some ⟨some (some true), some none, message, code, repr⟩ := by
  unfold analysisOf at raises
  split at raises
  · cases raises
  · rename_i reply
    obtain ⟨ok, verdicts, message, code, repr⟩ := reply
    dsimp only at raises
    split at raises
    · cases raises
    · cases raises
      exact ⟨rfl, _, _, _, rfl⟩
    all_goals cases raises

end Handler

/-- How the end of a test case goes, by what is left of it and what the services answer. -/
inductive Ending (services : Services) (tc : TestCase) : FinishOutcome → Prop
  /-- There is no first step to look at. -/
  | empty : tc.sequence = [] → Ending services tc (.refused .stopIteration)
  /-- A step is still being executed. -/
  | pending : tc.Open →
      Ending services tc (.refused (.coordinatorError "Expected testcase to be finished."))
  /-- The answers of the services cannot be read. -/
  | unreadable {exception : PyException} {requests : List Message} : tc.Complete →
      tc.sequence ≠ [] → services.Unreadable → exception.caughtByHandleControl = false →
      Ending services tc (.interrupted exception requests)
  /-- The test case is reported. -/
  | completed {report : Report} {requests : List Message} : tc.Complete → tc.sequence ≠ [] →
      ¬ services.Unreadable → Ending services tc (.completed report requests)

/-- The end of a test case whose steps were all executed or postponed. -/
theorem finishOutcome_complete (services : Services) (captureId : String)
    (analyze : String → Message) {tc : TestCase} (complete : tc.Complete)
    (nonempty : tc.sequence ≠ []) :
    Ending services tc (finishOutcome services captureId analyze tc) := by
  simp only [finishOutcome, TestCase.checkAllStepsFinished_complete complete nonempty]
  by_cases garbled : services.Captured false
  · obtain ⟨exception, raises, fatal⟩ := Handler.captureOf_unreadable garbled
    simp only [raises]
    exact .unreadable complete nonempty (.inl garbled) fatal
  by_cases captured : services.Captured true
  · obtain ⟨pcap, read⟩ := Handler.captureOf_readable captured
    simp only [read]
    cases analysis : Handler.analysisOf services.analysis with
    | error exception =>
      obtain ⟨rfl, text, code, repr, reply⟩ := Handler.analysisOf_error analysis
      exact .unreadable complete nonempty
        (.inr ⟨captured, none, text, code, repr, reply, trivial⟩) rfl
    | ok answer =>
      cases answer with
      | error message =>
        refine .completed complete nonempty ?_
        rintro (unreadable | ⟨-, verdicts, text, code, repr, reply, -⟩)
        · exact garbled unreadable
        · rw [reply] at analysis
          cases verdicts <;> cases analysis
      | ok items =>
        obtain ⟨verdicts, text, code, repr, reply, rfl⟩ := Handler.analysisOf_ok analysis
        by_cases unknown : ∃ item ∈ verdicts, VerdictValue.ofName? item.1 = none
        · simp only [TestCase.analysisReport_error complete
            (Handler.analysisItems_unknown.mpr unknown)]
          exact .unreadable complete nonempty
            (.inr ⟨captured, verdicts, text, code, repr, reply, unknown⟩) rfl
        · have known : ∀ item ∈ Handler.analysisItems verdicts,
              VerdictValue.ofName? item.verdict ≠ none := fun item member absent =>
            unknown (Handler.analysisItems_unknown.mp ⟨item, member, absent⟩)
          obtain ⟨report, made⟩ := TestCase.analysisReport_ok complete known
          simp only [made]
          refine .completed complete nonempty ?_
          rintro (unreadable | ⟨-, others, _, _, _, same, absent⟩)
          · exact garbled unreadable
          · rw [reply] at same
            cases same
            exact unknown absent
  · have uncaptured (readable : Bool) : ¬ services.Captured readable := by
      cases readable with
      | false => exact garbled
      | true => exact captured
    obtain ⟨message, failed⟩ := Handler.captureOf_failed uncaptured
    simp only [failed]
    exact .completed complete nonempty fun unreadable =>
      unreadable.elim garbled fun misjudged => captured misjudged.1

/-- **The end of a test case goes one of four ways.** -/
theorem finishOutcome_ending (services : Services) (captureId : String)
    (analyze : String → Message) {tc : TestCase} (exhausted : tc.Exhausted) :
    Ending services tc (finishOutcome services captureId analyze tc) := by
  rcases exhausted.complete_or_open with complete | blocked
  · by_cases nonempty : tc.sequence = []
    · have raises : tc.checkAllStepsFinished = .error .stopIteration := by
        rw [TestCase.checkAllStepsFinished, nonempty]
      simp only [finishOutcome, raises]
      exact .empty nonempty
    · exact finishOutcome_complete services captureId analyze complete nonempty
  · simp only [finishOutcome, TestCase.checkAllStepsFinished_open blocked]
    exact .pending blocked

end Ioppytest
