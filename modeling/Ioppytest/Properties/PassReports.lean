import Ioppytest.Properties.Completion
import Ioppytest.TestSuite.Grading

/-!
# Reports of 'pass'

The report of a session gives 'pass' for a test case exactly when the report that the test case
keeps says so, and `reinit` does not clear that report. An observer notes what happens in the
current execution of each test case, and an invariant relates the notes to the progress of the test
case and to its report. It fails to make a report of 'pass' sound in one case only: a test case that
passed before is executed again and then skipped or aborted.
-/

namespace Ioppytest

open Raising

variable {td : TestDescriptions}

/-- What an observer notes about the execution of a test case. -/
structure Execution where
  /-- The answers to its verify steps, by position. -/
  answers : Nat → Option Bool := fun _ => none
  /-- The verdicts that the analysis tool returned for it. -/
  analysis : Option (List String) := none
  /-- It was skipped or aborted although the report kept from an earlier execution says 'pass'. -/
  discarded : Bool := false

namespace Execution

/-- A verify step is answered. -/
def answer (execution : Execution) (k : Nat) (response : Bool) : Execution :=
  { execution with answers := Function.update execution.answers k (some response) }

/-- The analysis tool answers. -/
def analyze (execution : Execution) (verdicts : Option (List String)) : Execution :=
  { execution with analysis := verdicts }

/-- A test case is skipped or aborted; `passed` says whether its report says 'pass'. -/
def discard (execution : Execution) (passed : Bool) : Execution :=
  { execution with discarded := execution.discarded || passed }

end Execution

namespace TestCase

/-- Every verify step was answered with true, and the analysis found something and nothing wrong. -/
def Verified (tc : TestCase) (execution : Execution) : Prop :=
  (∀ (k : Nat) (step : Step), tc.sequence[k]? = some step → step.type = .verify →
    execution.answers k = some true) ∧
  ∃ verdicts, execution.analysis = some verdicts ∧ Clean verdicts

/-- What the notes about an execution say about a test case. -/
structure Sound (tc : TestCase) (execution : Execution) : Prop where
  /-- A verify step is finished by an answer, which gives its partial verdict. -/
  answered : tc.state ≠ some .skipped → ∀ (k : Nat) (step : Step), tc.sequence[k]? = some step →
    step.type = .verify → step.state = some .finished →
    ∃ response, execution.answers k = some response ∧
      step.partialVerdict.value = if response then .pass else .fail
  /-- A verify step that is being executed has no partial verdict yet. -/
  blank : ∀ (k : Nat) (step : Step), tc.sequence[k]? = some step → step.type = .verify →
    step.state = some .executing → step.partialVerdict = {}
  /-- A finished test case whose report says 'pass' deserves it. -/
  passed : tc.state = some .finished → tc.Passes → tc.Verified execution
  /-- A discarded test case has a report that says 'pass'. -/
  discarded : execution.discarded = true ↔
    tc.Passes ∧ (tc.state = some .skipped ∨ tc.state = some .aborted)

/-- A test case without progress is sound for any notes that do not discard it. -/
theorem AtStart.sound {tc : TestCase} {execution : Execution} (start : tc.AtStart)
    (kept : execution.discarded = false)
    (going : tc.state = none ∨ tc.state = some .configuring) : tc.Sound execution where
  answered _ k step found type past := by
    have pristine := start.pristine step (List.mem_of_getElem? found)
    rw [pristine.1, type] at past
    cases past
  blank k step found _ executing :=
    absurd executing (pristine_idle (start.pristine step (List.mem_of_getElem? found)))
  passed past := by
    rcases going with state | state <;> cases state.symm.trans past
  discarded := by
    rcases going with state | state <;> simp [kept, state]

/-- The notes that are made when an execution begins fit a test case that was reinitialised. -/
theorem sound_reinit (tc : TestCase) : tc.reinit.Sound {} :=
  tc.reinit_pristine.toAtStart.sound rfl (.inl rfl)

/-- Configuring a test case. -/
theorem Sound.configuring {tc : TestCase} {execution : Execution} (sound : tc.Sound execution)
    (blank : tc.state = none) : (tc.changeState .configuring).Sound execution where
  answered _ := sound.answered (by rw [blank]; decide)
  blank := sound.blank
  passed past := by cases past
  discarded := by
    have kept := sound.discarded
    rw [blank] at kept
    simpa using kept

/-- The report of the session gives an error to a test case that has no report. -/
theorem Sound.reported {tc : TestCase} {execution : Execution} (sound : tc.Sound execution) :
    ({ tc with report := some (TestSuite.reportOf tc) } : TestCase).Sound execution := by
  have same : ({ tc with report := some (TestSuite.reportOf tc) } : TestCase).Passes ↔
      tc.Passes := by
    unfold Passes TestSuite.reportOf
    cases tc.report with
    | none => simp
    | some report => rfl
  constructor
  · exact sound.answered
  · exact sound.blank
  · exact fun past passes => sound.passed past (same.mp passes)
  · rw [sound.discarded, same]

/-- Skipping a test case discards it if its report says 'pass'. -/
theorem Sound.skipped {tc : TestCase} {execution : Execution} (sound : tc.Sound execution) :
    (tc.changeState .skipped).Sound (execution.discard (decide tc.Passes)) where
  answered unskipped := absurd rfl unskipped
  blank k step found _ executing := by
    obtain ⟨earlier, -, rfl⟩ := List.mem_map.mp (List.mem_of_getElem? found)
    cases executing
  passed past := by cases past
  discarded := by
    have before := sound.discarded
    have report : (tc.changeState .skipped).Passes ↔ tc.Passes := passes_congr rfl
    rw [report]
    constructor
    · intro either
      refine ⟨?_, .inl rfl⟩
      rcases (Bool.or_eq_true _ _).mp either with earlier | passes
      · exact (before.mp earlier).1
      · exact of_decide_eq_true passes
    · rintro ⟨passes, -⟩
      exact (Bool.or_eq_true _ _).mpr (.inr (decide_eq_true passes))

/-- So does aborting it. -/
theorem Sound.aborted {tc : TestCase} {execution : Execution} (sound : tc.Sound execution) :
    tc.abort.Sound (execution.discard (decide tc.Passes)) where
  answered _ k step found _ past := by
    obtain ⟨earlier, -, rfl⟩ := List.mem_map.mp (List.mem_of_getElem? found)
    cases (earlier.abort_state).symm.trans past
  blank k step found _ executing := by
    obtain ⟨earlier, -, rfl⟩ := List.mem_map.mp (List.mem_of_getElem? found)
    cases (earlier.abort_state).symm.trans executing
  passed past := by cases past
  discarded := by
    have before := sound.discarded
    have report : tc.abort.Passes ↔ tc.Passes := passes_congr rfl
    rw [report]
    constructor
    · intro either
      refine ⟨?_, .inr rfl⟩
      rcases (Bool.or_eq_true _ _).mp either with earlier | passes
      · exact (before.mp earlier).1
      · exact of_decide_eq_true passes
    · rintro ⟨passes, -⟩
      exact (Bool.or_eq_true _ _).mpr (.inr (decide_eq_true passes))

/-- The execution of a test case has not come to an end. -/
def Going (tc : TestCase) : Prop :=
  tc.state ≠ some .skipped ∧ tc.state ≠ some .finished ∧ tc.state ≠ some .aborted

/-- An execution goes on in the states that are not terminal. -/
theorem going_of_state {tc : TestCase} {state : TestCaseState} (here : tc.state = some state)
    (still : state.isTerminal = false) : tc.Going := by
  unfold Going
  rw [here]
  cases state with
  | skipped | finished | aborted => cases still
  | configuring | ready | executing | readyForAnalysis | analyzing => decide

/-- While its execution goes on, a test case is not discarded. -/
theorem Sound.kept {tc : TestCase} {execution : Execution} (sound : tc.Sound execution)
    (going : tc.Going) : execution.discarded = false := by
  rw [Bool.eq_false_iff]
  intro discarded
  rcases (sound.discarded.mp discarded).2 with state | state
  · exact going.1 state
  · exact going.2.2 state

/-- A verify step that is as an execution leaves it: begun, or answered. -/
def Graded (execution : Execution) (k : Nat) (step : Step) : Prop :=
  (step.state = some .executing ∧ step.partialVerdict = {}) ∨
  (step.state = some .finished ∧ ∃ response, execution.answers k = some response ∧
    step.partialVerdict.value = if response then .pass else .fail)

/-- An execution that goes on keeps a test case sound if the verify steps that it changes are
graded. -/
theorem Sound.progress {before after : TestCase} {execution : Execution}
    (sound : before.Sound execution) (going : before.Going) (still : after.Going)
    (steps : ∀ (k : Nat) (step : Step), after.sequence[k]? = some step → step.type = .verify →
      before.sequence[k]? = some step ∨ Graded execution k step) : after.Sound execution where
  answered _ k step found type past := by
    rcases steps k step found type with same | ⟨begun, -⟩ | ⟨-, given⟩
    · exact sound.answered going.1 k step same type past
    · cases begun.symm.trans past
    · exact given
  blank k step found type executing := by
    rcases steps k step found type with same | ⟨-, empty⟩ | ⟨past, -⟩
    · exact sound.blank k step same type executing
    · exact empty
    · cases past.symm.trans executing
  passed past := absurd past still.2.1
  discarded := by
    have kept := sound.kept going
    refine iff_of_false (by rw [kept]; decide) ?_
    rintro ⟨-, state | state⟩
    · exact still.1 state
    · exact still.2.2 state

/-- An answer to the current step is noted before the step is changed. -/
theorem Sound.answer {tc : TestCase} {execution : Execution} {k : Nat} (response : Bool)
    (sound : tc.Sound execution) (executing : tc.Executing) (at_step : tc.currentStep = some k) :
    tc.Sound (execution.answer k response) where
  answered unskipped j step found type past := by
    obtain ⟨l, current, located, -, here, under, -⟩ := executing.current
    have same : l = k := Option.some.inj (located.symm.trans at_step)
    have apart : j ≠ k := by
      rintro rfl
      rw [same, found] at here
      cases here
      cases past.symm.trans under
    obtain ⟨given, answer, value⟩ := sound.answered unskipped j step found type past
    refine ⟨given, ?_, value⟩
    have kept : (execution.answer k response).answers j = execution.answers j :=
      Function.update_of_ne apart _ _
    rw [kept, answer]
  blank := sound.blank
  passed past := by cases executing.state.symm.trans past
  discarded := sound.discarded

/-- So is an answer of the analysis tool. -/
theorem Sound.analyze {tc : TestCase} {execution : Execution} (verdicts : Option (List String))
    (sound : tc.Sound execution) (going : tc.Going) : tc.Sound (execution.analyze verdicts) where
  answered := sound.answered
  blank := sound.blank
  passed past := absurd past going.2.1
  discarded := sound.discarded

/-- Fetching a step begins it. -/
theorem Sound.execute {tc after : TestCase} {execution : Execution} {k : Nat}
    (sound : tc.Sound execution) (going : tc.Going) (ongoing : tc.Ongoing)
    (fetched : tc.nextStep = (some k, after)) : (after.changeState .executing).Sound execution := by
  obtain ⟨fresh, located, pristine, -, -, -, rfl⟩ := ongoing.nextStep_some fetched
  refine sound.progress going (going_of_state rfl rfl) fun j step found type => ?_
  obtain ⟨earlier, position, rfl⟩ :=
    Option.map_eq_some_iff.mp ((modifyStep_getElem? _ _ _ _).symm.trans found)
  by_cases here : k = j
  · subst here
    have same : fresh = earlier := Option.some.inj (located.symm.trans position)
    subst same
    rw [if_pos rfl] at type ⊢
    have graded : fresh.type.hasVerdict = true := by
      rw [show fresh.type = .verify from type]
      rfl
    exact .inr (.inl ⟨rfl, pristine.2 graded⟩)
  · rw [if_neg here]
    exact .inl position

/-- The end of the iterator changes no step. -/
theorem Sound.exhaust {tc after : TestCase} {execution : Execution} (sound : tc.Sound execution)
    (going : tc.Going) (ongoing : tc.Ongoing) (fetched : tc.nextStep = (none, after)) :
    (after.changeState .readyForAnalysis).Sound execution := by
  obtain ⟨-, _, _, rfl, -⟩ := ongoing.nextStep_none fetched
  exact sound.progress going (going_of_state rfl rfl) fun _ _ found _ => .inl found

/-- Neither does the analysis. -/
theorem Sound.analyzing {tc : TestCase} {execution : Execution} (sound : tc.Sound execution)
    (going : tc.Going) : tc.analyzing.Sound execution :=
  sound.progress going (going_of_state rfl rfl) fun _ _ found _ => .inl found

/-- A test case that was reported 'pass' deserves it if the analysis that was noted is clean and
every finished step is harmless. -/
theorem Sound.finished {tc : TestCase} {execution : Execution} {report : Report}
    (sound : tc.Sound execution) (going : tc.Going) (exhausted : tc.Exhausted)
    (complete : tc.Complete) (deserved : report.verdict = .pass →
      (∃ verdicts, execution.analysis = some verdicts ∧ Clean verdicts) ∧
      ∀ step ∈ tc.sequence, step.type.hasVerdict = true → step.state = some .finished →
        step.partialVerdict.value ≤ .pass) : (tc.reported report).Sound execution where
  answered _ := sound.answered going.1
  blank := sound.blank
  passed _ passes := by
    have verdict : report.verdict = .pass := Option.some.inj passes
    obtain ⟨clean, harmless⟩ := deserved verdict
    refine ⟨fun k step found type => ?_, clean⟩
    have found : tc.sequence[k]? = some step := found
    have member : step ∈ tc.sequence := List.mem_of_getElem? found
    have before : k < tc.stepIt :=
      Nat.lt_of_lt_of_le (List.getElem?_eq_some_iff.mp found).1 exhausted.past
    have past : step.state = some .finished := by
      have visited := exhausted.visited k step found before
      rw [Visited, type] at visited
      rcases complete step member with past | postponed
      · exact past
      · rcases visited with wrong | past
        · cases wrong.symm.trans postponed
        · exact past
    obtain ⟨response, answer, value⟩ := sound.answered going.1 k step found type past
    have bound := harmless step member (by rw [type]; rfl) past
    cases response with
    | true => exact answer
    | false =>
      rw [value] at bound
      exact absurd bound (by decide)
  discarded := by
    have kept := sound.kept going
    refine iff_of_false (by rw [kept]; decide) ?_
    rintro ⟨-, state | state⟩ <;> cases state

end TestCase

/-- The verdicts of a reply of the analysis tool that succeeded. -/
def Services.verdicts (services : Services) : Option (List String) :=
  services.analysis.bind fun reply =>
    if reply.ok = some (some true) then reply.partialVerdicts.join.map (·.map (·.1)) else none

/-- The items of an analysis have the verdicts of the reply, in order. -/
theorem Handler.analysisItems_verdicts (verdicts : List (String × String)) :
    (analysisItems verdicts).map (·.verdict) = verdicts.map (·.1) := by
  rw [analysisItems]
  apply List.ext_getElem
  · simp
  · intro k _ _
    simp

/-- A report of 'pass' is made from a clean analysis, which was requested. -/
theorem finishOutcome_pass {services : Services} {captureId : String} {analyze : String → Message}
    {tc : TestCase} {report : Report} {requests : List Message}
    (completed : finishOutcome services captureId analyze tc = .completed report requests)
    (passed : report.verdict = .pass) :
    (∃ pcap, analyze pcap ∈ requests) ∧
      (∃ verdicts, services.verdicts = some verdicts ∧ TestCase.Clean verdicts) ∧
      ∀ step ∈ tc.sequence, step.type.hasVerdict = true → step.state = some .finished →
        step.partialVerdict.value ≤ .pass := by
  unfold finishOutcome at completed
  dsimp only at completed
  split at completed
  · cases completed
  · cases completed
  · split at completed
    · cases completed
    · cases completed
      cases passed
    · split at completed
      · cases completed
      · cases completed
        cases passed
      · rename_i items analyzed
        split at completed
        · cases completed
        · rename_i made
          cases completed
          obtain ⟨verdicts, _, _, _, reply, rfl⟩ := Handler.analysisOf_ok analyzed
          obtain ⟨clean, harmless⟩ := TestCase.analysisReport_pass made passed
          rw [Handler.analysisItems_verdicts] at clean
          refine ⟨⟨_, List.mem_append_right _ (List.mem_singleton.mpr rfl)⟩, ?_, harmless⟩
          exact ⟨verdicts.map (·.1), by simp [Services.verdicts, reply], clean⟩

/-- The message asks the analysis tool about the test case with an id. -/
def Message.analyzes (id : String) : Message → Bool
  | .interopTestCaseAnalyze _ testcaseId _ _ _ => testcaseId == id
  | _ => false

namespace Coordinator

/-- The services that answer while an input is handled. -/
def Input.services : Input → Services
  | .event _ services => services
  | _ => noServices

/-- The input, when it is handled, skips or aborts the test case. -/
def putsAside (c : Coordinator td) (i : Fin td.size) : Input → Bool
  | .event (.testCaseSkip id) _ =>
    (c.testsuite.getTestcase id.join).or c.testsuite.currentTc == some i
  | .abortTestcase => c.testsuite.currentTc == some i
  | _ => false

/-- The step of the test case that the input gives an answer to. -/
def verifyAnswer (c : Coordinator td) (i : Fin td.size) : Input → Option (Nat × Bool)
  | .event (.stepVerifyExecuted (some (some response)) _) _ =>
    (c.awaited.filter (·.1 = i)).map fun awaited => (awaited.2, response)
  | _ => none

/-- The analysis tool is asked about the current test case between two states. -/
def asksAnalysis (c after : Coordinator td) (i : Fin td.size) : Bool :=
  c.testsuite.currentTc == some i && (after.bus.drop c.bus.length).any (Message.analyzes (td.id i))

/-- The notes about a test case with the answers that come with an input. -/
def heard (c after : Coordinator td) (input : Input) (i : Fin td.size) (noted : Execution) :
    Execution :=
  let answered :=
    match c.verifyAnswer i input with
    | some (k, response) => noted.answer k response
    | none => noted
  if c.asksAnalysis after i then answered.analyze input.services.verdicts else answered

/-- The notes about a test case once an input was handled: they begin anew with every execution. -/
def note (c : Coordinator td) (input : Input)
    (result : EStateM.Result PyException (Coordinator td) Bool) (i : Fin td.size)
    (noted : Execution) : Execution :=
  if handled result && c.reinitialises i input then {}
  else
    let noted := c.heard (finalState result) input i noted
    if handled result && c.putsAside i input then
      noted.discard (decide (c.testsuite.testcase i).Passes)
    else noted

/-- The observer of a session. -/
def noteAll (upper : String → String) (noted : Fin td.size → Execution) (c : Coordinator td)
    (input : Input) : Fin td.size → Execution :=
  fun i => c.note input (c.handle upper input) i (noted i)

variable {upper : String → String} {testsuiteName : String} {c : Coordinator td} {input : Input}
  {result : EStateM.Result PyException (Coordinator td) Bool} {i : Fin td.size}
  {noted : Execution}

/-- The execution of the current test case goes on. -/
theorem Coherent.going (coherent : Coherent c) (current : c.testsuite.currentTc = some i) :
    (c.testsuite.testcase i).Going := by
  cases coherent with
  | setup _ idle _ | finished _ idle _ _ _ => cases current.symm.trans idle
  | waiting _ _ _ configuring =>
    exact TestCase.going_of_state (configuring i current).state rfl
  | executing j _ here _ executing =>
    cases here.symm.trans current
    exact TestCase.going_of_state executing.state rfl
  | stuck j _ here _ exhausted =>
    cases here.symm.trans current
    rcases exhausted.state with state | state
    · exact TestCase.going_of_state state rfl
    · exact TestCase.going_of_state state rfl

/-- The awaited step is the current one of the test case that is executed. -/
theorem awaited_eq_some {k : Nat} : c.awaited = some (i, k) ↔ c.state = .waitingForStepExecuted ∧
    c.testsuite.currentTc = some i ∧ (c.testsuite.testcase i).currentStep = some k := by
  unfold awaited
  by_cases state : c.state = .waitingForStepExecuted
  · rw [if_pos state, Option.bind_eq_some_iff]
    constructor
    · rintro ⟨j, current, inside⟩
      obtain ⟨l, at_step, same⟩ := Option.map_eq_some_iff.mp inside
      cases same
      exact ⟨state, current, at_step⟩
    · rintro ⟨-, current, at_step⟩
      exact ⟨i, current, by rw [at_step]; rfl⟩
  · rw [if_neg state]
    exact iff_of_false (by simp) fun awaits => state awaits.1

/-- An answer that is noted answers the current step. -/
theorem verifyAnswer_eq_some {k : Nat} {response : Bool}
    (given : c.verifyAnswer i input = some (k, response)) :
    c.awaited = some (i, k) ∧
      ∃ node services,
        input = .event (.stepVerifyExecuted (some (some response)) node) services := by
  unfold verifyAnswer at given
  split at given
  · obtain ⟨⟨j, l⟩, inside, same⟩ := Option.map_eq_some_iff.mp given
    obtain ⟨awaits, here⟩ := Option.filter_eq_some_iff.mp inside
    have named : j = i := of_decide_eq_true here
    cases same
    rw [awaits, named]
    exact ⟨rfl, _, _, rfl⟩
  · cases given

/-- **Answers may be noted before they take effect.** -/
theorem Coherent.heard (coherent : Coherent c) (after : Coordinator td)
    (sound : (c.testsuite.testcase i).Sound noted) :
    (c.testsuite.testcase i).Sound (c.heard after input i noted) := by
  have answered : (c.testsuite.testcase i).Sound (match c.verifyAnswer i input with
      | some (k, response) => noted.answer k response
      | none => noted) := by
    cases given : c.verifyAnswer i input with
    | none => exact sound
    | some pair =>
      obtain ⟨awaits, -⟩ := verifyAnswer_eq_some given
      obtain ⟨state, current, at_step⟩ := awaited_eq_some.mp awaits
      obtain ⟨j, here, executing⟩ := coherent.executes state
      cases here.symm.trans current
      exact sound.answer pair.2 executing at_step
  unfold Coordinator.heard
  by_cases asked : c.asksAnalysis after i = true
  · have current : c.testsuite.currentTc = some i := by
      simpa using (Bool.and_eq_true_iff.mp asked).1
    simp only [asked, ↓reduceIte]
    exact answered.analyze _ (coherent.going current)
  · simp only [asked, Bool.false_eq_true, ↓reduceIte]
    exact answered

/-- Every test case is sound for what was noted about it. -/
def Observed (c : Coordinator td) (noted : Fin td.size → Execution) : Prop :=
  ∀ i, (c.testsuite.testcase i).Sound (noted i)

section Preservation

variable {executions : Fin td.size → Execution}

/-- Only the answers are noted when an input neither begins nor ends an execution. -/
theorem sound_heard {tc : TestCase} (idle : handled result = false ∨
    (c.reinitialises i input = false ∧ c.putsAside i input = false))
    (sound : tc.Sound (c.heard (finalState result) input i noted)) :
    tc.Sound (c.note input result i noted) := by
  have same : c.note input result i noted = c.heard (finalState result) input i noted := by
    unfold note
    rcases idle with ignored | ⟨spares, keeps⟩
    · simp [ignored]
    · simp [spares, keeps]
  rw [same]
  exact sound

/-- An execution begins without notes. -/
theorem sound_anew {tc : TestCase} (accepted : handled result = true)
    (begins : c.reinitialises i input = true) (sound : tc.Sound {}) :
    tc.Sound (c.note input result i noted) := by
  have same : c.note input result i noted = {} := by simp [note, accepted, begins]
  rw [same]
  exact sound

/-- Notes are discarded with the test case. -/
theorem sound_aside {tc : TestCase} (accepted : handled result = true)
    (goes : c.reinitialises i input = false) (aside : c.putsAside i input = true)
    (sound : tc.Sound ((c.heard (finalState result) input i noted).discard
      (decide (c.testsuite.testcase i).Passes))) : tc.Sound (c.note input result i noted) := by
  have same : c.note input result i noted = (c.heard (finalState result) input i noted).discard
      (decide (c.testsuite.testcase i).Passes) := by
    simp [note, accepted, goes, aside]
  rw [same]
  exact sound

/-- Configuration messages and answers neither begin nor end an execution. -/
theorem spares {event : Event} {services : Services}
    (kind : controlEventsTriggers event = some .iutConfigurationExecuted ∨
      controlEventsTriggers event = some .stepExecuted) (i : Fin td.size) :
    c.reinitialises i (.event event services) = false ∧
      c.putsAside i (.event event services) = false := by
  cases event with
  | configurationExecuted _ _ | agentTunStarted _ | stepStimuliExecuted _
  | stepVerifyExecuted _ _ | stepCheckExecuted _ _ => exact ⟨rfl, rfl⟩
  | sessionConfiguration _ _ _ | testCaseStart _ | testCaseSelect _ | testSuiteStart
  | testCaseRestart | testCaseSkip _ | testCaseAbort => rcases kind with wrong | wrong <;> cases wrong

/-- The analysis tool is asked about a test case between two states. -/
def Requested (c after : Coordinator td) (i : Fin td.size) : Prop :=
  ∃ sent, after.bus = c.bus ++ sent ∧ sent.any (Message.analyzes (td.id i)) = true

/-- What is published later takes no request back. -/
theorem Requested.extend {after later : Coordinator td} {sent : List Message}
    (requested : Requested c after i) (bus : later.bus = after.bus ++ sent) :
    Requested c later i := by
  obtain ⟨earlier, before, asked⟩ := requested
  refine ⟨earlier ++ sent, by rw [bus, before, List.append_assoc], ?_⟩
  rw [List.any_append, asked, Bool.true_or]

/-- The answer to a request is noted. -/
theorem heard_requested {after : Coordinator td} (current : c.testsuite.currentTc = some i)
    (requested : Requested c after i) :
    (c.heard after input i noted).analysis = input.services.verdicts := by
  obtain ⟨sent, bus, asked⟩ := requested
  have asks : c.asksAnalysis after i = true := by
    rw [asksAnalysis, bus, List.drop_left, asked, current]
    simp
  simp only [heard, asks, ↓reduceIte, Execution.analyze]

/-- A finished test case is analyzed before the session goes on. -/
theorem Advance.requested {services : Services} {tc : TestCase} {report : Report}
    {requests : List Message} {outcome : EStateM.Result PyException (Coordinator td) Unit}
    (advance : Advance services c i outcome)
    (fetched : (c.testsuite.testcase i).nextStep = (none, tc))
    (completed : finishOutcome services (td.id i) (c.analyzeRequest i)
      (tc.changeState .readyForAnalysis) = .completed report requests)
    (passed : report.verdict = .pass) : Requested c (finalState outcome) i := by
  obtain ⟨⟨pcap, asked⟩, -⟩ := finishOutcome_pass completed passed
  cases advance with
  | execute other _ _ _ => cases other.symm.trans fetched
  | refuse other _ refused =>
    cases other.symm.trans fetched
    cases refused.symm.trans completed
  | interrupt other _ interrupted =>
    cases other.symm.trans fetched
    cases interrupted.symm.trans completed
  | complete other _ same =>
    cases other.symm.trans fetched
    cases same.symm.trans completed
    have published : Requested c
        ((c.exhaust i tc).consulted services i (·.reported report) requests)
        i := by
      refine ⟨requests, rfl, ?_⟩
      rw [List.any_eq_true]
      exact ⟨_, asked, beq_self_eq_true _⟩
    have before (told : Coordinator td) (requested : Requested c told i) :
        Requested c told.proceed i := by
      rcases proceed_sends told with ⟨-, sent, bus, -⟩ | ⟨-, bus⟩
      · exact requested.extend bus
      · exact requested.extend bus
    exact before _ (published.extend rfl)

/-- Going on with the next test case keeps the test cases sound. -/
theorem Observed.proceed (observed : c.Observed executions) : c.proceed.Observed executions :=
  @proceed_each td (fun j tc => tc.Sound (executions j)) c
    (fun _ _ sound blank => sound.configuring blank) (fun _ _ sound => sound.reported) observed

/-- So does executing the next step, if the answer of the analysis tool is noted. -/
theorem Advance.observed {services : Services}
    {outcome : EStateM.Result PyException (Coordinator td) Unit}
    (advance : Advance services c i outcome) (going : (c.testsuite.testcase i).Going)
    (ongoing : (c.testsuite.testcase i).Ongoing) (observed : c.Observed executions)
    (noted : Requested c (finalState outcome) i →
      (executions i).analysis = services.verdicts) :
    (finalState outcome).Observed executions := by
  have sound := observed i
  refine @Advance.each td (fun j tc => tc.Sound (executions j)) c services i outcome advance
    (fun _ _ sound blank => sound.configuring blank) (fun _ _ sound => sound.reported)
    (fun k tc fetched => sound.execute going ongoing fetched) (fun tc fetched => ?_) observed
  have exhausted := ongoing.exhaust fetched
  have past := sound.exhaust going ongoing fetched
  have still : (tc.changeState .readyForAnalysis).Going := TestCase.going_of_state rfl rfl
  refine ⟨past, past.analyzing still, fun report requests completed => ?_⟩
  have complete : (tc.changeState .readyForAnalysis).Complete := by
    have ending := finishOutcome_ending services (td.id i) (c.analyzeRequest i) exhausted
    rw [completed] at ending
    cases ending with
    | completed complete _ _ => exact complete
  refine past.finished still exhausted complete fun passed => ?_
  obtain ⟨-, ⟨verdicts, answered, clean⟩, harmless⟩ := finishOutcome_pass completed passed
  have written := noted (advance.requested fetched completed passed)
  exact ⟨⟨verdicts, written.trans answered, clean⟩, harmless⟩

/-- An answer to the current step keeps the test cases sound once it is noted. -/
theorem Observed.answered {event : Event} {k : Nat} {step : Step}
    (observed : c.Observed executions) (executing : (c.testsuite.testcase i).Executing)
    (at_step : (c.testsuite.testcase i).currentStep = some k)
    (found : (c.testsuite.testcase i).sequence[k]? = some step)
    (complete : malformed event = false) (filled : blank step.type event = false)
    (noted : ∀ response node, event = .stepVerifyExecuted (some (some response)) node →
      (executions i).answers k = some response) :
    (c.answered i k step event).Observed executions := by
  have under : step.state = some .executing ∧ step.type.isExecutable = true := by
    obtain ⟨l, other, located, -, here, under, executable⟩ := executing.current
    obtain rfl : l = k := Option.some.inj (located.symm.trans at_step)
    obtain rfl : other = step := Option.some.inj (here.symm.trans found)
    exact ⟨under, executable⟩
  unfold Coordinator.answered
  by_cases fits : stepKind event = some step.type
  · rw [if_pos fits]
    refine @modify_each td (fun j tc => tc.Sound (executions j)) c i _ observed ?_
    have going := TestCase.going_of_state executing.state rfl
    have still : ((c.testsuite.testcase i).modifyStep k (answerTo event)).Going := going
    refine (observed i).progress going still fun j other inside type => ?_
    obtain ⟨earlier, position, rfl⟩ :=
      Option.map_eq_some_iff.mp ((TestCase.modifyStep_getElem? _ _ _ _).symm.trans inside)
    by_cases here : k = j
    · subst here
      cases found.symm.trans position
      rw [if_pos rfl] at type ⊢
      rw [answerTo_type] at type
      -- Only an answer to a verify step fits it, and it was blank before.
      cases event with
      | stepVerifyExecuted verifyResponse node =>
        cases verifyResponse with
        | none => cases complete
        | some response =>
          cases response with
          | none =>
            rw [type] at filled
            cases filled
          | some response =>
            have empty := (observed i).blank k step position type under.1
            exact .inr (.inr ⟨answerTo_state _ _, response, noted response node rfl,
              Step.verified_value empty response⟩)
      | stepStimuliExecuted node | stepCheckExecuted _ _ =>
        rw [type] at fits
        cases fits
      | sessionConfiguration _ _ _ | configurationExecuted _ _ | agentTunStarted _
      | testCaseStart _ | testCaseSelect _ | testSuiteStart | testCaseRestart | testCaseSkip _
      | testCaseAbort => cases fits
    · rw [if_neg here]
      exact .inl position
  · rw [if_neg fits]
    exact observed

/-- Skipping a test case discards what was noted about it. -/
theorem sound_skip {ts : TestSuite td} (sound : (ts.testcase i).Sound noted) :
    ((ts.skip i).testcase i).Sound (noted.discard (decide (ts.testcase i).Passes)) := by
  rw [TestSuite.skip_testcase]
  by_cases already : (ts.testcase i).state = some .skipped
  · rw [if_neg (by simp [already])]
    have same : noted.discard (decide (ts.testcase i).Passes) = noted := by
      by_cases passes : (ts.testcase i).Passes
      · have gone : noted.discarded = true := sound.discarded.mpr ⟨passes, .inl already⟩
        simp [Execution.discard, passes, ← gone]
      · simp [Execution.discard, passes]
    rw [same]
    exact sound
  · rw [if_pos ⟨rfl, already⟩]
    exact sound.skipped

/-- A test case that a skip finds is discarded, and the others are not. -/
theorem Observed.skip {id : Option String} {services : Services} {j : Fin td.size}
    (observed : ∀ i, (c.testsuite.testcase i).Sound
      (c.heard (finalState result) (.event (.testCaseSkip (some id)) services) i (executions i)))
    (accepted : handled result = true)
    (target : (c.testsuite.getTestcase id).or c.testsuite.currentTc = some j) (i : Fin td.size) :
    ((c.testsuite.skip j).testcase i).Sound
      (c.note (.event (.testCaseSkip (some id)) services) result i (executions i)) := by
  by_cases here : i = j
  · subst here
    have aside : c.putsAside i (.event (.testCaseSkip (some id)) services) = true := by
      simp [putsAside, target]
    exact sound_aside accepted rfl aside (sound_skip (observed i))
  · have kept : c.putsAside i (.event (.testCaseSkip (some id)) services) = false := by
      have apart : j ≠ i := fun same => here same.symm
      simp [putsAside, target, apart]
    rw [TestSuite.skip_testcase_of_ne here]
    exact sound_heard (.inr ⟨rfl, kept⟩) (observed i)

/-- Before the suite is started no test case has a report. -/
def Unreported (c : Coordinator td) : Prop :=
  c.Setup → ∀ i, (c.testsuite.testcase i).report = none

/-- **Before the start** a move stays in the setup and gives no report, or it starts the suite. -/
theorem Move.early (move : Move c input result) (setup : c.Setup) :
    ((finalState result).Setup ∧ ∀ i, ((finalState result).testsuite.testcase i).report =
      (c.testsuite.testcase i).report) ∨
    ∃ services ts, input = .event .testSuiteStart services ∧
      TestSuite.SkippedFrom { c.testsuite with
        testcase := fun i => (c.testsuite.testcase i).reinit } ts ∧
      result = .ok true (((c.withTestsuite ts).send (tunnels ts)).send
        [(c.withTestsuite ts).setupMessage]).proceed := by
  have idle := setup.idle
  have closed {goal : Prop} (accepted : ongoing c.state = true) : goal := by
    rw [idle.1] at accepted
    cases accepted
  have elsewhere {goal : Prop} (state : c.state = .waitingForStepExecuted) : goal :=
    closed (by rw [state]; rfl)
  cases move with
  | ignored => exact .inl ⟨setup, fun _ => rfl⟩
  | refused => exact .inl ⟨setup, fun _ => rfl⟩
  | empty empty _ state _ _ =>
    exact .inl ⟨setup.imp state.trans state.trans, fun i => absurd i.pos (by omega)⟩
  | configured _ _ skipped => exact .inl ⟨.inr rfl, report_skippedFrom skipped⟩
  | @skippedEarly _ _ j state _ => exact .inl ⟨.inl state, report_skip j⟩
  | @recordedEarly event services _ _ _ =>
    rw [finalState_andThen_ok]
    have recorded := recordNode_recorded (c := c.send [c.setupMessage]) (some event)
    refine .inl ⟨?_, fun i => by rw [recorded.testcase]; rfl⟩
    rcases recorded.state with same | ⟨waits, -⟩
    · have state : (finalState ((c.send [c.setupMessage]).recordNode (some event))).state =
        c.state := same
      exact setup.imp state.trans state.trans
    · have state : c.state = .waitingForIutConfigurationExecuted := waits
      exact closed (by rw [state]; rfl)
  | started _ _ skipped => exact .inr ⟨_, _, rfl, skipped, rfl⟩
  | recordedWaiting waiting _ => exact closed waiting.accepts
  | recordedExecuting state _ _ _ _ _ => exact elsewhere state
  | recordedFinished state _ => exact absurd state idle.2.2
  | retried state _ _ _ _ => exact absurd state idle.2.1
  | timedOut state => exact closed (by rw [state]; rfl)
  | executed waiting _ _ => exact closed waiting.accepts
  | answered state _ _ _ _ _ _ _ _ => exact elsewhere state
  | restarted accepted _ => exact closed accepted
  | selected accepted => exact closed accepted
  | skippedCurrent accepted _ _ => exact closed accepted
  | skippedOther waiting _ _ => exact closed waiting.accepts
  | skippedInstead waiting _ _ => exact closed waiting.accepts
  | skippedExecuting state _ _ _ _ _ _ => exact elsewhere state
  | aborted accepted _ =>
    rcases accepted with accepted | state
    · exact closed accepted
    · exact absurd state idle.2.1

/-- Moves give no report to a test case of a suite that was not started. -/
theorem Move.unreported (move : Move c input result) (unreported : c.Unreported) :
    (finalState result).Unreported := by
  intro early i
  by_cases setup : c.Setup
  · rcases move.early setup with ⟨-, same⟩ | ⟨services, ts, -, -, rfl⟩
    · exact (same i).trans (unreported setup i)
    · exact absurd early (proceed_begun _)
  · exact absurd early (move.begun setup)

/-- Between two states messages were published and no test case was changed. -/
def Publishes (before after : Coordinator td) : Prop :=
  after.testsuite.testcase = before.testsuite.testcase ∧
    ∃ sent, after.bus = before.bus ++ sent

/-- Nothing is published when nothing happens. -/
theorem Publishes.refl (c : Coordinator td) : c.Publishes c :=
  ⟨rfl, [], (List.append_nil _).symm⟩

/-- Recording a node changes no test case. -/
theorem recordNode_publishes (event : Option Event) (c : Coordinator td) :
    c.Publishes (finalState (c.recordNode event)) := by
  have recorded := recordNode_recorded (c := c) event
  obtain ⟨ready, bus, -⟩ := recorded.messages
  exact ⟨recorded.testcase, ready, bus⟩

/-- Announcing the start changes no test case. -/
theorem announceStarted_publishes (c : Coordinator td) :
    c.Publishes (finalState c.announceStarted) := by
  obtain ⟨messages, sent, -⟩ := announceStarted_sends c
  rw [sent]
  exact ⟨rfl, messages, rfl⟩

/-- Executing the next step from a state that the coordinator came to keeps the test cases sound. -/
theorem Advance.sound {executions : Fin td.size → Execution} {begun after : Coordinator td}
    {services : Services} {outcome : EStateM.Result PyException (Coordinator td) Unit}
    (advance : Advance services begun i outcome)
    (current : c.testsuite.currentTc = some i) (given : input.services = services)
    (earlier : ∃ sent, begun.bus = c.bus ++ sent) (later : (finalState outcome).Publishes after)
    (going : (begun.testsuite.testcase i).Going) (ongoing : (begun.testsuite.testcase i).Ongoing)
    (observed : begun.Observed fun j => c.heard after input j (executions j)) :
    after.Observed fun j => c.heard after input j (executions j) := by
  have finished := advance.observed going ongoing observed fun requested => by
    obtain ⟨first, before⟩ := earlier
    obtain ⟨sent, bus, asked⟩ := requested
    have published : Requested c (finalState outcome) i := by
      refine ⟨first ++ sent, by rw [bus, before, List.append_assoc], ?_⟩
      rw [List.any_append, asked, Bool.or_true]
    obtain ⟨-, last, rest⟩ := later
    rw [← given]
    exact heard_requested current (published.extend rest)
  intro j
  rw [later.1]
  exact finished j

/-- An answer to a verify step is noted. -/
theorem heard_answer {after : Coordinator td} {services : Services} {k : Nat} {response : Bool}
    {node : Option String} {event : Event} (awaits : c.awaited = some (i, k))
    (given : event = .stepVerifyExecuted (some (some response)) node) :
    (c.heard after (.event event services) i noted).answers k = some response := by
  subst given
  have answer : c.verifyAnswer i
      (.event (.stepVerifyExecuted (some (some response)) node) services) = some (k, response) := by
    simp [verifyAnswer, awaits]
  unfold heard
  rw [answer]
  have written : (noted.answer k response).answers k = some response :=
    Function.update_self _ _ _
  dsimp only
  split <;> exact written

/-- Configuring a test case begins its execution. -/
theorem Observed.configure {executions : Fin td.size → Execution}
    (others : ∀ j, j ≠ i → (c.testsuite.testcase j).Sound (executions j))
    (pristine : (c.testsuite.testcase i).Pristine)
    (anew : ∀ tc : TestCase, tc.Sound {} → tc.Sound (executions i)) :
    (c.configure i).Observed executions := by
  intro j
  by_cases here : j = i
  · subst here
    have configuring := pristine.configuring
    have begun := anew _ (configuring.toAtStart.sound rfl (.inr configuring.state))
    simpa [Coordinator.configure] using begun
  · simpa [Coordinator.configure, here] using others j here

/-- Selecting a test case begins its execution, and a new one of the current test case. -/
theorem selectTestcase_observed {executions : Fin td.size → Execution} {id : PyString.Attribute}
    (reset : ∀ j, id.bind c.testsuite.getTestcase ≠ some j →
      ((c.testsuite.reinitTestcase c.testsuite.getCurrentTestcaseId).testcase j).Sound
        (executions j))
    (anew : ∀ j, id.bind c.testsuite.getTestcase = some j →
      ∀ tc : TestCase, tc.Sound {} → tc.Sound (executions j)) :
    (c.selectTestcase id).Observed executions := by
  have found : (c.testsuite.reinitTestcase c.testsuite.getCurrentTestcaseId).getTestcase =
      c.testsuite.getTestcase := by
    funext other
    unfold TestSuite.reinitTestcase
    split <;> cases other <;> rfl
  unfold selectTestcase
  dsimp only
  rw [found]
  cases target : id.bind c.testsuite.getTestcase with
  | none =>
    have each (j : Fin td.size) := reset j (by rw [target]; simp)
    exact Observed.proceed (c := c.withTestsuite (c.testsuite.reinitTestcase
      c.testsuite.getCurrentTestcaseId)) each
  | some i =>
    refine Observed.configure (fun j apart => ?_) ?_ (anew i target)
    · have different : i ≠ j := fun same => apart same.symm
      have other := reset j (by rw [target]; simpa using different)
      simpa [Coordinator.modify, apart] using other
    · simpa [Coordinator.modify] using TestCase.reinit_pristine _

/-- A test case without a report is skipped without being discarded. -/
theorem sound_skippedFrom {before after : TestSuite td}
    (skipped : TestSuite.SkippedFrom before after) (blank : (before.testcase i).report = none)
    (sound : (before.testcase i).Sound noted) : (after.testcase i).Sound noted := by
  rcases skipped.testcase i with same | same
  · rw [same]
    exact sound
  · have kept : noted.discard (decide (before.testcase i).Passes) = noted := by
      simp [Execution.discard, TestCase.Passes, blank]
    rw [same, ← kept]
    exact sound.skipped

/-- **A start keeps the test cases sound**, whatever was noted before. -/
theorem started_observed {executions : Fin td.size → Execution} {services : Services}
    {ts : TestSuite td} (blank : ∀ i, (c.testsuite.testcase i).report = none)
    (skipped : TestSuite.SkippedFrom { c.testsuite with
      testcase := fun i => (c.testsuite.testcase i).reinit } ts)
    (accepted : result = .ok true (((c.withTestsuite ts).send (tunnels ts)).send
      [(c.withTestsuite ts).setupMessage]).proceed) :
    (finalState result).Observed fun i =>
      c.note (.event .testSuiteStart services) result i (executions i) := by
  have anew (i : Fin td.size) : (ts.testcase i).Sound {} :=
    sound_skippedFrom skipped (blank i) (TestCase.sound_reinit _)
  have proceeded := Observed.proceed
    (c := ((c.withTestsuite ts).send (tunnels ts)).send [(c.withTestsuite ts).setupMessage]) anew
  subst accepted
  exact fun i => sound_anew rfl rfl (proceeded i)

/-- **Moves keep the test cases of a suite sound** once it has been started. -/
theorem Move.observed {executions : Fin td.size → Execution} (move : Move c input result)
    (coherent : Coherent c) (begun : c.Begun) (observed : c.Observed executions) :
    (finalState result).Observed fun i => c.note input result i (executions i) := by
  have heard (i : Fin td.size) : (c.testsuite.testcase i).Sound
      (c.heard (finalState result) input i (executions i)) :=
    coherent.heard _ (observed i)
  -- Where no execution begins or ends, the answers are all there is to note.
  have plain (idle : ∀ i, handled result = false ∨
      (c.reinitialises i input = false ∧ c.putsAside i input = false))
      (after : (finalState result).Observed fun i =>
        c.heard (finalState result) input i (executions i)) :
      (finalState result).Observed fun i => c.note input result i (executions i) :=
    fun i => sound_heard (idle i) (after i)
  have unchanged (idle : ∀ i, handled result = false ∨
      (c.reinitialises i input = false ∧ c.putsAside i input = false))
      (same : (finalState result).testsuite.testcase = c.testsuite.testcase) :
      (finalState result).Observed fun i => c.note input result i (executions i) := by
    refine plain idle fun i => ?_
    rw [same]
    exact heard i
  cases move with
  | ignored => exact unchanged (fun _ => .inl rfl) rfl
  | refused => exact unchanged (fun _ => .inl rfl) rfl
  | empty _ setup _ _ _ => exact absurd setup begun
  | configured _ state _ => exact absurd (.inl state) begun
  | skippedEarly state _ => exact absurd (.inl state) begun
  | recordedEarly _ setup _ => exact absurd setup begun
  | started _ setup _ => exact absurd setup begun
  | recordedWaiting _ kind =>
    refine unchanged (fun i => .inr (spares (.inl kind) i)) ?_
    rw [finalState_andThen_ok]
    exact (recordNode_recorded _).testcase
  | recordedExecuting _ _ _ _ _ kind =>
    refine unchanged (fun i => .inr (spares (.inl kind) i)) ?_
    rw [finalState_andThen_ok]
    exact (recordNode_recorded _).testcase
  | recordedFinished _ kind =>
    refine plain (fun i => .inr (spares (.inl kind) i)) fun i => ?_
    have concluded := (heard i).reported
    rw [finalState_andThen_ok] at concluded ⊢
    rw [(recordNode_recorded _).testcase]
    exact concluded
  | retried state current exhausted kind advance =>
    refine plain (fun i => .inr (spares (.inl kind) i)) ?_
    rw [finalState_andThen_ok] at heard ⊢
    have going := coherent.going current
    exact advance.sound current rfl (Publishes.refl c).2
      (finalState_related Publishes.refl (recordNode_publishes _)) going exhausted.toOngoing heard
  | timedOut state =>
    refine unchanged (fun _ => .inr ⟨rfl, rfl⟩) ?_
    rw [finalState_andThen_ok]
    exact (announceReady_recorded state).testcase
  | @executed id services i _ waiting current advance =>
    refine plain (fun _ => .inr ⟨rfl, rfl⟩) ?_
    rw [finalState_andThen_ok] at heard ⊢
    have configuring := coherent.configuring waiting current
    have begun := @modify_each td (fun j tc => tc.Sound _) c i (·.changeState .executing) heard
      ((heard i).progress (coherent.going current) (TestCase.going_of_state rfl rfl)
        fun _ _ found _ => .inl found)
    refine advance.sound current rfl ⟨_, rfl⟩
      (finalState_related Publishes.refl announceStarted_publishes) ?_ ?_ begun
    · simpa [Coordinator.modify] using TestCase.going_of_state rfl rfl
    · simpa [Coordinator.modify] using configuring.start
  | @answered event services i k step _ state current executing at_step found kind complete filled
      advance =>
    refine plain (fun i => .inr (spares (.inr kind) i)) ?_
    rw [finalState_andThen_ok] at heard ⊢
    have awaits : c.awaited = some (i, k) := awaited_eq_some.mpr ⟨state, current, at_step⟩
    have answered := Observed.answered heard executing at_step found complete filled
      fun response node same => heard_answer awaits (by rw [same])
    have bus : (c.answered i k step event).bus = c.bus := by
      unfold Coordinator.answered
      split <;> rfl
    have going : ((c.answered i k step event).testsuite.testcase i).Going := by
      unfold Coordinator.answered
      split
      · have still := TestCase.going_of_state executing.state rfl
        simpa [Coordinator.modify, TestCase.modifyStep, TestCase.Going] using still
      · exact coherent.going current
    exact advance.sound current rfl ⟨[], by rw [bus, List.append_nil]⟩ (Publishes.refl _) going
      (answered_current event executing at_step found) answered
  | @restarted services i accepted current =>
    have other (j : Fin td.size) (apart : j ≠ i) :
        c.reinitialises j (.event .testCaseRestart services) = false := by
      have different : i ≠ j := fun same => apart same.symm
      simp [reinitialises, current, different]
    refine Observed.configure (fun j apart => ?_) (by
      simpa [Coordinator.modify] using (c.testsuite.testcase i).reinit_pristine) fun tc start => ?_
    · refine sound_heard (.inr ⟨other j apart, rfl⟩) ?_
      simpa [Coordinator.modify, apart] using heard j
    · have begins : c.reinitialises i (.event .testCaseRestart services) = true := by
        simp [reinitialises, current]
      exact sound_anew rfl begins start
  | @selected id services accepted =>
    have reset (j : Fin td.size) (target : id.bind c.testsuite.getTestcase ≠ some j) :
        ((c.testsuite.reinitTestcase c.testsuite.getCurrentTestcaseId).testcase j).Sound
          (c.note (.event (.testCaseSelect id) services) (.ok true (c.selectTestcase id)) j
            (executions j)) := by
      rw [TestSuite.reinitTestcase_testcase]
      by_cases current : c.testsuite.currentTc = some j
      · have begins : c.reinitialises j (.event (.testCaseSelect id) services) = true := by
          simp [reinitialises, current]
        rw [if_pos current]
        exact sound_anew rfl begins (TestCase.sound_reinit _)
      · have goes : c.reinitialises j (.event (.testCaseSelect id) services) = false := by
          simp [reinitialises, current, target]
        rw [if_neg current]
        exact sound_heard (.inr ⟨goes, rfl⟩) (heard j)
    refine selectTestcase_observed reset fun j target tc start => ?_
    have begins : c.reinitialises j (.event (.testCaseSelect id) services) = true := by
      simp [reinitialises, target]
    exact sound_anew rfl begins start
  | @skippedCurrent id services i named accepted current same =>
    have target : (c.testsuite.getTestcase id).or c.testsuite.currentTc = some i := by
      cases named with
      | true => simp [same, TestSuite.getTestcase]
      | false => simp [same, TestSuite.getTestcase, current]
    have skipped := Observed.skip heard rfl target
    exact Observed.proceed skipped
  | @skippedOther id services j waiting found _ =>
    exact Observed.skip heard rfl (by simp [TestSuite.getTestcase, found])
  | @skippedInstead id services i waiting unknown current =>
    exact Observed.skip heard rfl (by simp [TestSuite.getTestcase, unknown, current])
  | skippedExecuting _ _ _ _ _ found _ =>
    exact Observed.skip heard rfl (by simp [TestSuite.getTestcase, found])
  | @aborted i accepted current =>
    have aborted (j : Fin td.size) : ((c.testsuite.modify i (·.abort)).testcase j).Sound
        (c.note .abortTestcase (.ok true (c.withTestsuite { c.testsuite.modify i (·.abort) with
          currentTc := none }).proceed) j (executions j)) := by
      by_cases here : j = i
      · subst here
        have aside : c.putsAside j .abortTestcase = true := by simp [putsAside, current]
        refine sound_aside rfl rfl aside ?_
        simpa using (heard j).aborted
      · have kept : c.putsAside j .abortTestcase = false := by
          have apart : i ≠ j := fun same => here same.symm
          simp [putsAside, current, apart]
        refine sound_heard (.inr ⟨rfl, kept⟩) ?_
        simpa [here] using heard j
    exact Observed.proceed
      (c := c.withTestsuite { c.testsuite.modify i (·.abort) with currentTc := none }) aborted

end Preservation

/-- The report of the session gives 'pass' for the test case. -/
def ReportsPass (c : Coordinator td) (i : Fin td.size) : Prop :=
  ∃ entries ∈ c.testsuite.report,
    ∃ entry ∈ entries, entry.testcaseId = td.id i ∧ entry.report.verdict = .pass

/-- Whether a pass is reported is read off the report. -/
instance (c : Coordinator td) (i : Fin td.size) : Decidable (c.ReportsPass i) :=
  inferInstanceAs (Decidable (∃ _ ∈ _, _))

/-- **The notes made in the course of a session are sound** once its suite has been started. -/
theorem observed_sound {pair : Coordinator td × (Fin td.size → Execution)}
    (reached : Runs.Observed (next upper) (Survives upper) (noteAll upper)
      (initial upper td testsuiteName, fun _ => {}) pair) :
    (pair.1.Begun → pair.1.Observed pair.2) ∧ pair.1.Unreported := by
  have tame (c : Coordinator td) (input : Input) (survives : Survives upper c input) :
      input.Known td ∨ Survives upper c input := .inr survives
  induction reached with
  | init =>
    rw [initial_eq]
    exact ⟨fun begun => absurd (.inl rfl) begun, fun _ _ => rfl⟩
  | @step pair input earlier survives ih =>
    have session := Runs.Reachable.unobserved earlier
    have move := reached_move tame session survives
    refine ⟨fun begun => ?_, move.unreported ih.2⟩
    by_cases setup : pair.1.Setup
    · rcases move.early setup with ⟨still, -⟩ | ⟨services, ts, rfl, skipped, accepted⟩
      · exact absurd still begun
      · exact started_observed (ih.2 setup) skipped accepted
    · exact move.observed (reached_coherent tame session) setup (ih.1 setup)

/-- A test case of a finished session whose report says 'pass' is listed with it. -/
theorem Accounted.reportsPass_iff (accounted : c.Accounted) (past : c.state = .testsuiteFinished)
    (i : Fin td.size) : c.ReportsPass i ↔ (c.testsuite.testcase i).Passes := by
  have listed := (accounted.reported past).1
  have verdict : (TestSuite.reportOf (c.testsuite.testcase i)).verdict = .pass ↔
      (c.testsuite.testcase i).Passes := by
    unfold TestSuite.reportOf TestCase.Passes
    cases (c.testsuite.testcase i).report with
    | none => simp
    | some report => simp
  rw [← verdict]
  constructor
  · rintro ⟨entries, report, entry, member, named, passed⟩
    rw [listed] at report
    cases report
    obtain ⟨j, -, rfl⟩ := List.mem_map.mp member
    have same : j = i := TestDescriptions.id_injective named
    rw [← same]
    exact passed
  · intro passed
    exact ⟨_, listed, _, List.mem_map.mpr ⟨i, List.mem_finRange i, rfl⟩, rfl, passed⟩

/-- **A 'pass' in the report of a session is sound exactly when the test case was not discarded**:
unless it was skipped or aborted in its last execution while the report kept from an earlier one
says 'pass', it is finished, every verify step was answered with true, and the analysis found
something and nothing wrong. -/
theorem pass_reports (upper : String → String) (td : TestDescriptions) (testsuiteName : String)
    (pair : Coordinator td × (Fin td.size → Execution))
    (reached : Runs.Observed (next upper) (Survives upper) (noteAll upper)
      (initial upper td testsuiteName, fun _ => {}) pair)
    (past : pair.1.state = .testsuiteFinished) (i : Fin td.size) :
    (pair.1.ReportsPass i → (pair.1.testsuite.testcase i).state = some .finished ∧
      (pair.1.testsuite.testcase i).Verified (pair.2 i)) ↔ (pair.2 i).discarded = false := by
  have tame (c : Coordinator td) (input : Input) (survives : Survives upper c input) :
      input.Known td ∨ Survives upper c input := .inr survives
  have session := Runs.Reachable.unobserved reached
  have begun : pair.1.Begun := fun setup => setup.idle.2.2 past
  have sound := (observed_sound reached).1 begun i
  have listed := (reached_accounted tame session).reportsPass_iff past i
  rw [listed]
  constructor
  · intro deserved
    rw [Bool.eq_false_iff]
    intro discarded
    obtain ⟨passes, aside⟩ := sound.discarded.mp discarded
    have finished := (deserved passes).1
    rcases aside with state | state <;> cases state.symm.trans finished
  · intro kept passes
    have finished : (pair.1.testsuite.testcase i).state = some .finished := by
      have ended : ∃ state, (pair.1.testsuite.testcase i).state = some state ∧
          state.isTerminal = true := by
        cases reached_coherent tame session with
        | finished _ _ _ settled other =>
          rcases settled i with pristine | terminal
          · exact absurd pristine.state (other i)
          · exact terminal
        | setup early _ _ => exact absurd early begun
        | waiting waits _ _ _ => rcases waits with state | state <;> cases state.symm.trans past
        | executing _ state _ _ _ | stuck _ state _ _ _ => cases state.symm.trans past
      obtain ⟨state, here, terminal⟩ := ended
      have aside : ¬ (state = .skipped ∨ state = .aborted) := by
        intro wrong
        have discarded := sound.discarded.mpr ⟨passes, by
          rw [here]
          exact wrong.imp (congrArg some) (congrArg some)⟩
        rw [kept] at discarded
        cases discarded
      cases state with
      | finished => exact here
      | skipped => exact absurd (.inl rfl) aside
      | aborted => exact absurd (.inr rfl) aside
      | configuring | ready | executing | readyForAnalysis | analyzing => cases terminal
    exact ⟨finished, sound.passed finished passes⟩

/-- A session of the small suite with its notes. -/
def notedAfterwards (inputs : List Input) :
    Coordinator smallSuite × (Fin smallSuite.size → Execution) :=
  inputs.foldl (Runs.observed (next id) (noteAll id)) (initial id smallSuite "coap", fun _ => {})

/-- Inputs of the small suite lead to a reached session. -/
theorem notedAfterwards_reached {inputs : List Input}
    (survived : Runs.AllAllowed (Runs.observed (next id) (noteAll id))
      (fun pair => Survives id pair.1) (initial id smallSuite "coap", fun _ => {}) inputs) :
    Runs.Observed (next id) (Survives id) (noteAll id)
      (initial id smallSuite "coap", fun _ => {}) (notedAfterwards inputs) :=
  survived.reachable

/-- Inputs by which the first test case of the small suite passes. -/
def passingInputs : List Input :=
  [.event .testSuiteStart noServices, .event (.testCaseStart none) noServices,
    .event (.stepStimuliExecuted none) noServices,
    .event (.stepVerifyExecuted (some (some true)) none) smallServices]

/-- A request for skipping the current test case. -/
def skipInput : Input := .event (.testCaseSkip (some none)) noServices

/-- The first test case passes and deserves it, when only the second one is skipped. -/
theorem pass_reports_small :
    ((notedAfterwards (passingInputs ++ [skipInput])).1.testsuite.testcase smallFirst).state =
        some .finished ∧
      ((notedAfterwards (passingInputs ++ [skipInput])).1.testsuite.testcase smallFirst).Verified
        ((notedAfterwards (passingInputs ++ [skipInput])).2 smallFirst) := by
  have sound := pass_reports id smallSuite "coap" (notedAfterwards (passingInputs ++ [skipInput]))
    (notedAfterwards_reached (by decide +kernel)) (by decide +kernel) smallFirst
  exact sound.mpr (by decide +kernel) (by decide +kernel)

/-- The same session with the first test case selected once more, and then skipped. -/
def discardingInputs : List Input :=
  passingInputs ++ [.event (.testCaseSelect (some (some "TD_COAP_CORE_01"))) noServices, skipInput,
    skipInput]

/-- **A test case whose last execution was skipped is reported as 'pass'.** -/
theorem skipped_reported_pass :
    ¬ ∀ pair, Runs.Observed (next id) (Survives id) (noteAll id)
        (initial id smallSuite "coap", fun _ => {}) pair →
      pair.1.state = .testsuiteFinished → ∀ i, pair.1.ReportsPass i →
        (pair.1.testsuite.testcase i).state = some .finished ∧
          (pair.1.testsuite.testcase i).Verified (pair.2 i) := by
  intro sound
  have reported : (notedAfterwards discardingInputs).1.ReportsPass smallFirst := by decide +kernel
  have skipped : ((notedAfterwards discardingInputs).1.testsuite.testcase smallFirst).state =
      some .skipped := by decide +kernel
  have finished := (sound (notedAfterwards discardingInputs)
    (notedAfterwards_reached (by decide +kernel)) (by decide +kernel) smallFirst reported).1
  cases skipped.symm.trans finished

end Coordinator

end Ioppytest
