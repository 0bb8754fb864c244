import Ioppytest.Properties.Coupling
import Ioppytest.TestCoordinator.Sending

/-!
# The end of a session

A session is over exactly when every test case is. Its report is made of the reports that the test
cases keep, and what a test case keeps is the last verdict published for it. The correspondence is
an invariant of the whole session, since a report outlives the execution it is about.
-/

namespace Ioppytest

open Raising

variable {td : TestDescriptions}

/-- The report that a message publishes for the test case with an id. -/
def Message.verdictFor (id : String) : Message → Option Report
  | .testCaseVerdict report tc => if tc.testcaseId = id then some report else none
  | _ => none

/-- The last verdict published for the test case with an id. -/
def lastVerdict (messages : List Message) (id : String) : Option Report :=
  (messages.filterMap (Message.verdictFor id)).getLast?

/-- The report of a test case for which no verdict was published. -/
def missingReport : Report := ⟨.error, "No test case verdict/report found for test case", []⟩

/-- The message publishes neither the verdict of a test case nor the report of the session. -/
def Message.Plain : Message → Prop
  | .testCaseVerdict .. => False
  | .testSuiteReport .. => False
  | _ => True

/-- Plain messages leave the last verdicts as they are. -/
theorem lastVerdict_plain {before sent : List Message} {id : String}
    (plain : ∀ message ∈ sent, message.Plain) :
    lastVerdict (before ++ sent) id = lastVerdict before id := by
  have nothing : sent.filterMap (Message.verdictFor id) = [] := by
    rw [List.filterMap_eq_nil_iff]
    intro message member
    have here := plain message member
    cases message with
    | testCaseVerdict _ _ => exact here.elim
    | _ => rfl
  rw [lastVerdict, List.filterMap_append, nothing, List.append_nil]
  rfl

/-- A verdict is the last one of its test case, and leaves those of the others as they are. -/
theorem lastVerdict_append {before : List Message} {report : Report} {tc : TestCaseInfo}
    {id : String} : lastVerdict (before ++ [.testCaseVerdict report tc]) id =
      if tc.testcaseId = id then some report else lastVerdict before id := by
  rw [lastVerdict, List.filterMap_append]
  by_cases same : tc.testcaseId = id
  · simp [Message.verdictFor, same]
  · simp [Message.verdictFor, same, lastVerdict]

/-- The entries of the report of a session. -/
def TestSuite.entries (ts : TestSuite td) : List ReportItem :=
  (List.finRange td.size).map fun i => ⟨td.id i, reportOf (ts.testcase i)⟩

/-- The entries of a report are named in the order of the descriptions. -/
theorem TestSuite.entries_ids (ts : TestSuite td) :
    ts.entries.map (·.testcaseId) = td.testcases.map (·.id) := by
  unfold entries
  rw [List.map_map]
  apply List.ext_getElem
  · simp [TestDescriptions.size]
  · intro k inside _
    simp only [List.getElem_map, List.getElem_finRange, Function.comp_apply]
    rfl

namespace Coordinator

variable {upper : String → String} {testsuiteName : String} {c : Coordinator td} {input : Input}

/-- The reports that the test cases keep are those published, and the session has not been
reported. -/
structure Tallied (c : Coordinator td) : Prop where
  /-- What a test case keeps is its last verdict. -/
  kept : ∀ i, TestSuite.reportOf (c.testsuite.testcase i) =
    (lastVerdict c.bus (td.id i)).getD missingReport
  /-- The session has not been reported. -/
  unreported : ∀ results, .testSuiteReport results ∉ c.bus

/-- The reports that the test cases keep are those published, and the session is reported at its
end. -/
structure Accounted (c : Coordinator td) : Prop where
  /-- What a test case keeps is its last verdict. -/
  kept : ∀ i, TestSuite.reportOf (c.testsuite.testcase i) =
    (lastVerdict c.bus (td.id i)).getD missingReport
  /-- At the end there is a report of what the test cases keep. -/
  reported : c.state = .testsuiteFinished →
    c.testsuite.report = some c.testsuite.entries ∧ .testSuiteReport c.testsuite.report ∈ c.bus
  /-- No other report is published. -/
  only : ∀ results, .testSuiteReport results ∈ c.bus →
    c.state = .testsuiteFinished ∧ results = c.testsuite.report

/-- Before the end nothing has been reported. -/
theorem Accounted.tallied (accounted : c.Accounted) (going : c.state ≠ .testsuiteFinished) :
    c.Tallied :=
  ⟨accounted.kept, fun results member => going (accounted.only results member).1⟩

/-- A session that is going on is accounted for. -/
theorem Tallied.accounted (tallied : c.Tallied) (going : c.state ≠ .testsuiteFinished) :
    c.Accounted :=
  ⟨tallied.kept, fun past => absurd past going,
    fun results member => absurd member (tallied.unreported results)⟩

/-- Plain messages and changes of anything but the reports keep the tally. -/
theorem Tallied.plain {after : Coordinator td} {sent : List Message} (tallied : c.Tallied)
    (same : ∀ i, (after.testsuite.testcase i).report = (c.testsuite.testcase i).report)
    (bus : after.bus = c.bus ++ sent) (plain : ∀ message ∈ sent, message.Plain) :
    after.Tallied := by
  constructor
  · intro i
    rw [bus, lastVerdict_plain plain, TestSuite.reportOf, same i]
    exact tallied.kept i
  · intro results member
    rw [bus] at member
    rcases List.mem_append.mp member with earlier | later
    · exact tallied.unreported results earlier
    · exact plain _ later

/-- So do changes that publish nothing. -/
theorem Tallied.silent {after : Coordinator td} (tallied : c.Tallied)
    (same : ∀ i, (after.testsuite.testcase i).report = (c.testsuite.testcase i).report)
    (bus : after.bus = c.bus) : after.Tallied :=
  tallied.plain same (bus.trans (List.append_nil _).symm) fun _ member => by cases member

/-- Routine messages are plain. -/
theorem plain_routine {sent : List Message} (routine : ∀ message ∈ sent, message.Routine) :
    ∀ message ∈ sent, message.Plain := by
  intro message member
  have here := routine message member
  cases message with
  | testCaseVerdict _ _ | testSuiteReport _ => exact here.elim
  | _ => trivial

/-- Announcing a step publishes no verdict. -/
theorem plain_announceStep (c : Coordinator td) (i : Fin td.size) (step : Step) :
    ∀ message ∈ c.announceStep i step, message.Plain := by
  intro message member
  rcases announceStep_mem member with ⟨_, _, _, _, rfl⟩ | ⟨_, _, _, rfl⟩ <;> trivial

/-- Leaving the setup publishes no verdict. -/
theorem plain_setupMessage (c : Coordinator td) :
    ∀ message ∈ [c.setupMessage], message.Plain := by
  intro message member
  rw [List.mem_singleton.mp member, setupMessage]
  split <;> trivial

/-- Changing one test case keeps the tally unless it changes its report. -/
theorem report_modify {i : Fin td.size} {change : TestCase → TestCase}
    (same : (change (c.testsuite.testcase i)).report = (c.testsuite.testcase i).report)
    (j : Fin td.size) :
    ((c.modify i change).testsuite.testcase j).report = (c.testsuite.testcase j).report := by
  by_cases here : j = i
  · subst here
    simpa [modify] using same
  · simp [modify, here]

/-- Skipping a test case changes no report. -/
theorem report_skip (i j : Fin td.size) :
    ((c.testsuite.skip i).testcase j).report = (c.testsuite.testcase j).report := by
  rw [TestSuite.skip_testcase]
  split
  · rename_i here
    rw [here.1]
    simp
  · rfl

/-- Configuring a test case keeps the tally. -/
theorem Tallied.configure (tallied : c.Tallied) (i : Fin td.size) :
    (c.configure i).Tallied := by
  obtain ⟨sent, bus, asks⟩ := configure_sends c i
  refine tallied.plain (fun j => ?_) bus 
    (plain_routine (routine_configurationExecute asks))
  by_cases here : j = i
  · subst here
    simp [Coordinator.configure]
  · simp [Coordinator.configure, here]

/-- The report of a session is no verdict of a test case. -/
theorem lastVerdict_conclude (id : String) :
    lastVerdict c.conclude.bus id = lastVerdict c.bus id := by
  change lastVerdict (c.bus ++ [.testSuiteReport _]) id = _
  rw [lastVerdict, List.filterMap_append]
  simp [Message.verdictFor, lastVerdict]

/-- The report of a session accounts for what the test cases keep. -/
theorem Tallied.conclude (tallied : c.Tallied) : c.conclude.Accounted := by
  constructor
  · intro i
    rw [lastVerdict_conclude]
    exact tallied.kept i
  · intro _
    exact ⟨rfl, List.mem_append_right _ (List.mem_singleton.mpr rfl)⟩
  · intro results member
    refine ⟨rfl, ?_⟩
    rcases List.mem_append.mp member with earlier | later
    · exact absurd earlier (tallied.unreported results)
    · cases List.mem_singleton.mp later
      rfl

/-- Going on with the next test case accounts for the session. -/
theorem Tallied.proceed (tallied : c.Tallied) : c.proceed.Accounted := by
  apply proceed_rule
  · intro i _
    exact (tallied.configure i).accounted fun wrong => by cases wrong
  · intro _
    have idle : (c.withTestsuite { c.testsuite with currentTc := none }).Tallied :=
      tallied.silent (fun _ => rfl) rfl
    exact idle.conclude

/-- A test case that was reported keeps the verdict that is published. -/
theorem Tallied.reported {i : Fin td.size} {report : Report} {requests : List Message}
    {info : TestCaseInfo} (tallied : c.Tallied) (named : info.testcaseId = td.id i)
    (plain : ∀ message ∈ requests, message.Plain) :
    ((c.consulted services i (·.reported report) requests).send
      [.testCaseFinished info, .testCaseVerdict report info]).Tallied := by
  have before : ∀ message ∈ requests ++ [.testCaseFinished info], message.Plain := by
    intro message member
    rcases List.mem_append.mp member with inside | last
    · exact plain message inside
    · rw [List.mem_singleton.mp last]
      trivial
  have bus : ((c.consulted services i (·.reported report) requests).send
      [.testCaseFinished info, .testCaseVerdict report info]).bus =
        (c.bus ++ (requests ++ [.testCaseFinished info])) ++ [.testCaseVerdict report info] := by
    simp [modify]
  constructor
  · intro j
    rw [bus, lastVerdict_append, lastVerdict_plain before, named]
    by_cases here : j = i
    · subst here
      simp [modify, TestCase.reported, TestSuite.reportOf]
    · have apart : td.id i ≠ td.id j := fun same =>
        here (TestDescriptions.id_injective same).symm
      simpa [modify, here, apart] using tallied.kept j
  · intro results member
    rw [bus] at member
    rcases List.mem_append.mp member with inside | last
    · rcases List.mem_append.mp inside with earlier | later
      · exact tallied.unreported results earlier
      · exact before _ later
    · cases List.mem_singleton.mp last

/-- Fetching a step, or coming to the end of the iterator, changes no report. -/
theorem report_nextStep {i : Fin td.size} {step : Option Nat} {tc : TestCase}
    (ongoing : (c.testsuite.testcase i).Ongoing)
    (fetched : (c.testsuite.testcase i).nextStep = (step, tc)) :
    tc.report = (c.testsuite.testcase i).report := by
  cases step with
  | some k =>
    obtain ⟨-, -, -, -, -, -, rfl⟩ := ongoing.nextStep_some fetched
    rfl
  | none =>
    obtain ⟨-, currentStep, stepIt, rfl, -⟩ := ongoing.nextStep_none fetched
    rfl

/-- Executing the next step accounts for the session. -/
theorem Advance.accounted {services : Services} {i : Fin td.size}
    {result : EStateM.Result PyException (Coordinator td) Unit}
    (advance : Advance services c i result) (ongoing : (c.testsuite.testcase i).Ongoing)
    (tallied : c.Tallied) : (finalState result).Accounted := by
  have changed {step : Option Nat} {tc : TestCase} (state : TestCaseState)
      (fetched : (c.testsuite.testcase i).nextStep = (step, tc)) :
      (c.modify i fun _ => tc.changeState state).Tallied := by
    refine tallied.silent (report_modify ?_) rfl
    rw [TestCase.changeState_report]
    exact report_nextStep ongoing fetched
  have exhausted {tc : TestCase} (fetched : (c.testsuite.testcase i).nextStep = (none, tc)) :
      (c.exhaust i tc).Tallied := (changed .readyForAnalysis fetched).silent (fun _ => rfl) rfl
  cases advance with
  | @execute k tc step fetched _ _ _ =>
    have announced : ((c.fetch i tc).send ((c.fetch i tc).announceStep i step)).Tallied :=
      (changed .executing fetched).plain (fun _ => rfl) rfl (plain_announceStep _ _ _)
    exact announced.accounted fun wrong => by cases wrong
  | refuse fetched _ _ => exact (exhausted fetched).accounted fun wrong => by cases wrong
  | @interrupt tc exception requests fetched _ outcome =>
    have plain : ∀ message ∈ requests, message.Plain := by
      have requested := routine_requests services c i (tc.changeState .readyForAnalysis)
      rw [outcome] at requested
      exact plain_routine requested
    have analyzed : ((c.exhaust i tc).modify i (·.analyzing)).Tallied :=
      (exhausted fetched).silent (report_modify rfl) rfl
    have interrupted : ((c.exhaust i tc).consulted services i (·.analyzing) requests).Tallied :=
      analyzed.plain (fun _ => rfl) rfl plain
    exact interrupted.accounted fun wrong => by cases wrong
  | @complete tc report requests fetched _ outcome =>
    have plain : ∀ message ∈ requests, message.Plain := by
      have requested := routine_requests services c i (tc.changeState .readyForAnalysis)
      rw [outcome] at requested
      exact plain_routine requested
    exact ((exhausted fetched).reported rfl plain).proceed

/-- The handling of a node accounts for the session. -/
theorem Recorded.accounted {before after : Coordinator td} (recorded : Recorded before after)
    (accounted : before.Accounted) : after.Accounted := by
  have over_iff : after.state = .testsuiteFinished ↔ before.state = .testsuiteFinished := by
    rcases recorded.state with same | ⟨earlier, later⟩
    · rw [same]
    · rw [earlier, later]
      decide
  obtain ⟨ready, bus, routine⟩ := recorded.routine
  have plain := plain_routine routine
  constructor
  · intro i
    rw [bus, lastVerdict_plain plain, recorded.testcase]
    exact accounted.kept i
  · intro past
    obtain ⟨entries, published⟩ := accounted.reported (over_iff.mp past)
    rw [recorded.report, TestSuite.entries, recorded.testcase, bus]
    exact ⟨entries, List.mem_append_left _ published⟩
  · intro results member
    rw [bus] at member
    rcases List.mem_append.mp member with earlier | later
    · obtain ⟨past, same⟩ := accounted.only results earlier
      exact ⟨over_iff.mpr past, same.trans recorded.report.symm⟩
    · exact (plain _ later).elim

/-- Reporting a session again accounts for the same. -/
theorem Accounted.conclude (accounted : c.Accounted) (past : c.state = .testsuiteFinished) :
    c.conclude.Accounted := by
  have same : c.conclude.testsuite.report = c.testsuite.report := (accounted.reported past).1.symm
  constructor
  · intro i
    rw [lastVerdict_conclude]
    exact accounted.kept i
  · intro _
    exact ⟨rfl, List.mem_append_right _ (List.mem_singleton.mpr rfl)⟩
  · intro results member
    refine ⟨rfl, ?_⟩
    rcases List.mem_append.mp member with earlier | later
    · exact (accounted.only results earlier).2.trans same.symm
    · cases List.mem_singleton.mp later
      rfl

/-- The announcement of a start accounts for the session. -/
theorem Accounted.started (accounted : c.Accounted) :
    (finalState c.announceStarted).Accounted := by
  obtain ⟨messages, sent, routine⟩ := announceStarted_routine c
  have plain := plain_routine routine
  rw [sent]
  constructor
  · intro i
    rw [send_bus, lastVerdict_plain plain]
    exact accounted.kept i
  · intro past
    obtain ⟨entries, published⟩ := accounted.reported past
    exact ⟨entries, List.mem_append_left _ published⟩
  · intro results member
    rcases List.mem_append.mp member with earlier | later
    · exact accounted.only results earlier
    · exact (plain _ later).elim

/-- Reinitialising a test case keeps the tally. -/
theorem Tallied.reinitTestcase (tallied : c.Tallied) (id : Option String) :
    (c.withTestsuite (c.testsuite.reinitTestcase id)).Tallied := by
  unfold TestSuite.reinitTestcase
  split
  · exact tallied.silent (report_modify rfl) rfl
  · exact tallied.silent (fun _ => rfl) rfl

/-- Starting a suite, or configuring it, changes no report. -/
theorem report_skippedFrom {before after : TestSuite td}
    (skipped : TestSuite.SkippedFrom before after) (i : Fin td.size) :
    (after.testcase i).report = (before.testcase i).report := by
  rcases skipped.testcase i with same | same
  · rw [same]
  · rw [same, TestCase.changeState_report]

/-- **Moves keep the account of a session.** -/
theorem Move.accounted {result : EStateM.Result PyException (Coordinator td) Bool}
    (move : Move c input result) (coherent : Coherent c) (accounted : c.Accounted) :
    (finalState result).Accounted := by
  have early (setup : c.Setup) : c.Tallied := by
    apply accounted.tallied
    rcases setup with state | state <;> rw [state] <;> decide
  have going (accepted : ongoing c.state = true) : c.Tallied := by
    apply accounted.tallied
    intro past
    rw [past] at accepted
    cases accepted
  have waits (waiting : c.Waiting) : c.Tallied :=
    going (by rcases waiting with state | state <;> rw [state] <;> rfl)
  have executes (state : c.state = .waitingForStepExecuted) : c.Tallied :=
    going (by rw [state]; rfl)
  cases move with
  | ignored => exact accounted
  | refused => exact accounted
  | @empty _ _ after empty setup state _ sent =>
    rw [finalState_error]
    have tallied : after.Tallied := by
      rcases sent with sent | sent
      · exact (early setup).plain (fun i => absurd i.pos (by omega)) sent
          (plain_routine (routine_tunnels _))
      · exact (early setup).silent (fun i => absurd i.pos (by omega)) sent
    apply tallied.accounted
    rw [state]
    rcases setup with state | state <;> rw [state] <;> decide
  | configured _ state skipped =>
    have tallied := early (.inl state)
    refine Tallied.accounted ?_ fun wrong => by cases wrong
    exact tallied.plain (report_skippedFrom skipped) rfl (plain_setupMessage _)
  | @skippedEarly id services j state _ =>
    have tallied := early (.inl state)
    refine Tallied.accounted ?_ fun wrong => by cases state.symm.trans wrong
    exact tallied.plain (report_skip j) rfl (plain_setupMessage _)
  | recordedEarly _ setup _ =>
    rw [finalState_andThen_ok]
    have sent : (c.send [c.setupMessage]).Tallied :=
      (early setup).plain (fun _ => rfl) rfl (plain_setupMessage _)
    refine (recordNode_recorded _).accounted (sent.accounted ?_)
    rcases setup with state | state <;> rw [send_state, state] <;> decide
  | @started services ts _ setup skipped =>
    rw [finalState_ok]
    have opened : ((c.withTestsuite ts).send (tunnels ts)).Tallied :=
      (early setup).plain (fun i => (report_skippedFrom skipped i).trans rfl) rfl
        (plain_routine (routine_tunnels _))
    have announced : (((c.withTestsuite ts).send (tunnels ts)).send
        [(c.withTestsuite ts).setupMessage]).Tallied :=
      opened.plain (fun _ => rfl) rfl (plain_setupMessage _)
    exact announced.proceed
  | recordedWaiting _ _ =>
    rw [finalState_andThen_ok]
    exact (recordNode_recorded _).accounted accounted
  | @recordedExecuting event services i k step state _ _ _ _ _ =>
    rw [finalState_andThen_ok]
    have sent : (c.send (c.announceStep i step)).Tallied :=
      (executes state).plain (fun _ => rfl) rfl (plain_announceStep _ _ _)
    exact (recordNode_recorded _).accounted (sent.accounted (by rw [send_state, state]; decide))
  | recordedFinished state _ =>
    rw [finalState_andThen_ok]
    exact (recordNode_recorded _).accounted (accounted.conclude state)
  | retried state _ exhausted _ advance =>
    rw [finalState_andThen_ok]
    have tallied : c.Tallied := accounted.tallied (by rw [state]; decide)
    exact finalState_andThen (advance.accounted exhausted.toOngoing tallied)
      fun _ later => (recordNode_recorded _).accounted later
  | timedOut state =>
    rw [finalState_andThen_ok]
    exact (announceReady_recorded state).accounted accounted
  | @executed id services i result waiting current advance =>
    rw [finalState_andThen_ok]
    have configuring := coherent.configuring waiting current
    have begun : (c.modify i (·.changeState .executing)).Tallied :=
      (waits waiting).silent (report_modify (TestCase.changeState_report _ _)) rfl
    have sniffed : ((c.modify i (·.changeState .executing)).send (sniffingMessages i)).Tallied :=
      begun.plain (fun _ => rfl) rfl (plain_routine (routine_sniffing i))
    refine finalState_andThen (advance.accounted (by simpa [modify] using configuring.start) sniffed)
      fun after later => ?_
    exact later.started
  | @answered event services i k step result state current executing at_step found _ _ _ advance =>
    rw [finalState_andThen_ok]
    have tallied : (c.answered i k step event).Tallied := by
      unfold Coordinator.answered
      split
      · exact (executes state).silent (report_modify rfl) rfl
      · exact executes state
    exact advance.accounted (answered_current event executing at_step found) tallied
  | @restarted services i accepted _ =>
    have reset : (c.modify i (·.reinit)).Tallied :=
      (going accepted).silent (report_modify rfl) rfl
    exact (reset.configure i).accounted fun wrong => by cases wrong
  | selected accepted =>
    rw [finalState_ok]
    have reset := (going accepted).reinitTestcase c.testsuite.getCurrentTestcaseId
    apply selectTestcase_rule
    · intro i
      have again : ((c.withTestsuite (c.testsuite.reinitTestcase
          c.testsuite.getCurrentTestcaseId)).modify i (·.reinit)).Tallied :=
        reset.silent (report_modify rfl) rfl
      exact (again.configure i).accounted fun wrong => by cases wrong
    · exact reset.proceed
  | @skippedCurrent id services i named accepted _ _ =>
    rw [finalState_ok]
    apply Tallied.proceed
    have skipped : (c.withTestsuite (c.testsuite.skip i)).Tallied :=
      (going accepted).silent (report_skip i) rfl
    refine skipped.plain (fun _ => rfl) rfl fun message member => ?_
    split at member
    · rw [List.mem_singleton.mp member]
      trivial
    · cases member
  | @skippedOther id services j waiting _ _ =>
    have skipped : (c.withTestsuite (c.testsuite.skip j)).Tallied :=
      (waits waiting).silent (report_skip j) rfl
    refine skipped.accounted ?_
    rcases waiting with state | state <;> rw [withTestsuite_state, state] <;> decide
  | @skippedInstead id services i waiting _ _ =>
    have skipped : (c.withTestsuite (c.testsuite.skip i)).Tallied :=
      (waits waiting).silent (report_skip i) rfl
    refine skipped.accounted ?_
    rcases waiting with state | state <;> rw [withTestsuite_state, state] <;> decide
  | @skippedExecuting id services i j k step state _ _ _ _ _ _ =>
    have skipped : (c.withTestsuite (c.testsuite.skip j)).Tallied :=
      (executes state).silent (report_skip j) rfl
    refine Tallied.accounted ?_ fun wrong => by cases state.symm.trans wrong
    exact skipped.plain (fun _ => rfl) rfl (plain_announceStep _ _ _)
  | @aborted i accepted _ =>
    rw [finalState_ok]
    apply Tallied.proceed
    have tallied : c.Tallied := by
      apply accounted.tallied
      intro past
      rw [past] at accepted
      rcases accepted with wrong | wrong <;> cases wrong
    exact tallied.silent (report_modify (TestCase.abort_report _)) rfl

/-- A session accounts for its verdicts. -/
theorem reached_accounted {allowed : Coordinator td → Input → Prop}
    (tame : ∀ c input, allowed c input → input.Known td ∨ Survives upper c input)
    (reached : Reached upper testsuiteName allowed c) : c.Accounted := by
  refine reached.invariant ?_ fun c input earlier accounted permitted => ?_
  · rw [initial_eq]
    have tallied : ((new td testsuiteName).withState .waitingForTestsuiteConfig).Tallied :=
      ⟨fun _ => rfl, fun _ member => by cases member⟩
    exact tallied.accounted fun wrong => by cases wrong
  · exact (reached_move tame earlier permitted).accounted (reached_coherent tame earlier) accounted

/-- A coordinator that is attended to has come to its end exactly when every test case has. -/
theorem Coherent.finished_iff (coherent : Coherent c) (begun : c.Begun) (attended : c.Attended) :
    c.state = .testsuiteFinished ↔ ∀ i, ∃ state, (c.testsuite.testcase i).state = some state ∧
      state.isTerminal = true := by
  cases coherent with
  | setup early _ _ => exact absurd early begun
  | waiting waits _ _ configuring =>
    obtain ⟨i, current⟩ := Option.ne_none_iff_exists'.mp (attended waits)
    refine iff_of_false (fun wrong => ?_) fun past => ?_
    · rcases waits with state | state <;> cases state.symm.trans wrong
    · obtain ⟨state, same, terminal⟩ := past i
      cases (configuring i current).state.symm.trans same
      cases terminal
  | executing i state _ _ executing =>
    refine iff_of_false (fun wrong => by cases state.symm.trans wrong) fun past => ?_
    obtain ⟨state, same, terminal⟩ := past i
    cases executing.state.symm.trans same
    cases terminal
  | stuck i state _ _ exhausted =>
    refine iff_of_false (fun wrong => by cases state.symm.trans wrong) fun past => ?_
    obtain ⟨state, same, terminal⟩ := past i
    rcases exhausted.state with here | here <;> cases here.symm.trans same <;> cases terminal
  | finished state _ _ settled past =>
    refine iff_of_true state fun i => ?_
    rcases settled i with pristine | terminal
    · exact absurd pristine.state (past i)
    · exact terminal

/-- **A session is over exactly when every test case is finished, skipped or aborted**, and then its
report has one entry for each test case, in order, with the last verdict published for it. -/
theorem session_completes (upper : String → String) (testsuiteName : String) (c : Coordinator td)
    (started : Started upper testsuiteName (fun _ input => input.Known td) c) :
    (c.state = .testsuiteFinished ↔ ∀ i, (c.testsuite.testcase i).state = some .finished ∨
      (c.testsuite.testcase i).state = some .skipped ∨
      (c.testsuite.testcase i).state = some .aborted) ∧
    (c.state = .testsuiteFinished → ∃ entries, c.testsuite.report = some entries ∧
      entries.map (·.testcaseId) = td.testcases.map (·.id) ∧
      (∀ entry ∈ entries,
        entry.report = (lastVerdict c.bus entry.testcaseId).getD missingReport) ∧
      .testSuiteReport (some entries) ∈ c.bus ∧
      ∀ results, .testSuiteReport results ∈ c.bus → results = some entries) := by
  have tame (c : Coordinator td) (input : Input) (known : input.Known td) :
      input.Known td ∨ Survives upper c input := .inl known
  have coherent := reached_coherent tame started.reached
  have accounted := reached_accounted tame started.reached
  constructor
  · rw [coherent.finished_iff (started.begun tame) (reached_attended started.reached)]
    refine forall_congr' fun i => ?_
    constructor
    · rintro ⟨state, same, terminal⟩
      rw [same]
      cases state with
      | skipped | finished | aborted => decide
      | configuring | ready | executing | readyForAnalysis | analyzing => cases terminal
    · rintro (state | state | state) <;> exact ⟨_, state, rfl⟩
  · intro past
    obtain ⟨report, published⟩ := accounted.reported past
    refine ⟨c.testsuite.entries, report, c.testsuite.entries_ids, ?_, report ▸ published, ?_⟩
    · intro entry member
      obtain ⟨i, -, rfl⟩ := List.mem_map.mp member
      exact accounted.kept i
    · intro results member
      exact ((accounted.only results member).2).trans report

/-- The small suite at the end of a session in which one test case was finished and the other one was
skipped. -/
def smallFinished : Coordinator smallSuite :=
  [.event (.testCaseStart none) noServices, .event (.stepStimuliExecuted none) noServices,
    .event (.stepVerifyExecuted (some (some true)) none) smallServices,
    .event (.testCaseSkip (some none)) noServices].foldl (next id) firstWaits

/-- The session of the small suite ends with a verdict and an error. -/
theorem session_completes_small : smallFinished.state = .testsuiteFinished ∧
    ∃ entries, smallFinished.testsuite.report = some entries ∧
      entries.map (·.testcaseId) = ["TD_COAP_CORE_01", "TD_COAP_CORE_02"] ∧
      entries.map (·.report.verdict) = [.pass, .error] := by
  have facts := session_completes id "coap" smallFinished
    ⟨initial id smallSuite "coap", noServices, firstWaits, .init, trivial, by rfl,
      Runs.AllAllowed.reachable (by simp [Runs.AllAllowed, Input.Known])⟩
  have past : smallFinished.state = .testsuiteFinished := by decide +kernel
  refine ⟨past, ?_⟩
  obtain ⟨entries, report, ids, -⟩ := facts.2 past
  refine ⟨entries, report, ids, ?_⟩
  have verdicts : smallFinished.testsuite.report.map (fun entries =>
      entries.map (·.report.verdict)) = some [.pass, .error] := by decide +kernel
  rw [report] at verdicts
  exact Option.some.inj verdicts

end Coordinator

end Ioppytest
