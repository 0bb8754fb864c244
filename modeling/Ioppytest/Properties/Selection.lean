import Ioppytest.TestCoordinator.Settings

/-!
# Skipped test cases

A test case that has been skipped is not executed until it is selected by its id. The start of the
suite resets every test case and then skips again what the stored selection leaves out, so a
request for skipping that was accepted before the start is forgotten.
-/

namespace Ioppytest

open Raising

variable {td : TestDescriptions}

namespace Coordinator

/-- The input selects the test case by its id. -/
def Input.Selects (td : TestDescriptions) (i : Fin td.size) (input : Input) : Prop :=
  ∃ services, input = .event (.testCaseSelect (some (some (td.id i)))) services

/-- The suite is started while no stored selection leaves the test case out. -/
def Forgets (c : Coordinator td) (i : Fin td.size) (input : Input) : Prop :=
  (∃ services, input = .event .testSuiteStart services) ∧ c.Setup ∧
    ¬ ∃ selection, c.testsuite.settings.selection = some selection ∧ td.id i ∉ selection

variable {upper : String → String} {testsuiteName : String} {c : Coordinator td} {input : Input}
  {i : Fin td.size}

/-- Changing another test case. -/
theorem skipped_modify (c : Coordinator td) {j : Fin td.size} (change : TestCase → TestCase)
    (apart : i ≠ j) :
    (c.modify j change).testsuite.Skipped i ↔ c.testsuite.Skipped i := by
  have same := TestSuite.modify_testcase_of_ne c.testsuite change apart
  simp only [TestSuite.Skipped, modify, withTestsuite_testsuite, same]

/-- Configuring another test case. -/
theorem skipped_configure (c : Coordinator td) {j : Fin td.size} (apart : i ≠ j) :
    (c.configure j).testsuite.Skipped i ↔ c.testsuite.Skipped i := by
  simp [TestSuite.Skipped, configure, apart]

/-- The next test case to be configured has not been skipped. -/
theorem skipped_proceed (c : Coordinator td) (i : Fin td.size) :
    c.proceed.testsuite.Skipped i ↔ c.testsuite.Skipped i := by
  unfold proceed
  cases pending : c.testsuite.pending with
  | none => exact Iff.rfl
  | some j =>
    by_cases same : i = j
    · subst same
      have blank := (TestSuite.pending_eq_some.mp pending).1
      refine iff_of_false ?_ ?_
      · simp [TestSuite.Skipped, configure]
      · rw [TestSuite.Skipped, blank]
        decide
    · exact skipped_configure c same

/-- Executing the next step of another test case. -/
theorem Advance.skipped {services : Services} {j : Fin td.size}
    {result : EStateM.Result PyException (Coordinator td) Unit}
    (advance : Advance services c j result) (apart : i ≠ j) (skipped : c.testsuite.Skipped i) :
    (finalState result).testsuite.Skipped i := by
  have exhausted (tc : TestCase) : (c.exhaust j tc).testsuite.Skipped i :=
    (skipped_modify c (fun _ => tc.changeState .readyForAnalysis) apart).mpr skipped
  cases advance with
  | @execute _ tc _ _ _ _ _ =>
    have fetched := (skipped_modify c (fun _ => tc.changeState .executing) apart).mpr skipped
    exact fetched
  | @refuse tc _ _ _ _ => exact exhausted tc
  | @interrupt tc _ _ _ _ _ =>
    have analyzed := (skipped_modify (c.exhaust j tc) (·.analyzing) apart).mpr (exhausted tc)
    exact analyzed
  | @complete tc report _ _ _ _ =>
    rw [finalState_ok, skipped_proceed]
    have reported := (skipped_modify (c.exhaust j tc) (·.reported report) apart).mpr (exhausted tc)
    exact reported

/-- The handling of a node. -/
theorem Recorded.skipped {before after : Coordinator td} (recorded : Recorded before after)
    (skipped : before.testsuite.Skipped i) : after.testsuite.Skipped i := by
  rwa [TestSuite.Skipped, recorded.testcase]

/-- The selection of another test case, or of none. -/
theorem skipped_selectTestcase {id : PyString.Attribute} {services : Services}
    (spared : ¬ Input.Selects td i (.event (.testCaseSelect id) services))
    (apart : c.testsuite.currentTc ≠ some i) (skipped : c.testsuite.Skipped i) :
    (c.selectTestcase id).testsuite.Skipped i := by
  have reset : (c.withTestsuite
      (c.testsuite.reinitTestcase c.testsuite.getCurrentTestcaseId)).testsuite.Skipped i := by
    rwa [withTestsuite_testsuite, TestSuite.Skipped, TestSuite.reinitTestcase_testcase,
      if_neg apart]
  have current : (c.testsuite.reinitTestcase c.testsuite.getCurrentTestcaseId).currentTc =
      c.testsuite.currentTc := by
    unfold TestSuite.reinitTestcase
    split <;> rfl
  unfold selectTestcase
  cases found : id.bind
      (c.testsuite.reinitTestcase c.testsuite.getCurrentTestcaseId).getTestcase with
  | none =>
    simp only [found]
    exact (skipped_proceed _ i).mpr reset
  | some j =>
    simp only [found]
    have different : i ≠ j := by
      rintro rfl
      rcases id with _ | _ | id
      · cases found
      · exact apart (current.symm.trans found)
      · obtain rfl : td.id i = id := TestDescriptions.find_eq_some.mp found
        exact spared ⟨services, rfl⟩
    have changed := (skipped_modify _ (·.reinit) different).mpr reset
    exact (skipped_configure _ different).mpr changed

/-- Every move but the start of the suite and the selection of a skipped test case keeps it
skipped. -/
theorem Move.skipped {result : EStateM.Result PyException (Coordinator td) Bool}
    (move : Move c input result) (coherent : Coherent c)
    (running : ¬ ∃ services, input = .event .testSuiteStart services)
    (spared : ¬ input.Selects td i) (skipped : c.testsuite.Skipped i) :
    (finalState result).testsuite.Skipped i := by
  have apart : c.testsuite.currentTc ≠ some i := fun current =>
    coherent.unskipped current skipped
  have other {j : Fin td.size} (current : c.testsuite.currentTc = some j) : i ≠ j := by
    rintro rfl
    exact apart current
  have skips (j : Fin td.size) : (c.testsuite.skip j).Skipped i :=
    (TestSuite.skipped_skip _ j i).mpr (.inr skipped)
  cases move with
  | ignored => exact skipped
  | refused => exact skipped
  | empty empty _ _ _ _ => exact absurd i.pos (by omega)
  | @configured _ _ _ _ ts _ _ from_before =>
    rcases from_before.testcase i with same | same
    · have kept : ts.Skipped i := by rwa [TestSuite.Skipped, same]
      exact kept
    · have changed : ts.Skipped i := by rw [TestSuite.Skipped, same, TestCase.changeState_state]
      exact changed
  | started _ _ _ => exact absurd ⟨_, rfl⟩ running
  | skippedEarly _ _ => exact skips _
  | recordedEarly _ _ _ =>
    rw [finalState_andThen_ok]
    exact (recordNode_recorded (c := c.send [c.setupMessage]) _).skipped skipped
  | recordedWaiting _ _ =>
    rw [finalState_andThen_ok]
    exact (recordNode_recorded _).skipped skipped
  | recordedExecuting _ _ _ _ _ _ =>
    rw [finalState_andThen_ok]
    exact (recordNode_recorded (c := c.send _) _).skipped skipped
  | recordedFinished _ _ =>
    rw [finalState_andThen_ok]
    exact (recordNode_recorded (c := c.conclude) _).skipped skipped
  | retried _ current _ _ advance =>
    rw [finalState_andThen_ok]
    exact @finalState_andThen _ (Coordinator td) _ _ (fun after => after.testsuite.Skipped i) _ _
      (advance.skipped (other current) skipped)
      fun _ kept => (recordNode_recorded _).skipped kept
  | timedOut state =>
    rw [finalState_andThen_ok]
    exact (announceReady_recorded state).skipped skipped
  | executed _ current advance =>
    rw [finalState_andThen_ok]
    have begun := (skipped_modify c (·.changeState .executing) (other current)).mpr skipped
    refine @finalState_andThen _ (Coordinator td) _ _ (fun after => after.testsuite.Skipped i) _ _
      (advance.skipped (other current) begun) fun after kept => ?_
    obtain ⟨messages, sent, -⟩ := announceStarted_sends after
    rwa [sent]
  | answered _ current _ _ _ _ _ _ advance =>
    rw [finalState_andThen_ok]
    refine advance.skipped (other current) ?_
    unfold Coordinator.answered
    split
    · exact (skipped_modify c _ (other current)).mpr skipped
    · exact skipped
  | restarted _ current =>
    have reset := (skipped_modify c (·.reinit) (other current)).mpr skipped
    exact (skipped_configure _ (other current)).mpr reset
  | selected _ => exact skipped_selectTestcase spared apart skipped
  | skippedCurrent _ _ _ => exact (skipped_proceed _ i).mpr (skips _)
  | skippedOther _ _ _ => exact skips _
  | skippedInstead _ _ _ => exact skips _
  | skippedExecuting _ _ _ _ _ _ _ => exact skips _
  | aborted _ current =>
    have aborted := (skipped_modify c (·.abort) (other current)).mpr skipped
    exact (skipped_proceed _ i).mpr aborted

/-- **The start of the suite** leaves skipped what the stored selection leaves out. -/
theorem skipped_start {services : Services} (coherent : Coherent c) (setup : c.Setup) :
    (next upper c (.event .testSuiteStart services)).testsuite.Skipped i ↔
      ∃ selection, c.testsuite.settings.selection = some selection ∧ td.id i ∉ selection := by
  obtain ⟨ts, reset, -, accepted⟩ :=
    handle_started upper services setup (coherent.idle setup) i.pos
  rw [next, accepted, finalState_ok, skipped_proceed]
  exact (TestSuite.reinit_selects reset).2 i

/-- The start is refused once the suite has been started. -/
theorem next_start_begun {services : Services} (begun : c.Begun) :
    next upper c (.event .testSuiteStart services) = c := by
  refine next_refused rfl ?_
  cases named : c.state with
  | waitingForTestsuiteConfig => exact absurd (.inl named) begun
  | waitingForTestsuiteStart => exact absurd (.inr named) begun
  | _ => rfl

/-- A skipped test case stays skipped, is selected or is forgotten. -/
theorem skipped_step (coherent : Coherent c) (oriented : ¬ Disorients c input)
    (skipped : c.testsuite.Skipped i) :
    (next upper c input).testsuite.Skipped i ∨ input.Selects td i ↔ ¬ c.Forgets i input := by
  by_cases start : ∃ services, input = .event .testSuiteStart services
  · obtain ⟨services, rfl⟩ := start
    have unselected : ¬ Input.Selects td i (.event .testSuiteStart services) := by
      rintro ⟨_, wrong⟩
      cases wrong
    by_cases setup : c.Setup
    · simp only [skipped_start coherent setup, unselected, or_false, Forgets, setup, true_and,
        Input.event.injEq, exists_eq', not_not]
    · rw [next_start_begun setup]
      exact iff_of_true (.inl skipped) fun forgets => setup forgets.2.1
  · refine iff_of_true ?_ fun forgets => start forgets.1
    by_cases selected : input.Selects td i
    · exact .inr selected
    · have move : Move c input (c.handle upper input) := handle_move coherent oriented
      exact .inl (move.skipped coherent start selected skipped)

/-- **A skipped test case is lost exactly when the suite is started and no stored selection leaves
it out.** Otherwise it stays skipped until it is selected. -/
theorem skip_kept_iff (upper : String → String) (td : TestDescriptions) (testsuiteName : String)
    (c : Coordinator td)
    (reached : Reached upper testsuiteName
      (fun c input => input.Known td ∨ Survives upper c input) c)
    (i : Fin td.size) (skipped : c.testsuite.Skipped i) :
    (∀ input, input.Known td ∨ Survives upper c input →
      ((next upper c input).testsuite.Skipped i ∨ input.Selects td i ↔ ¬ c.Forgets i input)) ∧
    ∀ later, Runs.Reachable (next upper) (fun c input =>
        (input.Known td ∨ Survives upper c input) ∧ ¬ c.Forgets i input ∧ ¬ input.Selects td i)
        c later → later.testsuite.Skipped i := by
  have step (c : Coordinator td) (coherent : Coherent c) (skipped : c.testsuite.Skipped i)
      (input : Input) (tame : input.Known td ∨ Survives upper c input) :
      (next upper c input).testsuite.Skipped i ∨ input.Selects td i ↔ ¬ c.Forgets i input :=
    skipped_step coherent (oriented coherent tame) skipped
  have coherent := reached_coherent (fun _ _ tame => tame) reached
  refine ⟨step c coherent skipped, fun later further => ?_⟩
  have kept : Coherent later ∧ later.testsuite.Skipped i := by
    induction further with
    | init => exact ⟨coherent, skipped⟩
    | @step state input _ permitted ih =>
      obtain ⟨tame, remembered, unselected⟩ := permitted
      have move : Move state input (state.handle upper input) :=
        handle_move ih.1 (oriented ih.1 tame)
      exact ⟨move.coherent ih.1,
        ((step state ih.1 ih.2 input tame).mpr remembered).resolve_right unselected⟩
  exact kept.2

/-- The second test case of the small suite is to be skipped. -/
def skipSecond : Input := .event (.testCaseSkip (some (some "TD_COAP_CORE_02"))) noServices

/-- It stays skipped when the session is configured. -/
theorem skip_kept_small :
    (next id (afterwards [skipSecond]) (.event (.sessionConfiguration none none none)
      noServices)).testsuite.Skipped smallSecond := by
  have further : Runs.AllAllowed (next id) (fun c input =>
      (input.Known smallSuite ∨ Survives id c input) ∧ ¬ c.Forgets smallSecond input ∧
        ¬ input.Selects smallSuite smallSecond) (afterwards [skipSecond])
      [.event (.sessionConfiguration none none none) noServices] :=
    ⟨⟨.inl trivial, (fun forgets => by cases forgets.1.choose_spec),
      fun selects => by cases selects.choose_spec⟩, trivial⟩
  exact (skip_kept_iff id smallSuite "coap" (afterwards [skipSecond])
    (afterwards_reached ⟨.inr (by decide +kernel), trivial⟩) smallSecond (by decide +kernel)).2 _
    further.reachable

/-- It is brought back when the suite is started. -/
theorem skip_lost_at_start :
    Reached id "coap" (Survives id) (afterwards [skipSecond]) ∧
      (afterwards [skipSecond]).testsuite.Skipped smallSecond ∧
      ¬ (afterwards [skipSecond, .event .testSuiteStart noServices]).testsuite.Skipped
        smallSecond :=
  ⟨afterwards_reached (by decide +kernel), by decide +kernel, by decide +kernel⟩

end Coordinator

section Urls

open PyString

/-- A URL `scheme://host/tests/name`. -/
structure TestcaseUrl where
  /-- Its scheme. -/
  scheme : List Char
  /-- Its host. -/
  host : List Char
  /-- The name of a test case. -/
  name : String
  /-- There is a scheme. -/
  schemed : scheme ≠ []
  /-- It is made of the characters of a scheme. -/
  scheme_valid : scheme.all schemeChar = true
  /-- The host ends where the path begins. -/
  host_plain : host.all (fun c => !List.contains ['/', '?', '#'] c) = true
  /-- Square brackets are matched. -/
  host_balanced : host.contains '[' = host.contains ']'

namespace TestcaseUrl

/-- The URL as it is written. -/
def text (url : TestcaseUrl) : String :=
  String.ofList (url.scheme ++ ':' :: '/' :: '/' ::
    (url.host ++ '/' :: ("tests/".toList ++ url.name.toList)))

/-- What is left of the name: it is cut where a query, a fragment or parameters begin, and its
leading characters `/`, `t`, `e` and `s` are lost. -/
def remainder (url : TestcaseUrl) : String :=
  lstrip (String.ofList (pathReference url.scheme url.name.toList)) "/tests/"

/-- The path of the URL is stripped of more than its prefix. -/
theorem path_stripped (url : TestcaseUrl) :
    (urlPath url.text).map (lstrip · "/tests/") = some url.remainder := by
  have shape : '/' :: ("tests/".toList ++ url.name.toList) =
      "/tests".toList ++ '/' :: url.name.toList := rfl
  have whole : "/tests".toList ++ '/' :: pathReference url.scheme url.name.toList =
      "/tests/".toList ++ pathReference url.scheme url.name.toList := rfl
  have plain : ∀ c ∈ url.host, c ∉ ['/', '?', '#'] := fun c member => by
    simpa using List.all_eq_true.mp url.host_plain c member
  rw [text, urlPath_schemed url.schemed (List.all_eq_true.mp url.scheme_valid) plain
    url.host_balanced, shape,
    pathReference_append (by decide) (by decide), whole, Option.map_some,
    lstrip_append fun _ member => member]
  rfl

/-- A name that begins with none of the lost characters and holds no delimiter is left as it is. -/
theorem remainder_eq {url : TestcaseUrl}
    (free : url.name.toList.all (fun c => !List.contains ['#', '?', ';'] c) = true)
    (head : url.name.toList.head?.all (fun c => !"/tests/".toList.contains c) = true) :
    url.remainder = url.name := by
  have undivided : ∀ c ∈ url.name.toList, c ∉ ['#', '?', ';'] := fun c member => by
    simpa using List.all_eq_true.mp free c member
  have kept : ∀ c ∈ url.name.toList.head?, c ∉ "/tests/".toList := fun c member => by
    simpa using Option.all_eq_true _ _ |>.mp head c member
  rw [remainder, pathReference_eq undivided, String.ofList_toList, lstrip_eq kept]

end TestcaseUrl

end Urls

namespace Coordinator

variable {upper : String → String} {testsuiteName : String} {c : Coordinator td} {input : Input}
  {i : Fin td.size}

/-- The session configuration that lists the URLs. -/
def listing (urls : List TestcaseUrl) (others : List (String × String)) : SessionConfiguration :=
  ⟨some (urls.map (·.text)), others⟩

/-- The test case is named by a URL, up to letter case. -/
def Named (upper : String → String) (urls : List TestcaseUrl) (i : Fin td.size) : Prop :=
  ∃ url ∈ urls, upper url.name = upper (td.id i)

/-- The test case is named by what is left of the name in a URL. -/
def Left (upper : String → String) (urls : List TestcaseUrl) (i : Fin td.size) : Prop :=
  ∃ url ∈ urls, upper url.remainder = upper (td.id i)

/-- What a session configuration requests. -/
theorem sessionTcList_listing (urls : List TestcaseUrl) (others : List (String × String)) :
    Handler.sessionTcList (some (listing urls others)) = .ok (urls.map (·.remainder)) := by
  have same : Handler.sessionTcList (some (listing urls others)) =
      urls.mapM fun url => (.ok url.remainder : Except PyException String) := by
    unfold Handler.sessionTcList
    simp only [listing, Option.bind_some, List.mapM_map]
    congr 1
    funext url
    obtain ⟨path, found, stripped⟩ := Option.map_eq_some_iff.mp url.path_stripped
    simp only [Function.comp_apply, found, stripped]
  exact same.trans List.mapM_pure

/-- Until the suite is started, a stored selection is kept. -/
theorem selection_step (coherent : Coherent c) (move : Move c input (c.handle upper input))
    (past : c.state ≠ .waitingForTestsuiteConfig) :
    (next upper c input).Begun ∨
      (next upper c input).testsuite.settings.selection = c.testsuite.settings.selection := by
  have settings := next_settings upper coherent input
  cases input with
  | timeout => exact .inr (congrArg Settings.selection settings)
  | abortTestcase => exact .inr (congrArg Settings.selection settings)
  | event event services =>
    cases event with
    | sessionConfiguration sessionId users configuration =>
      have ignored : c.settingsAfter upper
          (.event (.sessionConfiguration sessionId users configuration) services) =
          c.testsuite.settings := by
        simp only [settingsAfter, past, ↓reduceIte]
        split <;> rfl
      exact .inr (congrArg Settings.selection (settings.trans ignored))
    | testSuiteStart =>
      refine .inl ?_
      by_cases setup : c.Setup
      · have nonempty := coherent.started_nonempty (setup.resolve_left past)
        obtain ⟨ts, -, -, accepted⟩ :=
          handle_started upper services setup (coherent.idle setup) nonempty
        rw [next, accepted]
        exact proceed_begun _
      · rw [next_start_begun setup]
        exact setup
    | configurationExecuted node ipv6Address =>
      exact .inr ((congrArg Settings.selection settings).trans (recording_session c _).1)
    | agentTunStarted message =>
      exact .inr ((congrArg Settings.selection settings).trans (recording_session c _).1)
    | _ =>
      rw [settingsAfter_plain _ _ rfl] at settings
      exact .inr (congrArg Settings.selection settings)

/-- A run from the configuration of the session to its start keeps the selection. -/
theorem selection_run {allowed : Coordinator td → Input → Prop} {first before : Coordinator td}
    (tame : ∀ c input, allowed c input → input.Known td ∨ Survives upper c input)
    (coherent : Coherent first) (past : first.state ≠ .waitingForTestsuiteConfig)
    (further : Runs.Reachable (next upper) allowed first before) :
    Coherent before ∧ before.state ≠ .waitingForTestsuiteConfig ∧ (before.Begun ∨
      before.testsuite.settings.selection = first.testsuite.settings.selection) := by
  induction further with
  | init => exact ⟨coherent, past, .inr rfl⟩
  | @step c input _ permitted ih =>
    obtain ⟨coherent, past, kept⟩ := ih
    have move : Move c input (c.handle upper input) :=
      handle_move coherent (oriented coherent (tame _ _ permitted))
    refine ⟨move.coherent coherent, move.past past, ?_⟩
    rcases kept with begun | same
    · exact .inl (move.begun begun)
    · exact (selection_step coherent move past).imp_right fun kept => kept.trans same

/-- The URL of a test case in the test description. -/
def smallUrl (name : String) : TestcaseUrl where
  scheme := "http".toList
  host := "doc.f-interop.eu".toList
  name := name
  schemed := by decide
  scheme_valid := by decide
  host_plain := by decide
  host_balanced := by decide

/-- `str.upper` on ASCII strings. -/
def asciiUpper (string : String) : String := String.ofList (string.toList.map Char.toUpper)

/-- A session of the small suite that is configured with the URL of one test case. -/
def listingSession (name : String) : Input :=
  .event (.sessionConfiguration none none (some (listing [smallUrl name] []))) noServices

/-- The small suite once it has been configured with the URL of one test case. -/
def configuredListed (name : String) : Coordinator smallSuite :=
  next asciiUpper (initial asciiUpper smallSuite "coap") (listingSession name)

/-- The small suite once it has been started, too. -/
def startedListed (name : String) : Coordinator smallSuite :=
  next asciiUpper (configuredListed name) (.event .testSuiteStart noServices)

end Coordinator

end Ioppytest
