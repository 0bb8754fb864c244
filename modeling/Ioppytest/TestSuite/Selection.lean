import Ioppytest.TestSuite.Progress

/-!
# Settings and selection

What a test suite keeps apart from the progress of its test cases: the session information, the
stored selection and the addresses of the nodes. The operations that write it are `reinit`,
`configure_testsuite` and `update_node_address`; the first two also skip what is not selected.
-/

namespace Ioppytest

/-- What a test suite keeps apart from the progress of its test cases. -/
structure Settings where
  /-- `session_id`. -/
  sessionId : Option String
  /-- `session_users`. -/
  sessionUsers : Option (List String)
  /-- `session_configuration`. -/
  sessionConfiguration : Option SessionConfiguration
  /-- `session_selected_tc_list`. -/
  sessionSelectedTcList : Option (List String)
  /-- `nodes_configured`. -/
  nodesConfigured : Finset String
  /-- `addressing_table`. -/
  addressingTable : OrderedDict String (String × String)

/-- What a `MsgSessionConfiguration` says about the session. -/
structure Identity where
  /-- `session_id`. -/
  sessionId : Option String
  /-- `users`. -/
  users : Option (List String)
  /-- `configuration`. -/
  configuration : Option SessionConfiguration
  deriving DecidableEq

/-- Nothing is said. -/
def Identity.blank : Identity := ⟨none, none, none⟩

namespace Settings

/-- The identity that the settings hold. -/
def identity (settings : Settings) : Identity :=
  ⟨settings.sessionId, settings.sessionUsers, settings.sessionConfiguration⟩

/-- What `configure_testsuite` writes. -/
def configure (upper : String → String) (settings : Settings) (requested : List String)
    (sessionId : Option String) (users : Option (List String))
    (configuration : Option SessionConfiguration) : Settings :=
  { settings with
    sessionId
    sessionUsers := users
    sessionConfiguration := configuration
    sessionSelectedTcList := some (requested.map upper) }

/-- The stored selection that `reinit` applies again; an empty one counts as none. -/
def selection (settings : Settings) : Option (List String) :=
  settings.sessionSelectedTcList.filter (· ≠ [])

/-- What `reinit` writes. -/
def restart (upper : String → String) (settings : Settings) : Settings :=
  match settings.selection with
  | some selection => settings.configure upper selection none none none
  | none => settings

/-- A selection that is stored is not empty. -/
theorem selection_configure {upper : String → String} {settings : Settings}
    {requested : List String} {sessionId : Option String}
    {users : Option (List String)} {configuration : Option SessionConfiguration}
    (something : requested ≠ []) :
    (settings.configure upper requested sessionId users configuration).selection =
      some (requested.map upper) := by
  simp [selection, configure, Option.filter, something]

/-- Applying the stored selection again keeps what is known about the nodes. -/
theorem restart_nodes (upper : String → String) (settings : Settings) :
    (settings.restart upper).nodesConfigured = settings.nodesConfigured ∧
      (settings.restart upper).addressingTable = settings.addressingTable := by
  unfold restart
  split <;> exact ⟨rfl, rfl⟩

/-- What `update_node_address` writes. -/
def record (settings : Settings) (node : String) (address : String × String) : Settings :=
  { settings with
    addressingTable := settings.addressingTable.insert node address
    nodesConfigured := insert node settings.nodesConfigured }

end Settings

namespace TestSuite

variable {td : TestDescriptions}

/-- The settings of a suite. -/
def settings (ts : TestSuite td) : Settings where
  sessionId := ts.sessionId
  sessionUsers := ts.sessionUsers
  sessionConfiguration := ts.sessionConfiguration
  sessionSelectedTcList := ts.sessionSelectedTcList
  nodesConfigured := ts.nodesConfigured
  addressingTable := ts.addressingTable

/-- Changing a test case leaves the settings. -/
@[simp] theorem modify_settings (ts : TestSuite td) (i : Fin td.size)
    (change : TestCase → TestCase) : (ts.modify i change).settings = ts.settings := rfl

/-- An address is recorded in the settings. -/
@[simp] theorem updateNodeAddress_settings (ts : TestSuite td) (node : String)
    (address : String × String) :
    (ts.updateNodeAddress node address).settings = ts.settings.record node address := rfl

/-- Skipping a test case leaves the settings. -/
@[simp] theorem skip_settings (ts : TestSuite td) (i : Fin td.size) :
    (ts.skip i).settings = ts.settings := by
  unfold skip
  split
  · rfl
  · dsimp only
    split <;> rfl

/-- Reinitialising a test case leaves the settings. -/
@[simp] theorem reinitTestcase_settings (ts : TestSuite td) (testcaseId : Option String) :
    (ts.reinitTestcase testcaseId).settings = ts.settings := by
  unfold reinitTestcase
  split <;> rfl

/-- A test case is skipped. -/
def Skipped (ts : TestSuite td) (i : Fin td.size) : Prop :=
  (ts.testcase i).state = some .skipped

/-- Whether a test case is skipped is its state. -/
instance (ts : TestSuite td) (i : Fin td.size) : Decidable (ts.Skipped i) :=
  inferInstanceAs (Decidable ((ts.testcase i).state = some .skipped))

/-- Skipping a test case skips it and no other one. -/
theorem skipped_skip (ts : TestSuite td) (i j : Fin td.size) :
    (ts.skip i).Skipped j ↔ j = i ∨ ts.Skipped j := by
  unfold Skipped
  rw [skip_testcase]
  by_cases same : j = i
  · subst same
    by_cases already : (ts.testcase j).state = some .skipped <;> simp [already]
  · simp [same]

/-- Skipping test cases of the suite in order skips these and keeps the settings. -/
theorem skipAll_skipped {ids : List String} (known : ∀ id ∈ ids, ∃ i : Fin td.size, td.id i = id)
    {start after : TestSuite td}
    (run : ids.foldlM (fun ts id => ts.skipTestcase (some id)) start =
      (.ok after : Except PyException (TestSuite td))) :
    after.settings = start.settings ∧
      ∀ i, after.Skipped i ↔ td.id i ∈ ids ∨ start.Skipped i := by
  induction ids generalizing start with
  | nil =>
    obtain rfl : start = after := Except.ok.inj run
    exact ⟨rfl, fun i => by simp⟩
  | cons id rest ih =>
    obtain ⟨j, rfl⟩ := known id List.mem_cons_self
    have step : start.skipTestcase (some (td.id j)) = .ok (start.skip j) :=
      skipTestcase_found (by simp [getTestcase])
    rw [List.foldlM_cons, step] at run
    obtain ⟨kept, skipped⟩ :=
      ih (fun other member => known other (List.mem_cons_of_mem _ member)) run
    refine ⟨kept.trans (skip_settings start j), fun i => ?_⟩
    have named : td.id i = td.id j ↔ i = j := TestDescriptions.id_injective.eq_iff
    rw [skipped, skipped_skip, List.mem_cons, named]
    tauto

/-- **Configuring a suite** writes the settings and skips what is not requested. -/
theorem configureTestsuite_selects {upper : String → String} {ts after : TestSuite td}
    {requested : List String} {sessionId : Option String} {users : Option (List String)}
    {configuration : Option SessionConfiguration}
    (run : ts.configureTestsuite upper requested sessionId users configuration = .ok after) :
    after.settings = ts.settings.configure upper requested sessionId users configuration ∧
      ∀ i, after.Skipped i ↔ (requested ≠ [] ∧ td.id i ∉ requested) ∨ ts.Skipped i := by
  unfold configureTestsuite at run
  dsimp only at run
  split at run
  · rename_i empty
    obtain rfl := Except.ok.inj run
    have nothing : requested = [] := List.isEmpty_iff.mp empty
    exact ⟨rfl, fun i => by simp [nothing, Skipped]⟩
  · rename_i nonempty
    have something : requested ≠ [] := fun nothing => nonempty (List.isEmpty_iff.mpr nothing)
    have listed {id : String} :
        id ∈ (((List.finRange td.size).map td.id).filter (!requested.contains ·)).insertionSort
          (· ≤ ·) ↔ (∃ i, td.id i = id) ∧ id ∉ requested := by
      simp [List.mem_insertionSort]
    obtain ⟨kept, skipped⟩ := skipAll_skipped (fun id member => (listed.mp member).1) run
    refine ⟨kept, fun i => ?_⟩
    rw [skipped, listed]
    simp [something, Skipped]

/-- **Resetting a suite** applies the stored selection again: what was skipped otherwise is not
skipped any more. -/
theorem reinit_selects {upper : String → String} {ts after : TestSuite td}
    (run : ts.reinit upper = .ok after) :
    after.settings = ts.settings.restart upper ∧
      ∀ i, after.Skipped i ↔ ∃ selection, ts.settings.selection = some selection ∧
        td.id i ∉ selection := by
  have unskipped (i : Fin td.size) : ¬ TestSuite.Skipped
      { ts with testcase := fun i => (ts.testcase i).reinit } i := by
    simp [Skipped]
  have stored : ts.settings.selection = ts.sessionSelectedTcList.filter (· ≠ []) := rfl
  unfold reinit at run
  rw [Settings.restart, stored]
  cases selected : ts.sessionSelectedTcList.filter (· ≠ []) with
  | none =>
    simp only [selected] at run
    obtain rfl := Except.ok.inj run
    exact ⟨rfl, fun i => by simp [unskipped]⟩
  | some selection =>
    simp only [selected] at run
    obtain ⟨kept, skipped⟩ := configureTestsuite_selects run
    have something : selection ≠ [] := by
      simpa using (Option.filter_eq_some_iff.mp selected).2
    refine ⟨kept, fun i => ?_⟩
    rw [skipped]
    simp [something, unskipped]

end TestSuite

end Ioppytest
