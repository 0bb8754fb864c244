import Ioppytest.TestSuite.TestCase
import Ioppytest.TestSuite.TestConfig
import Ioppytest.Lib.CyclicSearch
import Ioppytest.Lib.OrderedDict
import Ioppytest.Lib.PyString
import Mathlib.Data.Finset.Card
import Mathlib.Data.List.FinRange
import Mathlib.Data.List.Sort

/-!
# The test suite

`testsuite.TestSuite`: the test cases of a test description in order, the current one, the session
information and the addresses of the nodes. What the description fixes is a parameter; a test
case is referred to by its position, so that a reference outside the suite cannot be built.
-/

namespace Ioppytest

/-- The imported test descriptions and test configurations. -/
structure TestDescriptions where
  /-- `tc_configs`. -/
  tcConfigs : List TestConfig
  /-- `test_descriptions_dict`, in order. -/
  testcases : List TestCaseDescription
  /-- Configurations are the values of a dictionary over their ids. -/
  configs_distinct : (tcConfigs.map (·.id)).Nodup
  /-- Test cases are the values of a dictionary over their ids. -/
  distinct : (testcases.map (·.id)).Nodup
  /-- The constructor asserts that every test case has its configuration. -/
  configured : ∀ tc ∈ testcases, ∃ config ∈ tcConfigs, config.id = tc.configurationId

namespace TestDescriptions

variable (td : TestDescriptions)

/-- Number of test cases. -/
def size : Nat := td.testcases.length

/-- Description of a test case. -/
def description (i : Fin td.size) : TestCaseDescription := td.testcases.get i

/-- Id of a test case. -/
def id (i : Fin td.size) : String := (td.description i).id

/-- The test case with an id. -/
def find (id : String) : Option (Fin td.size) := (List.finRange td.size).find? (td.id · == id)

/-- The configuration of a test case. -/
def config? (i : Fin td.size) : Option TestConfig :=
  td.tcConfigs.find? (·.id == (td.description i).configurationId)

variable {td}

/-- Test cases are told apart by their ids. -/
theorem id_injective : Function.Injective td.id := by
  intro i j same
  have length : (td.testcases.map (·.id)).length = td.size := List.length_map ..
  have entry (k : Fin td.size) :
      (td.testcases.map (·.id)).get ⟨k.val, by rw [length]; exact k.isLt⟩ = td.id k := by
    simp only [List.get_eq_getElem, List.getElem_map]
    rfl
  apply Fin.ext
  have equal := (entry i).trans (same.trans (entry j).symm)
  exact Fin.mk.inj (List.nodup_iff_injective_get.mp td.distinct equal)

/-- Looking up an id finds exactly the test case that has it. -/
theorem find_eq_some {id : String} {i : Fin td.size} : td.find id = some i ↔ td.id i = id := by
  constructor
  · intro found
    simpa using List.find?_some found
  · intro same
    subst same
    cases found : td.find (td.id i) with
    | none =>
      have absent := List.find?_eq_none.mp found i (List.mem_finRange i)
      simp at absent
    | some j =>
      have hit : td.id j = td.id i := by simpa using List.find?_some found
      rw [id_injective hit]

/-- A test case is found by its id. -/
@[simp] theorem find_id (i : Fin td.size) : td.find (td.id i) = some i := find_eq_some.mpr rfl

/-- Looking up an id fails exactly when no test case has it. -/
theorem find_eq_none {id : String} : td.find id = none ↔ ∀ i, td.id i ≠ id := by
  simp [find]

/-- The configuration of a test case is always there. -/
theorem config?_isSome (i : Fin td.size) : (td.config? i).isSome := by
  obtain ⟨config, inside, same⟩ := td.configured (td.description i) (List.get_mem _ _)
  rw [config?, List.find?_isSome]
  exact ⟨config, inside, by simp [same]⟩

/-- The configuration of a test case. -/
def config (i : Fin td.size) : TestConfig := (td.config? i).get (config?_isSome i)

/-- The configuration of a test case is found. -/
theorem config?_eq (i : Fin td.size) : td.config? i = some (config i) := by
  simp [config]

end TestDescriptions

/-- The configuration field of a `MsgSessionConfiguration`. -/
structure SessionConfiguration where
  /-- Value at `testsuite.testcases`; a missing key and `None` are treated alike. -/
  testcases : Option (List String)
  /-- The other keys, which the coordinator only passes on. -/
  others : List (String × String)
  deriving DecidableEq

/-- One entry of the report of a session. -/
structure ReportItem where
  /-- `testcase_id`. -/
  testcaseId : String
  /-- The fields of the report of the test case. -/
  report : Report
  deriving DecidableEq

/-- `testsuite.TestSuite`. -/
structure TestSuite (td : TestDescriptions) where
  /-- Progress of each test case. -/
  testcase : Fin td.size → TestCase
  /-- `current_tc`. -/
  currentTc : Option (Fin td.size) := none
  /-- `nodes_configured`. -/
  nodesConfigured : Finset String := ∅
  /-- `addressing_table`: prefix and host of each node. -/
  addressingTable : OrderedDict String (String × String)
  /-- `session_id`. -/
  sessionId : Option String := none
  /-- `session_users`. -/
  sessionUsers : Option (List String) := none
  /-- `session_configuration`. -/
  sessionConfiguration : Option SessionConfiguration := none
  /-- `session_selected_tc_list`. -/
  sessionSelectedTcList : Option (List String) := none
  /-- Report of the session. -/
  report : Option (List ReportItem) := none

namespace TestSuite

variable {td : TestDescriptions}

/-- The default addressing table: the last configuration that declares a node wins. -/
def defaultAddressingTable (configs : List TestConfig) : OrderedDict String (String × String) :=
  (configs.flatMap (·.defaultAddressing)).foldl
    (fun table item => table.insert item.node (item.ipv6Prefix, item.ipv6Host)) .empty

/-- `TestSuite.__init__`. -/
def new (td : TestDescriptions) : TestSuite td where
  testcase i := .new (td.description i)
  addressingTable := defaultAddressingTable td.tcConfigs

/-- Change one test case. -/
def modify (ts : TestSuite td) (i : Fin td.size) (change : TestCase → TestCase) : TestSuite td :=
  { ts with testcase := Function.update ts.testcase i (change (ts.testcase i)) }

/-- `get_testcase`: the current test case when no id is given. -/
def getTestcase (ts : TestSuite td) : Option String → Option (Fin td.size)
  | none => ts.currentTc
  | some id => td.find id

/-- `get_current_testcase_id`. -/
def getCurrentTestcaseId (ts : TestSuite td) : Option String := ts.currentTc.map td.id

/-- `get_current_testcase_state`; the outer `none` stands for no current test case. -/
def getCurrentTestcaseState (ts : TestSuite td) : Option TestCaseState :=
  ts.currentTc.bind fun i => (ts.testcase i).state

/-- `get_current_step`. -/
def getCurrentStep (ts : TestSuite td) : Option Step :=
  ts.currentTc.bind fun i => (ts.testcase i).step?

/-- `get_current_step_state`. -/
def getCurrentStepState (ts : TestSuite td) : Option StepState :=
  ts.getCurrentStep.bind (·.state)

/-- `get_current_testcase_configuration`. -/
def getCurrentTestcaseConfiguration (ts : TestSuite td) : Option TestConfig :=
  ts.currentTc.bind td.config?

/-- `next_testcase`: the first test case in state `None`, which becomes the current one. -/
def nextTestcase (ts : TestSuite td) :
    Except PyException (Option (Fin td.size) × TestSuite td) :=
  if nonempty : 0 < td.size then
    let found :=
      CyclicSearch.search (fun i => (ts.testcase i).state.isNone) td.size ⟨0, nonempty⟩
    .ok (found, { ts with currentTc := found })
  else .error .stopIteration

/-- The states in which `check_testsuite_finished` finds a test case unfinished. -/
def unfinishedState : Option TestCaseState → Bool
  | none | some .executing | some .readyForAnalysis | some .analyzing => true
  | _ => false

/-- `check_testsuite_finished`: no test case is found unfinished. -/
def checkTestsuiteFinished (ts : TestSuite td) : Except PyException Bool :=
  if nonempty : 0 < td.size then
    .ok (CyclicSearch.search (fun i => unfinishedState (ts.testcase i).state) td.size
      ⟨0, nonempty⟩).isNone
  else .error .stopIteration

/-- `go_to_testcase`. -/
def goToTestcase (ts : TestSuite td) (testcaseId : String) : Except PyException (TestSuite td) :=
  match ts.getTestcase (some testcaseId) with
  | some i => .ok ({ ts with currentTc := some i }.modify i .reinit)
  | none => .error (.testSuiteError "Testcase not found")

/-- `next_step`: the position of the step to execute, none at the end or without a current test
case. -/
def nextStep (ts : TestSuite td) : Option Nat × TestSuite td :=
  match ts.currentTc with
  | none => (none, ts)
  | some i => ((ts.testcase i).nextStep.1, ts.modify i fun tc => tc.nextStep.2)

/-- The report of a test case in the report of the session; a test case without one is given an
error report. -/
def reportOf (tc : TestCase) : Report :=
  tc.report.getD ⟨.error, "No test case verdict/report found for test case", []⟩

/-- `generate_report`. -/
def generateReport (ts : TestSuite td) : TestSuite td :=
  { ts with
    testcase := fun i => { ts.testcase i with report := some (reportOf (ts.testcase i)) }
    report := some ((List.finRange td.size).map fun i => ⟨td.id i, reportOf (ts.testcase i)⟩) }

/-- `skip_testcase`: an id that is not found falls back to the current test case. -/
def skipTestcase (ts : TestSuite td) (testcaseId : Option String) :
    Except PyException (TestSuite td) :=
  match (ts.getTestcase testcaseId).or ts.currentTc with
  | none =>
    .error (.testSuiteError ("Non existent testcase: " ++ testcaseId.getD "None" ++
      " and non ongoing one either"))
  | some i =>
    if (ts.testcase i).state = some .skipped then .ok ts
    else
      let skipped := ts.modify i (·.changeState .skipped)
      .ok (if ts.currentTc = some i then { skipped with currentTc := none } else skipped)

/-- `configure_testsuite`; `upper` is `str.upper`. -/
def configureTestsuite (upper : String → String) (ts : TestSuite td)
    (tcListRequested : List String) (sessionId : Option String) (users : Option (List String))
    (configuration : Option SessionConfiguration) : Except PyException (TestSuite td) :=
  let configured := { ts with
    sessionId
    sessionUsers := users
    sessionConfiguration := configuration
    sessionSelectedTcList := some (tcListRequested.map upper) }
  let tcToSkip := ((List.finRange td.size).map td.id).filter (!tcListRequested.contains ·)
  if tcListRequested.isEmpty then .ok configured
  else (tcToSkip.insertionSort (· ≤ ·)).foldlM (fun ts id => ts.skipTestcase (some id)) configured

/-- `reinit`, as the coordinator calls it: with no selection of its own. -/
def reinit (upper : String → String) (ts : TestSuite td) : Except PyException (TestSuite td) :=
  let reset := { ts with testcase := fun i => (ts.testcase i).reinit }
  match ts.sessionSelectedTcList.filter (· ≠ []) with
  | some selection => reset.configureTestsuite upper selection none none none
  | none => .ok reset

/-- `reinit_testcase`: an id that is not found falls back to the current test case. -/
def reinitTestcase (ts : TestSuite td) (testcaseId : Option String) : TestSuite td :=
  match (ts.getTestcase testcaseId).or ts.currentTc with
  | some i => ts.modify i .reinit
  | none => ts

/-- `abort_current_testcase`. -/
def abortCurrentTestcase (ts : TestSuite td) : Except PyException (TestSuite td) :=
  match ts.currentTc with
  | some i => .ok { ts.modify i .abort with currentTc := none }
  | none => .error .attributeError

/-- `set_current_testcase_state`. -/
def setCurrentTestcaseState (ts : TestSuite td) (state : TestCaseState) :
    Except PyException (TestSuite td) :=
  match ts.currentTc with
  | some i => .ok (ts.modify i (·.changeState state))
  | none => .error .attributeError

/-- `check_all_iut_nodes_configured`: two IUTs are assumed. -/
def checkAllIutNodesConfigured (ts : TestSuite td) : Bool := 1 < ts.nodesConfigured.card

/-- `update_node_address`. -/
def updateNodeAddress (ts : TestSuite td) (node : String) (address : String × String) :
    TestSuite td :=
  { ts with
    addressingTable := ts.addressingTable.insert node address
    nodesConfigured := insert node ts.nodesConfigured }

/-- `get_current_step_target_address`; no exception leaves its only caller. -/
def getCurrentStepTargetAddress (ts : TestSuite td) : Option String := do
  let step ← ts.getCurrentStep
  let iut ← step.iut
  let config ← ts.getCurrentTestcaseConfiguration
  let targetNode ← (config.getTargetNode iut.node none).toOption
  let address ← ts.addressingTable.get? targetNode
  return address.1 ++ "::" ++ address.2

/-- Change the current step of the current test case. -/
def modifyCurrentStep (ts : TestSuite td) (change : Step → Step) : TestSuite td :=
  match ts.currentTc with
  | none => ts
  | some i =>
    match (ts.testcase i).currentStep with
    | none => ts
    | some k => ts.modify i (·.modifyStep k change)

/-- The guard of the three `finish_*_step` methods: the current step is executing and has the
type that the event is about. -/
def awaits (ts : TestSuite td) (type : StepType) : Bool :=
  ts.getCurrentStepState == some .executing && ts.getCurrentStep.any fun step => step.type == type

/-- `finish_check_step`: past its guard it looks for the verdict, in lower case, in the method
`Verdict.values` itself, which Python refuses. -/
def finishCheckStep (ts : TestSuite td) (partialVerdict : Option String) :
    Except PyException (TestSuite td) :=
  if ts.awaits .check then
    match partialVerdict with
    | none => .error .attributeError
    | some _ => .error .typeError
  else .ok ts

/-- `finish_verify_step`: an answer without a value fails the assertion that it is a Boolean. -/
def finishVerifyStep (ts : TestSuite td) (verifyResponse : Option Bool) :
    Except PyException (TestSuite td) :=
  if ts.awaits .verify then
    match verifyResponse with
    | none => .error .assertionError
    | some response => .ok (ts.modifyCurrentStep (·.verified response))
  else .ok ts

/-- `finish_stimuli_step`. -/
def finishStimuliStep (ts : TestSuite td) : TestSuite td :=
  if ts.awaits .stimuli then ts.modifyCurrentStep (·.changeState (some .finished)) else ts

end TestSuite

end Ioppytest
