import Ioppytest.Lib.Catalogue
import Ioppytest.TestSuite.Suite

/-!
# The import of test descriptions

What `TestSuite.__init__` makes of the documents of its two files. A document is given as the YAML
parser leaves it; the constructors check it, and the loops put the test configurations and the test
cases into dictionaries. That every test case has its configuration is carried along by the loop that
asserts it, so that what is returned is a test description. A value that is only passed on, such as a
list of notes, is a text.
-/

namespace Ioppytest

open PyString

/-- A step as it is parsed; a key may be missing. -/
structure StepMapping where
  stepId : Option String
  type : Option String
  description : Option String
  node : Attribute
  /-- There is a key that `Step.__init__` does not take. -/
  unknownKey : Bool := false
  /-- `str(s)`. -/
  text : String
  deriving DecidableEq

/-- A document with the tag `!testcase`. -/
structure TestcaseMapping where
  testcaseId : Option String
  uri : Option String
  objective : Option String
  configuration : Option String
  references : Option String
  preConditions : Option String
  notes : Option String
  sequence : Option (List StepMapping)
  /-- There is a key that `TestCase.__init__` does not take. -/
  unknownKey : Bool := false
  deriving DecidableEq

/-- A document with the tag `!configuration`. -/
structure ConfigurationMapping where
  configurationId : Option String
  uri : Option String
  nodes : Option (List String)
  topology : Option (List Link)
  addressing : Option (List DefaultAddress)
  description : Option (List NodeDescription)
  configurationDiagram : Option String
  /-- There is a key that `TestConfig.__init__` does not take. -/
  unknownKey : Bool := false
  deriving DecidableEq

/-- A document of a file. -/
inductive YamlDocument where
  | testcase (state : TestcaseMapping)
  | configuration (state : ConfigurationMapping)
  /-- No tag, or one that YAML itself defines. -/
  | other
  /-- The loader refuses the document: it is no YAML, or there is a tag without a constructor. -/
  | refused

/-- What is imported from a document. -/
inductive Imported where
  | testcase (tc : TestCaseDescription)
  | configuration (config : TestConfig)

/-- The types that `Step.__init__` knows. -/
def StepType.ofName? : String → Option StepType
  | "stimuli" => some .stimuli
  | "check" => some .check
  | "verify" => some .verify
  | "feature" => some .feature
  | _ => none

namespace Step

/-- No IUT executes a check. -/
theorem check_unassigned : (none : Option Iut).isSome = StepType.check.isExecutable := rfl

/-- No IUT executes a feature step. -/
theorem feature_unassigned : (none : Option Iut).isSome = StepType.feature.isExecutable := rfl

/-- `Step.__init__`; the node of a step that is not executed by an IUT is dropped. -/
def init (stepId type description : String) (node : Option String) : Except PyException Step :=
  match StepType.ofName? type, node with
  | none, _ => .error .assertionError
  | some .stimuli, none => .error .assertionError
  | some .verify, none => .error .assertionError
  | some .stimuli, some node => .ok ⟨stepId, .stimuli, description, some { node }, rfl, none, {}⟩
  | some .verify, some node => .ok ⟨stepId, .verify, description, some { node }, rfl, none, {}⟩
  | some .check, _ => .ok ⟨stepId, .check, description, none, check_unassigned, none, {}⟩
  | some .feature, _ => .ok ⟨stepId, .feature, description, none, feature_unassigned, none, {}⟩

/-- The sanity checks of `TestCase.__init__`, and the construction of the step. The first assertion
only looks for the type. -/
def ofMapping (s : StepMapping) : Except PyException Step :=
  match s.type with
  | none => .error .assertionError
  | some type =>
    if type = "stimuli" ∧ s.node = none then .error .assertionError
    else
      match s.stepId, s.description, s.unknownKey with
      | some stepId, some description, false => init stepId type description s.node.join
      | _, _, _ => .error .typeError

/-- A step of a test case: whatever is raised becomes a `TestSuiteError`. -/
def imported (s : StepMapping) : Except PyException Step :=
  match ofMapping s with
  | .ok step => .ok step
  | .error _ => .error (.testSuiteError ("Error found while trying to parse: " ++ s.text))

end Step

/-- `TestCase.__init__`, called with the keys of a document. -/
def TestCaseDescription.init (state : TestcaseMapping) : Except PyException TestCaseDescription :=
  match state with
  | ⟨some testcaseId, some uri, some objective, some configuration, some _, some preConditions,
      some notes, some sequence, false⟩ => do
    return ⟨testcaseId, uri, objective, configuration, preConditions, notes,
      ← sequence.mapM Step.imported⟩
  | _ => .error .typeError

/-- `TestConfig.__init__`, called with the keys of a document. -/
def TestConfig.init (state : ConfigurationMapping) : Except PyException TestConfig :=
  match state with
  | ⟨some configurationId, some uri, some nodes, some topology, some addressing, some description,
      some _, false⟩ => .ok ⟨configurationId, uri, nodes, topology, addressing, description⟩
  | _ => .error .typeError

/-- The object that a document is parsed to, if it is one of the two kinds. -/
def YamlDocument.construct : YamlDocument → Except PyException (Option Imported)
  | .testcase state => (TestCaseDescription.init state).map (some ∘ .testcase)
  | .configuration state => (TestConfig.init state).map (some ∘ .configuration)
  | .other => .ok none
  | .refused => .error .yamlError

/-- `import_test_description_from_yaml`: other documents are only logged. -/
def importTestDescription : List YamlDocument → Except PyException (List Imported)
  | [] => .ok []
  | document :: rest => do
    let object ← document.construct
    let others ← importTestDescription rest
    return object.toList ++ others

/-- `tc_configs`. -/
abbrev TcConfigs : Type := Catalogue String TestConfig (·.id)

/-- `test_descriptions_dict`. -/
abbrev TestDescriptionsDict : Type := Catalogue String TestCaseDescription (·.id)

/-- Every test case has its configuration. -/
def Configured (configs : TcConfigs) (tcs : TestDescriptionsDict) : Prop :=
  ∀ tc ∈ tcs.values, ∃ config ∈ configs.values, config.id = tc.configurationId

/-- The entries of the default addressing of a configuration. -/
def addressed (table : OrderedDict String (String × String)) (config : TestConfig) :
    OrderedDict String (String × String) :=
  config.defaultAddressing.foldl
    (fun table item => table.insert item.node (item.ipv6Prefix, item.ipv6Host)) table

/-- The loop over the imported configurations; a test case among them has no nodes. -/
def addConfigs : TcConfigs → OrderedDict String (String × String) → List Imported →
    Except PyException (TcConfigs × OrderedDict String (String × String))
  | configs, table, [] => .ok (configs, table)
  | configs, table, .configuration config :: rest =>
    addConfigs (configs.add config) (addressed table config) rest
  | _, _, .testcase _ :: _ => .error .attributeError

/-- The loop over the imported test cases, with its assertion; a configuration among them has no
configuration id. -/
def addTestcases (configs : TcConfigs) : {tcs : TestDescriptionsDict // Configured configs tcs} →
    List Imported → Except PyException {tcs : TestDescriptionsDict // Configured configs tcs}
  | tcs, [] => .ok tcs
  | tcs, .testcase tc :: rest =>
    if configured : ∃ config ∈ configs.values, config.id = tc.configurationId then
      addTestcases configs ⟨tcs.val.add tc, fun other member =>
        (Catalogue.mem_add member).elim (fun same => same ▸ configured) (tcs.property other)⟩ rest
    else .error .assertionError
  | _, .configuration _ :: _ => .error .attributeError

/-- The test description that the dictionaries make up. -/
def TestDescriptions.ofDicts (configs : TcConfigs) (tcs : TestDescriptionsDict)
    (configured : Configured configs tcs) : TestDescriptions where
  tcConfigs := configs.values
  testcases := tcs.values
  configs_distinct := configs.distinct
  distinct := tcs.distinct
  configured

/-- `TestSuite.__init__`, given the documents of the file of test cases and of the file of
configurations. -/
def TestSuite.imported (tedTcFile tedConfigFile : List YamlDocument) :
    Except PyException ((td : TestDescriptions) × TestSuite td) := do
  let importedConfigs ← importTestDescription tedConfigFile
  let (configs, table) ← addConfigs .empty .empty importedConfigs
  let importedTds ← importTestDescription tedTcFile
  let tcs ← addTestcases configs ⟨.empty, fun _ member => by cases member⟩ importedTds
  let td := TestDescriptions.ofDicts configs tcs.val tcs.property
  return ⟨td, { TestSuite.new td with addressingTable := table }⟩

end Ioppytest
