import Ioppytest.TestSuite.Import

/-!
# What is imported

The import accepts exactly the files whose documents are well formed, whose steps name the IUT that
executes them and whose test cases have their configuration. It keeps of every id the last document,
at the place of the first one.
-/

namespace Ioppytest

open PyString

/-- The name of a type. -/
def StepType.name : StepType → String
  | .stimuli => "stimuli"
  | .check => "check"
  | .verify => "verify"
  | .feature => "feature"

/-- A type is known by its name. -/
theorem StepType.ofName?_eq_some {name : String} {type : StepType} :
    ofName? name = some type ↔ name = type.name := by
  constructor
  · intro known
    unfold ofName? at known
    split at known <;> cases known <;> rfl
  · rintro rfl
    cases type <;> rfl

/-- The IUT of a step of a type. -/
def StepType.iutOf (type : StepType) (node : Option String) : Option Iut :=
  if type.isExecutable then node.map fun node => { node } else none

/-- A mapping describes a step: a step that is executed by an IUT names its node, and nothing else is
known about it. -/
structure StepMapping.Describes (s : StepMapping) (step : Step) : Prop where
  id : s.stepId = some step.id
  type : s.type = some step.type.name
  description : s.description = some step.description
  iut : step.iut = step.type.iutOf s.node.join
  known : s.unknownKey = false
  state : step.state = none
  partialVerdict : step.partialVerdict = {}

/-- The keys of a document describe a test case. -/
structure TestcaseMapping.Describes (state : TestcaseMapping) (tc : TestCaseDescription) : Prop where
  id : state.testcaseId = some tc.id
  uri : state.uri = some tc.uri
  objective : state.objective = some tc.objective
  configuration : state.configuration = some tc.configurationId
  references : state.references.isSome
  preConditions : state.preConditions = some tc.preConditions
  notes : state.notes = some tc.notes
  known : state.unknownKey = false
  sequence : ∃ steps, state.sequence = some steps ∧ List.Forall₂ StepMapping.Describes steps tc.sequence

/-- The keys of a document describe a configuration. -/
structure ConfigurationMapping.Describes (state : ConfigurationMapping) (config : TestConfig) :
    Prop where
  id : state.configurationId = some config.id
  uri : state.uri = some config.uri
  nodes : state.nodes = some config.nodes
  topology : state.topology = some config.topology
  addressing : state.addressing = some config.defaultAddressing
  description : state.description = some config.nodesDescription
  diagram : state.configurationDiagram.isSome
  known : state.unknownKey = false

/-- The documents of a file describe test cases and configurations, in this order; others may stand
between them, as long as they can be loaded. -/
inductive Describe : List YamlDocument → List Imported → Prop
  | nil : Describe [] []
  | other {rest : List YamlDocument} {objects : List Imported} : Describe rest objects →
      Describe (.other :: rest) objects
  | testcase {state : TestcaseMapping} {tc : TestCaseDescription} {rest : List YamlDocument}
      {objects : List Imported} : state.Describes tc → Describe rest objects →
      Describe (.testcase state :: rest) (.testcase tc :: objects)
  | configuration {state : ConfigurationMapping} {config : TestConfig} {rest : List YamlDocument}
      {objects : List Imported} : state.Describes config → Describe rest objects →
      Describe (.configuration state :: rest) (.configuration config :: objects)

namespace Step

/-- A step is made of its fields. -/
theorem init_eq_ok {stepId type description : String} {node : Option String} {step : Step} :
    init stepId type description node = .ok step ↔
      step.id = stepId ∧ step.type.name = type ∧ step.description = description ∧
        step.iut = step.type.iutOf node ∧ step.state = none ∧ step.partialVerdict = {} := by
  constructor
  · intro made
    unfold init at made
    split at made
    · cases made
    · cases made
    · cases made
    all_goals
      rename_i known
      cases made
      exact ⟨rfl, (StepType.ofName?_eq_some.mp known).symm, rfl, rfl, rfl, rfl⟩
  · obtain ⟨id, kind, text, iut, exact_iut, state, partialVerdict⟩ := step
    rintro ⟨rfl, rfl, rfl, named, rfl, rfl⟩
    dsimp only at named
    have known : StepType.ofName? kind.name = some kind := StepType.ofName?_eq_some.mpr rfl
    subst named
    cases kind with
    | check | feature => simp [init, known, StepType.iutOf, StepType.isExecutable]
    | stimuli | verify =>
      cases node with
      | none => cases exact_iut
      | some node => simp [init, known, StepType.iutOf, StepType.isExecutable]

/-- A step is constructed exactly from the mappings that describe it. -/
theorem imported_eq_ok {s : StepMapping} {step : Step} :
    imported s = .ok step ↔ s.Describes step := by
  have same : imported s = .ok step ↔ ofMapping s = .ok step := by
    unfold imported
    cases ofMapping s <;> simp
  rw [same]
  constructor
  · intro made
    unfold ofMapping at made
    split at made
    · cases made
    · rename_i type named
      split at made
      · cases made
      · split at made
        · rename_i stepId description id told known
          obtain ⟨rfl, rfl, rfl, iut, state, partialVerdict⟩ := init_eq_ok.mp made
          exact ⟨id, named, told, iut, known, state, partialVerdict⟩
        · cases made
  · rintro ⟨id, kind, told, iut, known, state, partialVerdict⟩
    have made : init step.id step.type.name step.description s.node.join = .ok step :=
      init_eq_ok.mpr ⟨rfl, rfl, rfl, iut, state, partialVerdict⟩
    have attended : ¬ (step.type.name = "stimuli" ∧ s.node = none) := by
      rintro ⟨stimuli, missing⟩
      have needed := step.iut_iff
      have stimulus := StepType.ofName?_eq_some.mpr stimuli.symm
      rw [iut, missing] at needed
      cases kind : step.type <;> rw [kind] at needed stimulus <;> cases needed <;> cases stimulus
    simp only [ofMapping, kind, attended, ↓reduceIte, id, told, known, made]

end Step

/-- The steps of a test case are constructed exactly from the mappings that describe them. -/
theorem mapM_imported_eq_ok {mappings : List StepMapping} {steps : List Step} :
    mappings.mapM Step.imported = .ok steps ↔
      List.Forall₂ StepMapping.Describes mappings steps := by
  induction mappings generalizing steps with
  | nil =>
    rw [List.forall₂_nil_left_iff]
    exact ⟨fun made => (Except.ok.inj made).symm, fun none => none ▸ rfl⟩
  | cons s rest ih =>
    rw [List.mapM_cons]
    cases first : Step.imported s with
    | error exception =>
      refine iff_of_false (fun made => by cases made) fun described => ?_
      cases described with
      | cons head _ => cases first.symm.trans (Step.imported_eq_ok.mpr head)
    | ok step =>
      cases others : rest.mapM Step.imported with
      | error exception =>
        refine iff_of_false (fun made => by simp [bind, Except.bind] at made) fun described => ?_
        cases described with
        | cons _ tail => cases others.symm.trans (ih.mpr tail)
      | ok later =>
        constructor
        · intro made
          have same : step :: later = steps := by
            simpa [bind, Except.bind, pure, Except.pure] using made
          exact same ▸ .cons (Step.imported_eq_ok.mp first) (ih.mp others)
        · intro described
          cases described with
          | cons head tail =>
            cases first.symm.trans (Step.imported_eq_ok.mpr head)
            cases others.symm.trans (ih.mpr tail)
            rfl

/-- A test case is constructed exactly from the documents that describe it. -/
theorem TestCaseDescription.init_eq_ok {state : TestcaseMapping} {tc : TestCaseDescription} :
    init state = .ok tc ↔ state.Describes tc := by
  constructor
  · intro made
    unfold init at made
    split at made
    · rename_i sequence
      cases steps : sequence.mapM Step.imported with
      | error exception => simp [steps, bind, Except.bind] at made
      | ok constructed =>
        simp [steps, bind, Except.bind, pure, Except.pure] at made
        subst made
        exact ⟨rfl, rfl, rfl, rfl, rfl, rfl, rfl, rfl, _, rfl, mapM_imported_eq_ok.mp steps⟩
    · cases made
  · obtain ⟨testcaseId, uri, objective, configuration, references, preConditions, notes, sequence,
      unknownKey⟩ := state
    rintro ⟨id, ref, purpose, config, refs, before, remarks, known, steps, given, described⟩
    dsimp only at id ref purpose config refs before remarks known given
    obtain ⟨references, rfl⟩ := Option.isSome_iff_exists.mp refs
    subst id ref purpose config before remarks known given
    simp only [init, mapM_imported_eq_ok.mpr described]
    rfl

/-- A configuration is constructed exactly from the documents that describe it. -/
theorem TestConfig.init_eq_ok {state : ConfigurationMapping} {config : TestConfig} :
    init state = .ok config ↔ state.Describes config := by
  constructor
  · intro made
    unfold init at made
    split at made
    · cases made
      exact ⟨rfl, rfl, rfl, rfl, rfl, rfl, rfl, rfl⟩
    · cases made
  · obtain ⟨configurationId, uri, nodes, topology, addressing, description, diagram, unknownKey⟩ := state
    rintro ⟨id, ref, members, links, addresses, texts, drawn, known⟩
    dsimp only at id ref members links addresses texts drawn known
    obtain ⟨diagram, rfl⟩ := Option.isSome_iff_exists.mp drawn
    subst id ref members links addresses texts known
    rfl

/-- An import goes on after each document. -/
theorem importTestDescription_cons {document : YamlDocument} {rest : List YamlDocument}
    {objects : List Imported} :
    importTestDescription (document :: rest) = .ok objects ↔
      ∃ object others, document.construct = .ok object ∧
        importTestDescription rest = .ok others ∧ objects = object.toList ++ others := by
  rw [importTestDescription]
  cases document.construct with
  | error exception => simp [bind, Except.bind]
  | ok object =>
    cases importTestDescription rest with
    | error exception => simp [bind, Except.bind]
    | ok others => simp [bind, Except.bind, pure, Except.pure, eq_comm]

/-- A file is imported exactly as its documents describe. -/
theorem importTestDescription_eq_ok {documents : List YamlDocument} {objects : List Imported} :
    importTestDescription documents = .ok objects ↔ Describe documents objects := by
  constructor
  · intro made
    induction documents generalizing objects with
    | nil =>
      cases made
      exact .nil
    | cons document rest ih =>
      obtain ⟨object, others, constructed, later, rfl⟩ := importTestDescription_cons.mp made
      have described := ih later
      cases document with
      | other =>
        cases constructed
        exact .other described
      | refused => cases constructed
      | testcase state =>
        cases read : TestCaseDescription.init state with
        | error exception =>
          rw [YamlDocument.construct, read] at constructed
          cases constructed
        | ok tc =>
          rw [YamlDocument.construct, read] at constructed
          cases constructed
          exact .testcase (TestCaseDescription.init_eq_ok.mp read) described
      | configuration state =>
        cases read : TestConfig.init state with
        | error exception =>
          rw [YamlDocument.construct, read] at constructed
          cases constructed
        | ok config =>
          rw [YamlDocument.construct, read] at constructed
          cases constructed
          exact .configuration (TestConfig.init_eq_ok.mp read) described
  · intro described
    induction described with
    | nil => rfl
    | other _ ih => exact importTestDescription_cons.mpr ⟨none, _, rfl, ih, rfl⟩
    | testcase tc _ ih =>
      refine importTestDescription_cons.mpr ⟨some _, _, ?_, ih, rfl⟩
      rw [YamlDocument.construct, TestCaseDescription.init_eq_ok.mpr tc]
      rfl
    | configuration config _ ih =>
      refine importTestDescription_cons.mpr ⟨some _, _, ?_, ih, rfl⟩
      rw [YamlDocument.construct, TestConfig.init_eq_ok.mpr config]
      rfl

/-- The loop over the configurations puts each of them into the dictionary. -/
theorem addConfigs_eq_ok {configs after : TcConfigs} {table later : OrderedDict String (String × String)}
    {objects : List Imported} :
    addConfigs configs table objects = .ok (after, later) ↔
      ∃ list : List TestConfig, objects = list.map .configuration ∧ after = configs.addAll list ∧
        later = list.foldl addressed table := by
  induction objects generalizing configs table with
  | nil =>
    constructor
    · intro made
      cases made
      exact ⟨[], rfl, rfl, rfl⟩
    · rintro ⟨list, empty, rfl, rfl⟩
      rw [List.map_eq_nil_iff.mp empty.symm]
      rfl
  | cons object rest ih =>
    cases object with
    | testcase tc =>
      refine iff_of_false (fun made => by cases made) ?_
      rintro ⟨list, same, -⟩
      cases list <;> cases same
    | configuration config =>
      rw [addConfigs, ih]
      constructor
      · rintro ⟨list, rfl, rfl, rfl⟩
        exact ⟨config :: list, rfl, rfl, rfl⟩
      · rintro ⟨list, same, rfl, rfl⟩
        cases list with
        | nil => cases same
        | cons head tail =>
          cases same
          exact ⟨tail, rfl, rfl, rfl⟩

/-- The loop over the test cases puts each of them into the dictionary, if all have their
configurations. -/
theorem addTestcases_eq_ok {configs : TcConfigs}
    {tcs after : {tcs : TestDescriptionsDict // Configured configs tcs}} {objects : List Imported} :
    addTestcases configs tcs objects = .ok after ↔
      ∃ list : List TestCaseDescription, objects = list.map .testcase ∧
        (∀ tc ∈ list, ∃ config ∈ configs.values, config.id = tc.configurationId) ∧
        after.val = tcs.val.addAll list := by
  induction objects generalizing tcs with
  | nil =>
    constructor
    · intro made
      cases made
      exact ⟨[], rfl, by simp, rfl⟩
    · rintro ⟨list, empty, -, same⟩
      rw [List.map_eq_nil_iff.mp empty.symm] at same
      exact congrArg Except.ok (Subtype.ext same.symm)
  | cons object rest ih =>
    cases object with
    | configuration config =>
      refine iff_of_false (fun made => by cases made) ?_
      rintro ⟨list, same, -⟩
      cases list <;> cases same
    | testcase tc =>
      rw [addTestcases]
      split
      · rename_i configured
        rw [ih]
        constructor
        · rintro ⟨list, rfl, all, same⟩
          refine ⟨tc :: list, rfl, ?_, same⟩
          intro other member
          exact (List.mem_cons.mp member).elim (fun here => here ▸ configured) (all other)
        · rintro ⟨list, same, all, after⟩
          cases list with
          | nil => cases same
          | cons head tail =>
            cases same
            exact ⟨tail, rfl, fun other member => all other (List.mem_cons_of_mem _ member), after⟩
      · rename_i missing
        refine iff_of_false (fun made => by cases made) ?_
        rintro ⟨list, same, all, -⟩
        cases list with
        | nil => cases same
        | cons head tail =>
          cases same
          exact missing (all tc List.mem_cons_self)

/-- The default addresses of configurations, one after the other. -/
theorem foldl_addressed (configs : List TestConfig) :
    configs.foldl addressed .empty = TestSuite.defaultAddressingTable configs := by
  rw [TestSuite.defaultAddressingTable, List.foldl_flatMap]
  rfl

/-- An id is that of a configuration among the latest if and only if one has it. -/
theorem configured_latest {configs : List TestConfig} {id : String} :
    (∃ config ∈ Catalogue.latest (·.id) configs, config.id = id) ↔
      ∃ config ∈ configs, config.id = id := by
  have keys : (Catalogue.latest (·.id) configs).map (·.id) = Catalogue.firstSeen (·.id) configs :=
    Catalogue.latest_keys configs
  have left : id ∈ (Catalogue.latest (·.id) configs).map (·.id) ↔
      ∃ config ∈ Catalogue.latest (·.id) configs, config.id = id := List.mem_map
  have right : id ∈ configs.map (·.id) ↔ ∃ config ∈ configs, config.id = id := List.mem_map
  rw [← left, ← right, keys, Catalogue.mem_firstSeen]

/-- An import goes through four loops. -/
theorem imported_eq_ok {tedTcFile tedConfigFile : List YamlDocument}
    {suite : (td : TestDescriptions) × TestSuite td} :
    TestSuite.imported tedTcFile tedConfigFile = .ok suite ↔
      ∃ (importedConfigs importedTds : List Imported) (configs : TcConfigs)
        (table : OrderedDict String (String × String))
        (tcs : {tcs : TestDescriptionsDict // Configured configs tcs}),
        importTestDescription tedConfigFile = .ok importedConfigs ∧
        addConfigs .empty .empty importedConfigs = .ok (configs, table) ∧
        importTestDescription tedTcFile = .ok importedTds ∧
        addTestcases configs ⟨.empty, fun _ member => by cases member⟩ importedTds = .ok tcs ∧
        suite = ⟨.ofDicts configs tcs.val tcs.property,
          { TestSuite.new (.ofDicts configs tcs.val tcs.property) with addressingTable := table }⟩ := by
  constructor
  · intro accepted
    unfold TestSuite.imported at accepted
    cases first : importTestDescription tedConfigFile with
    | error exception => simp [first, bind, Except.bind] at accepted
    | ok importedConfigs =>
      cases second : addConfigs .empty .empty importedConfigs with
      | error exception => simp [first, second, bind, Except.bind] at accepted
      | ok made =>
        cases third : importTestDescription tedTcFile with
        | error exception => simp [first, second, third, bind, Except.bind] at accepted
        | ok importedTds =>
          cases fourth : addTestcases made.1 ⟨.empty, fun _ member => by cases member⟩ importedTds with
          | error exception => simp [first, second, third, fourth, bind, Except.bind] at accepted
          | ok tcs =>
            simp only [first, second, third, fourth, bind, Except.bind, pure, Except.pure,
              Except.ok.injEq] at accepted
            exact ⟨importedConfigs, importedTds, made.1, made.2, tcs, rfl, second, rfl, fourth,
              accepted.symm⟩
  · rintro ⟨importedConfigs, importedTds, configs, table, tcs, first, second, third, fourth, rfl⟩
    simp only [TestSuite.imported, first, second, third, fourth, bind, Except.bind, pure, Except.pure]

/-- **The import accepts exactly what describes a test suite.** The documents of the one file describe
test cases, those of the other configurations, and every test case, even one that a later document
replaces, names one of these; of each id the last document is kept, at the place of the first one, and
a node has the address that the last configuration gives to it. -/
theorem imported_iff (tedTcFile tedConfigFile : List YamlDocument) (td : TestDescriptions)
    (ts : TestSuite td) :
    TestSuite.imported tedTcFile tedConfigFile = .ok ⟨td, ts⟩ ↔
      ∃ (tcs : List TestCaseDescription) (configs : List TestConfig),
        Describe tedTcFile (tcs.map .testcase) ∧ Describe tedConfigFile (configs.map .configuration) ∧
        (∀ tc ∈ tcs, ∃ config ∈ configs, config.id = tc.configurationId) ∧
        td.testcases = Catalogue.latest (·.id) tcs ∧ td.tcConfigs = Catalogue.latest (·.id) configs ∧
        ts = { TestSuite.new td with
          addressingTable := TestSuite.defaultAddressingTable configs } := by
  rw [imported_eq_ok]
  constructor
  · rintro ⟨importedConfigs, importedTds, dict, table, kept, first, second, third, fourth, same⟩
    obtain ⟨configs, rfl, rfl, rfl⟩ := addConfigs_eq_ok.mp second
    obtain ⟨tcs, rfl, configured, filled⟩ := addTestcases_eq_ok.mp fourth
    cases same
    refine ⟨tcs, configs, importTestDescription_eq_ok.mp third, importTestDescription_eq_ok.mp first,
      ?_, ?_, Catalogue.values_addAll configs, ?_⟩
    · intro tc member
      rw [← configured_latest, ← Catalogue.values_addAll]
      exact configured tc member
    · show kept.val.values = Catalogue.latest (·.id) tcs
      rw [filled]
      exact Catalogue.values_addAll tcs
    · rw [foldl_addressed]
  · rintro ⟨tcs, configs, described, settings, configured, testcases, tcConfigs, rfl⟩
    have needed : ∀ tc ∈ tcs, ∃ config ∈ ((Catalogue.empty : TcConfigs).addAll configs).values,
        config.id = tc.configurationId := by
      intro tc member
      rw [Catalogue.values_addAll, configured_latest]
      exact configured tc member
    obtain ⟨listed, list, _, _, complete⟩ := td
    dsimp only at testcases tcConfigs
    rw [← Catalogue.values_addAll] at testcases tcConfigs
    subst testcases tcConfigs
    exact ⟨configs.map .configuration, tcs.map .testcase, Catalogue.empty.addAll configs,
      configs.foldl addressed .empty, ⟨Catalogue.empty.addAll tcs, complete⟩,
      importTestDescription_eq_ok.mpr settings, addConfigs_eq_ok.mpr ⟨configs, rfl, rfl, rfl⟩,
      importTestDescription_eq_ok.mpr described, addTestcases_eq_ok.mpr ⟨tcs, rfl, needed, rfl⟩,
      by rw [foldl_addressed]; rfl⟩

/-- Documents that describe a test description are imported as it is. -/
theorem imported_new {tedTcFile tedConfigFile : List YamlDocument} {td : TestDescriptions}
    (testcases : Describe tedTcFile (td.testcases.map .testcase))
    (configs : Describe tedConfigFile (td.tcConfigs.map .configuration)) :
    TestSuite.imported tedTcFile tedConfigFile = .ok ⟨td, .new td⟩ := by
  have kept : ((Catalogue.empty : TestDescriptionsDict).addAll td.testcases).values = td.testcases := by
    rw [Catalogue.values_addAll, Catalogue.latest_eq td.distinct]
  have settings : ((Catalogue.empty : TcConfigs).addAll td.tcConfigs).values = td.tcConfigs := by
    rw [Catalogue.values_addAll, Catalogue.latest_eq td.configs_distinct]
  have complete : Configured (Catalogue.empty.addAll td.tcConfigs)
      (Catalogue.empty.addAll td.testcases) := by
    rw [Configured, kept, settings]
    exact td.configured
  have same : TestDescriptions.ofDicts _ _ complete = td := by
    obtain ⟨tcConfigs, list, _, _, _⟩ := td
    simp only [TestDescriptions.ofDicts, kept, settings]
  refine imported_eq_ok.mpr ⟨td.tcConfigs.map .configuration, td.testcases.map .testcase,
    Catalogue.empty.addAll td.tcConfigs, td.tcConfigs.foldl addressed .empty, ⟨_, complete⟩,
    importTestDescription_eq_ok.mpr configs, addConfigs_eq_ok.mpr ⟨td.tcConfigs, rfl, rfl, rfl⟩,
    importTestDescription_eq_ok.mpr testcases,
    addTestcases_eq_ok.mpr ⟨td.testcases, rfl, ?_, rfl⟩, ?_⟩
  · rw [settings]
    exact td.configured
  · rw [foldl_addressed, same]
    rfl

end Ioppytest
