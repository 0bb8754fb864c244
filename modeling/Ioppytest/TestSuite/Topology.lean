import Ioppytest.Lib.MutableLists
import Ioppytest.TestSuite.TestConfig
import Mathlib.Data.List.Forall2

/-!
# The topology of a test configuration as objects

`get_nodes_on_link` and `get_target_node` once more, with the lists of nodes as objects that can be
changed. The lookup changes the copy that it makes, and finds what `TestConfig.getTargetNode` says.
-/

namespace Ioppytest

open MutableLists Raising

/-- One dictionary of a topology. -/
structure LinkObject where
  /-- `link_id`. -/
  linkId : String
  /-- `nodes`, the reference to a list. -/
  nodes : Nat

namespace LinkObject

/-- `get_nodes_on_link`, a reference to a list of its own. -/
def getNodesOnLink (topology : List LinkObject) (link : Option String) :
    EStateM PyException (Memory String) Nat := do
  let nodesOnLink ← new []
  match link.filter (· ≠ "") with
  | some link =>
    if topology.any fun item => item.linkId == link then throw .typeError else return nodesOnLink
  | none =>
    match topology with
    | [] => throw .indexError
    | item :: _ => copy item.nodes

/-- `get_target_node`. -/
def getTargetNode (topology : List LinkObject) (originNode : String) (link : Option String) :
    EStateM PyException (Memory String) String := do
  let nodesOnLink ← getNodesOnLink topology link
  let nodes := read (← get) nodesOnLink
  if originNode ∈ nodes ∧ nodes.length = 2 then
    remove .valueError nodesOnLink originNode
    pop .indexError nodesOnLink
  else throw .assertionError

/-- The memory holds a topology. -/
def Holds (memory : Memory String) (objects : List LinkObject) (topology : List Link) : Prop :=
  List.Forall₂ (fun object link => object.linkId = link.linkId ∧
    memory[object.nodes]? = some link.nodes) objects topology

variable {memory after : Memory String} {objects : List LinkObject} {config : TestConfig}

/-- A memory that has grown still does. -/
theorem Holds.grown {topology : List Link} (holds : Holds memory objects topology)
    (grown : memory <+: after) : Holds after objects topology :=
  holds.imp fun _ _ same => ⟨same.1, getElem?_grown grown same.2⟩

/-- The ids are the same. -/
theorem Holds.any_linkId {topology : List Link} (holds : Holds memory objects topology)
    (link : String) :
    (objects.any fun item => item.linkId == link) = topology.any fun item => item.linkId == link := by
  induction holds with
  | nil => rfl
  | cons same _ ih => rw [List.any_cons, List.any_cons, ih, same.1]

/-- The nodes of a link are found in a list that is new. -/
theorem getNodesOnLink_run (holds : Holds memory objects config.topology) (link : Option String) :
    ∃ before, memory <+: before ∧
      ((∃ nodes, config.getNodesOnLink link = .ok nodes ∧
          (getNodesOnLink objects link).run memory = .ok before.length (before ++ [nodes])) ∨
        ∃ exception, config.getNodesOnLink link = .error exception ∧
          (getNodesOnLink objects link).run memory = .error exception before) := by
  unfold TestConfig.getNodesOnLink getNodesOnLink
  simp only [EStateM.run_bind, run_new]
  have grown : memory <+: memory ++ [[]] := List.prefix_append memory [[]]
  cases link.filter (· ≠ "") with
  | some link =>
    dsimp only
    rw [← holds.any_linkId link]
    by_cases known : (objects.any fun item => item.linkId == link) = true
    · rw [if_pos known, if_pos known]
      exact ⟨_, grown, .inr ⟨_, rfl, rfl⟩⟩
    · rw [if_neg known, if_neg known]
      exact ⟨memory, List.prefix_rfl, .inl ⟨_, rfl, rfl⟩⟩
  | none =>
    dsimp only
    generalize config.topology = topology at holds
    cases holds with
    | nil => exact ⟨_, grown, .inr ⟨_, rfl, rfl⟩⟩
    | cons same _ => exact ⟨_, grown, .inl ⟨_, rfl, run_copy (getElem?_grown grown same.2)⟩⟩

/-- The lookup finds what the configuration says, and changes no list that was there before. -/
theorem getTargetNode_run (holds : Holds memory objects config.topology) (originNode : String)
    (link : Option String) :
    ∃ after, memory <+: after ∧ (getTargetNode objects originNode link).run memory =
      (lift (config.getTargetNode originNode link)).run after := by
  obtain ⟨before, grown, ⟨nodes, found, run⟩ | ⟨exception, failed, run⟩⟩ :=
    getNodesOnLink_run holds link
  · have further (elements : List String) : memory <+: before ++ [elements] :=
      grown.trans (List.prefix_append before [elements])
    rw [TestConfig.getTargetNode_of_nodes found, getTargetNode, EStateM.run_bind, run]
    simp only [EStateM.run_bind, EStateM.run_get, read_last]
    by_cases two : originNode ∈ nodes ∧ nodes.length = 2
    · rw [if_pos two, if_pos two, EStateM.run_bind, run_remove two.1]
      dsimp only
      rw [run_pop]
      cases (nodes.erase originNode).getLast? with
      | none => exact ⟨_, further _, rfl⟩
      | some targetNode => exact ⟨_, further _, rfl⟩
    · rw [if_neg two, if_neg two]
      exact ⟨_, further nodes, rfl⟩
  · refine ⟨before, grown, ?_⟩
    rw [TestConfig.getTargetNode, failed, getTargetNode, EStateM.run_bind, run]
    rfl

end LinkObject

end Ioppytest
