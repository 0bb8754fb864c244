import Ioppytest.Exceptions

/-!
# Test configurations

`testsuite.TestConfig`: the nodes of a test configuration, the links between them and the default
addressing, as imported from the configuration file, with the lookup of the peer of a node.
-/

namespace Ioppytest

/-- One link of a topology. -/
structure Link where
  /-- `link_id`. -/
  linkId : String
  /-- Nodes on the link. -/
  nodes : List String
  /-- Filter handed to the sniffer. -/
  captureFilter : String
  /-- `special_mode`, when the link has one. -/
  specialMode : Option String
  deriving DecidableEq

/-- One entry of a default addressing table. -/
structure DefaultAddress where
  /-- Node name. -/
  node : String
  /-- `ipv6_prefix`. -/
  ipv6Prefix : String
  /-- `ipv6_host`, rendered. -/
  ipv6Host : String
  deriving DecidableEq

/-- What a node is asked to configure. -/
structure NodeDescription where
  /-- Node name. -/
  node : String
  /-- Text shown to the user of the node. -/
  message : String
  deriving DecidableEq

/-- `testsuite.TestConfig`. -/
structure TestConfig where
  /-- `configuration_id`. -/
  id : String
  /-- Reference of the configuration. -/
  uri : String
  /-- Nodes that take part. -/
  nodes : List String
  /-- Links between them. -/
  topology : List Link
  /-- `addressing`. -/
  defaultAddressing : List DefaultAddress
  /-- `description`. -/
  nodesDescription : List NodeDescription
  deriving DecidableEq

namespace TestConfig

/-- `get_nodes_on_link`: a link looked up by its id is indexed by its id string, which Python
refuses; without an id the first link is meant. -/
def getNodesOnLink (config : TestConfig) (link : Option String) :
    Except PyException (List String) :=
  match link.filter (· ≠ "") with
  | some link =>
    if config.topology.any fun item => item.linkId == link then .error .typeError else .ok []
  | none =>
    match config.topology with
    | [] => .error .indexError
    | item :: _ => .ok item.nodes

/-- `get_target_node`: the other node of a link of two. -/
def getTargetNode (config : TestConfig) (originNode : String) (link : Option String) :
    Except PyException String := do
  let nodesOnLink ← config.getNodesOnLink link
  if originNode ∈ nodesOnLink ∧ nodesOnLink.length = 2 then
    match (nodesOnLink.erase originNode).getLast? with
    | some targetNode => .ok targetNode
    | none => .error .indexError
  else .error .assertionError

variable {config : TestConfig}

/-- The lookup with the nodes of the link at hand. -/
theorem getTargetNode_of_nodes {link : Option String} {nodes : List String}
    (found : config.getNodesOnLink link = .ok nodes) (originNode : String) :
    config.getTargetNode originNode link =
      if originNode ∈ nodes ∧ nodes.length = 2 then
        match (nodes.erase originNode).getLast? with
        | some targetNode => .ok targetNode
        | none => .error .indexError
      else .error .assertionError := by
  simp only [getTargetNode, found, bind, Except.bind]

/-- The two nodes are those of the first link. -/
def Peers (config : TestConfig) (node peer : String) : Prop :=
  ∃ link ∈ config.topology.head?, link.nodes = [node, peer] ∨ link.nodes = [peer, node]

/-- The target of a node is its peer. -/
theorem getTargetNode_peer {node peer : String}
    (peers : config.Peers node peer) : config.getTargetNode node none = .ok peer := by
  obtain ⟨link, first, nodes⟩ := peers
  obtain ⟨others, links⟩ : ∃ others, config.topology = link :: others := by
    cases topology : config.topology with
    | nil =>
      rw [topology] at first
      cases first
    | cons head tail =>
      rw [topology] at first
      exact ⟨tail, by rw [Option.some.inj first]⟩
  have found : config.getNodesOnLink none = .ok link.nodes := by
    simp [getNodesOnLink, links]
  have left : link.nodes.erase node = [peer] := by
    rcases nodes with nodes | nodes
    · simp [nodes]
    · by_cases same : peer = node <;> simp [nodes, same]
  have linked : node ∈ link.nodes ∧ link.nodes.length = 2 := by
    rcases nodes with nodes | nodes <;> simp [nodes]
  rw [getTargetNode_of_nodes found, if_pos linked, left]
  rfl

end TestConfig

end Ioppytest
