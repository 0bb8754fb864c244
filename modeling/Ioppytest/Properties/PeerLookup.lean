import Ioppytest.TestSuite.Topology

/-!
# Looking up the peer of a node

On a link of two nodes the target of a node is the other one, and its target is the node again. The
lookup works without a link id, where it takes the first link; a link id that is given ends it with
an error. It never changes the topology.
-/

namespace Ioppytest

open MutableLists Raising

/-- The link has these two nodes and no others. -/
def Link.Joins (link : Link) (node peer : String) : Prop :=
  node ≠ peer ∧ (link.nodes = [node, peer] ∨ link.nodes = [peer, node])

/-- The link has two distinct nodes. -/
def Link.IsPair (link : Link) : Prop := ∃ node peer, link.Joins node peer

namespace Link

variable {link other : Link} {node peer : String}

/-- A link joins both ways. -/
theorem Joins.symm (joins : link.Joins node peer) : link.Joins peer node :=
  ⟨joins.1.symm, joins.2.symm⟩

/-- The nodes of a link are the two that it joins. -/
theorem Joins.mem_iff (joins : link.Joins node peer) {another : String} :
    another ∈ link.nodes ↔ another = node ∨ another = peer := by
  rcases joins.2 with nodes | nodes
  · simp [nodes]
  · simp [nodes, or_comm]

/-- A node of a link of two has a peer. -/
theorem IsPair.exists_joins (pair : link.IsPair) (on : node ∈ link.nodes) :
    ∃ peer, link.Joins node peer := by
  obtain ⟨first, second, joins⟩ := pair
  rcases joins.mem_iff.mp on with rfl | rfl
  · exact ⟨second, joins⟩
  · exact ⟨first, joins.symm⟩

/-- Another link of two with the same nodes joins them, too. -/
theorem Joins.transfer (joins : link.Joins node peer) (pair : other.IsPair)
    (node_on : node ∈ other.nodes) (peer_on : peer ∈ other.nodes) : other.Joins node peer := by
  obtain ⟨another, others⟩ := pair.exists_joins node_on
  rcases others.mem_iff.mp peer_on with rfl | rfl
  · exact absurd rfl joins.1
  · exact others

end Link

namespace TestConfig

variable {config : TestConfig} {item : Link} {link : Option String} {node peer : String}

/-- The id of a link, which may be left out if it is the only one. -/
def Names (config : TestConfig) (link : Option String) (item : Link) : Prop :=
  link = some item.linkId ∨ link = none ∧ config.topology.length = 1

/-- No link is looked for, and the first one has the nodes of the given one. -/
def FallsBack (config : TestConfig) (link : Option String) (item : Link) : Prop :=
  link.filter (· ≠ "") = none ∧
    ∃ first ∈ config.topology.head?, ∀ node, node ∈ first.nodes ↔ node ∈ item.nodes

/-- The nodes on the first link, if no link is looked for. -/
theorem getNodesOnLink_first (unnamed : link.filter (· ≠ "") = none) {first : Link}
    (head : first ∈ config.topology.head?) : config.getNodesOnLink link = .ok first.nodes := by
  obtain ⟨others, links⟩ := List.head?_eq_some_iff.mp head
  rw [getNodesOnLink, unnamed, links]

/-- The target of a node of the first link. -/
theorem getTargetNode_first (unnamed : link.filter (· ≠ "") = none) {first : Link}
    (head : first ∈ config.topology.head?) (joins : first.Joins node peer) :
    config.getTargetNode node link = .ok peer := by
  have peers : config.Peers node peer := ⟨first, head, joins.2⟩
  rw [← getTargetNode_peer peers, getTargetNode, getTargetNode,
    getNodesOnLink_first unnamed head, getNodesOnLink_first rfl head]

/-- A link id that is looked for and found ends the lookup. -/
theorem getTargetNode_named (there : item ∈ config.topology) (named : config.Names link item)
    (given : link.filter (· ≠ "") ≠ none) (node : String) :
    config.getTargetNode node link = .error .typeError := by
  rcases named with rfl | ⟨rfl, -⟩
  · have nonempty : item.linkId ≠ "" := by
      rintro blank
      exact given (by simp [blank])
    have kept : (some item.linkId).filter (· ≠ "") = some item.linkId := by simp [nonempty]
    have found : (config.topology.any fun other => other.linkId == item.linkId) = true :=
      List.any_eq_true.mpr ⟨item, there, by simp⟩
    have refused : config.getNodesOnLink (some item.linkId) = .error .typeError := by
      rw [getNodesOnLink, kept]
      exact if_pos found
    rw [getTargetNode, refused]
    rfl
  · exact absurd rfl given

end TestConfig

namespace LinkObject

variable {objects : List LinkObject} {memory : Memory String} {config : TestConfig} {item : Link}
  {link : Option String} {node : String}

/-- The target of a node is the other node of the link, the target of that is the node again, and the
topology is as before. -/
def Involutive (objects : List LinkObject) (memory : Memory String) (topology : List Link)
    (item : Link) (link : Option String) (node : String) : Prop :=
  ∃ peer after later, (getTargetNode objects node link).run memory = .ok peer after ∧
    peer ∈ item.nodes ∧ peer ≠ node ∧
    (getTargetNode objects peer link).run after = .ok node later ∧
    Holds after objects topology ∧ Holds later objects topology

/-- A lookup that returns returns what the configuration says. -/
theorem getTargetNode_ok (holds : Holds memory objects config.topology) {peer : String}
    {after : Memory String} (run : (getTargetNode objects node link).run memory = .ok peer after) :
    config.getTargetNode node link = .ok peer := by
  obtain ⟨grown, -, same⟩ := getTargetNode_run holds node link
  rw [run] at same
  cases found : config.getTargetNode node link with
  | error exception =>
    rw [found] at same
    cases same
  | ok target =>
    rw [found] at same
    cases same
    rfl

/-- What the configuration says is returned, and the topology is as before. -/
theorem getTargetNode_returns (holds : Holds memory objects config.topology) {peer : String}
    (found : config.getTargetNode node link = .ok peer) :
    ∃ after, (getTargetNode objects node link).run memory = .ok peer after ∧
      Holds after objects config.topology := by
  obtain ⟨after, grown, run⟩ := getTargetNode_run holds node link
  rw [found] at run
  exact ⟨after, run, holds.grown grown⟩

/-- The lookup works only where it takes the first link, and that has the same nodes. -/
theorem Involutive.fallsBack (pairs : ∀ item ∈ config.topology, item.IsPair)
    (holds : Holds memory objects config.topology) (there : item ∈ config.topology)
    (named : config.Names link item) (on : node ∈ item.nodes)
    (involutive : Involutive objects memory config.topology item link node) :
    config.FallsBack link item := by
  obtain ⟨peer, after, later, run, peer_on, -⟩ := involutive
  have target := getTargetNode_ok holds run
  have unnamed : link.filter (· ≠ "") = none := by
    by_contra given
    rw [TestConfig.getTargetNode_named there named given] at target
    cases target
  obtain ⟨first, head⟩ : ∃ first, first ∈ config.topology.head? :=
    Option.isSome_iff_exists.mp (List.isSome_head?.mpr (List.ne_nil_of_mem there))
  have node_on : node ∈ first.nodes := by
    by_contra absent
    rw [TestConfig.getTargetNode_of_nodes (TestConfig.getNodesOnLink_first unnamed head),
      if_neg fun found => absent found.1] at target
    cases target
  obtain ⟨found, firstJoins⟩ := (pairs first (List.mem_of_mem_head? head)).exists_joins node_on
  obtain rfl : peer = found :=
    Except.ok.inj (target.symm.trans (TestConfig.getTargetNode_first unnamed head firstJoins))
  have joins := firstJoins.transfer (pairs item there) on peer_on
  exact ⟨unnamed, first, head, fun another => firstJoins.mem_iff.trans joins.mem_iff.symm⟩

/-- **Peer lookup is an involution exactly where no link is looked for**: without a link id, or with
an empty one if the first link has the same nodes. -/
theorem involutive_iff (config : TestConfig) (pairs : ∀ item ∈ config.topology, item.IsPair)
    (objects : List LinkObject) (memory : Memory String)
    (holds : Holds memory objects config.topology) (item : Link) (there : item ∈ config.topology)
    (link : Option String) (named : config.Names link item) (node : String)
    (on : node ∈ item.nodes) :
    Involutive objects memory config.topology item link node ↔ config.FallsBack link item := by
  constructor
  · exact Involutive.fallsBack pairs holds there named on
  · rintro ⟨unnamed, first, head, same⟩
    obtain ⟨peer, joins⟩ := (pairs item there).exists_joins on
    have firstJoins : first.Joins node peer := by
      have peer_on : peer ∈ item.nodes := joins.mem_iff.mpr (.inr rfl)
      exact joins.transfer (pairs first (List.mem_of_mem_head? head)) ((same _).mpr on)
        ((same _).mpr peer_on)
    obtain ⟨after, run, kept⟩ := getTargetNode_returns holds
      (TestConfig.getTargetNode_first unnamed head firstJoins)
    obtain ⟨later, back, still⟩ := getTargetNode_returns kept
      (TestConfig.getTargetNode_first unnamed head firstJoins.symm)
    exact ⟨peer, after, later, run, joins.mem_iff.mpr (.inr rfl), joins.1.symm, back, kept, still⟩

/-- The link between a client and a server. -/
def clientServer (linkId : String) : Link where
  linkId := linkId
  nodes := ["coap_client", "coap_server"]
  captureFilter := ""
  specialMode := none

/-- A client and a server are a pair. -/
theorem clientServer_pair (linkId : String) : (clientServer linkId).IsPair :=
  ⟨"coap_client", "coap_server", by decide, .inl rfl⟩

/-- A configuration with these links. -/
def configOf (topology : List Link) : TestConfig where
  id := "config"
  uri := ""
  nodes := ["coap_client", "coap_server"]
  topology := topology
  defaultAddressing := []
  nodesDescription := []

/-- The peer of a client, on the only link. -/
theorem involutive_only : Involutive [⟨"link_1", 0⟩] [["coap_client", "coap_server"]]
    [clientServer "link_1"] (clientServer "link_1") none "coap_client" :=
  (involutive_iff (configOf [clientServer "link_1"])
    (List.forall_mem_singleton.mpr (clientServer_pair "link_1"))
    [⟨"link_1", 0⟩] [["coap_client", "coap_server"]] (.cons ⟨rfl, rfl⟩ .nil)
    (clientServer "link_1") (List.mem_singleton_self _) none (.inr ⟨rfl, rfl⟩) "coap_client"
    (by decide)).mpr ⟨rfl, clientServer "link_1", rfl, fun _ => Iff.rfl⟩

/-- The id of the link is given, and the lookup raises. -/
theorem named_raises : ¬ Involutive [⟨"link_1", 0⟩] [["coap_client", "coap_server"]]
    [clientServer "link_1"] (clientServer "link_1") (some "link_1") "coap_client" := by
  rintro ⟨peer, after, later, run, -⟩
  cases run

end LinkObject

end Ioppytest
