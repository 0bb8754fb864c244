import Ioppytest.TestSuite.TestConfig
import Ioppytest.Lib.OrderedDict
import Mathlib.Data.List.Basic

/-!
# The routing table

`packet_router.generate_routing_table_from_test_configuration`: the topics that a packet is
forwarded to, by the topic that it comes from. The routes of a link replace those of the links before
it, so a node that appears on several links keeps the routes of the last one. The table is right
exactly when the last link has all the nodes.
-/

namespace Ioppytest

namespace PacketRouter

/-- The interfaces of an agent that packets come from. -/
inductive Interface where
  | serialV0
  | serialV1
  | tun
  deriving DecidableEq

namespace Interface

/-- The interfaces in the order in which their routes are added. -/
def all : List Interface := [.serialV0, .serialV1, .tun]

/-- The texts before and after the node in `table_entry_from_*`. -/
def fromAffixes : Interface → String × String
  | .serialV0 => ("data.serial.fromAgent.", "")
  | .serialV1 => ("fromAgent.", ".802154.serial.packet.raw")
  | .tun => ("fromAgent.", ".ip.tun.packet.raw")

/-- The texts before and after the node in `table_entry_to_*`. -/
def toAffixes : Interface → String × String
  | .serialV0 => ("data.serial.toAgent.", "")
  | .serialV1 => ("toAgent.", ".802154.serial.packet.raw")
  | .tun => ("toAgent.", ".ip.tun.packet.raw")

/-- `table_entry_from_*`, formatted. -/
def fromTopic (kind : Interface) (node : String) : String :=
  kind.fromAffixes.1 ++ node ++ kind.fromAffixes.2

/-- `table_entry_to_*`, formatted. -/
def toTopic (kind : Interface) (node : String) : String :=
  kind.toAffixes.1 ++ node ++ kind.toAffixes.2

/-- The interface that a topic of a source is about. -/
def ofTopic (topic : String) : Interface :=
  if topic.toList.head? = some 'd' then .serialV0
  else if topic.toList.reverse[11]? = some 'l' then .serialV1 else .tun

/-- The letter at a place in the text before the node is the one of the topic. -/
theorem letter_append {front : String} {k : Nat} (inside : k < front.toList.length)
    (node back : String) : (front ++ node ++ back).toList[k]? = front.toList[k]? := by
  rw [String.toList_append, String.toList_append, List.append_assoc,
    List.getElem?_append_left inside]

/-- The interface of a topic whose text after the node, if it has one, ends in `.packet.raw`. -/
theorem ofTopic_append {front back : String} (begins : 0 < front.toList.length)
    (ends : front.toList.head? = some 'd' ∨ 11 < back.toList.reverse.length) (node : String) :
    ofTopic (front ++ node ++ back) =
      if front.toList.head? = some 'd' then .serialV0
      else if back.toList.reverse[11]? = some 'l' then .serialV1 else .tun := by
  have first : (front ++ node ++ back).toList.head? = front.toList.head? := by
    rw [List.head?_eq_getElem?, List.head?_eq_getElem?, letter_append begins]
  rw [ofTopic, first]
  by_cases legacy : front.toList.head? = some 'd'
  · rw [if_pos legacy, if_pos legacy]
  · -- The letter before `.packet.raw` tells the two interfaces with a suffix apart.
    have last : (front ++ node ++ back).toList.reverse[11]? = back.toList.reverse[11]? := by
      rw [String.toList_append, List.reverse_append,
        List.getElem?_append_left (ends.resolve_left legacy)]
    rw [if_neg legacy, if_neg legacy, last]

/-- The kind of the interface that a topic comes from. -/
theorem ofTopic_fromTopic (kind : Interface) (node : String) :
    ofTopic (kind.fromTopic node) = kind := by
  cases kind with
  | serialV0 => exact ofTopic_append (by decide +kernel) (.inl (by decide +kernel)) node
  | serialV1 => exact ofTopic_append (by decide +kernel) (.inr (by decide +kernel)) node
  | tun => exact ofTopic_append (by decide +kernel) (.inr (by decide +kernel)) node

/-- The kind of the interface that a topic goes to. -/
theorem ofTopic_toTopic (kind : Interface) (node : String) :
    ofTopic (kind.toTopic node) = kind := by
  cases kind with
  | serialV0 => exact ofTopic_append (by decide +kernel) (.inl (by decide +kernel)) node
  | serialV1 => exact ofTopic_append (by decide +kernel) (.inr (by decide +kernel)) node
  | tun => exact ofTopic_append (by decide +kernel) (.inr (by decide +kernel)) node

/-- A topic of a source tells its interface and its node. -/
theorem fromTopic_inj {node other : String} {kind interface : Interface} :
    kind.fromTopic node = interface.fromTopic other ↔ kind = interface ∧ node = other := by
  constructor
  · intro same
    have kinds : kind = interface := by
      rw [← ofTopic_fromTopic kind node, same, ofTopic_fromTopic]
    subst kinds
    refine ⟨rfl, ?_⟩
    rw [← String.toList_inj] at same ⊢
    simpa only [fromTopic, String.toList_append, List.append_cancel_right_eq,
      List.append_cancel_left_eq] using same
  · rintro ⟨rfl, rfl⟩
    rfl

/-- No topic of a destination is one of a source. -/
theorem toTopic_ne_fromTopic (kind interface : Interface) (node other : String) :
    kind.toTopic node ≠ interface.fromTopic other := by
  intro same
  have kinds : kind = interface := by
    rw [← ofTopic_toTopic kind node, same, ofTopic_fromTopic]
  subst kinds
  -- `toAgent` and `fromAgent` differ in their first letters.
  have letter (k : Nat) (ahead : k < kind.toAffixes.1.toList.length)
      (behind : k < kind.fromAffixes.1.toList.length) :
      kind.toAffixes.1.toList[k]? = kind.fromAffixes.1.toList[k]? := by
    rw [← letter_append ahead node kind.toAffixes.2,
      ← letter_append behind other kind.fromAffixes.2]
    exact congrArg (fun topic => topic.toList[k]?) same
  cases kind with
  | serialV0 => exact absurd (letter 12 (by decide +kernel) (by decide +kernel)) (by decide +kernel)
  | serialV1 | tun =>
    exact absurd (letter 0 (by decide +kernel) (by decide +kernel)) (by decide +kernel)

/-- A topic of a destination tells its interface and its node. -/
theorem toTopic_inj {node other : String} {kind interface : Interface} :
    kind.toTopic node = interface.toTopic other ↔ kind = interface ∧ node = other := by
  constructor
  · intro same
    have kinds : kind = interface := by
      rw [← ofTopic_toTopic kind node, same, ofTopic_toTopic]
    subst kinds
    refine ⟨rfl, ?_⟩
    rw [← String.toList_inj] at same ⊢
    simpa only [toTopic, String.toList_append, List.append_cancel_right_eq,
      List.append_cancel_left_eq] using same
  · rintro ⟨rfl, rfl⟩
    rfl

end Interface

/-- A routing table: the destinations of each source, in order. -/
abbrev RoutingTable : Type := OrderedDict String (List String)

/-- The agent that every packet is forwarded to as well. -/
def agentTt : String := "agent_TT"

/-- The destinations of packets from a node of a link. -/
def destinations (nodes : List String) (i : String) (kind : Interface) : List String :=
  (nodes.filter (· ≠ i)).map kind.toTopic

/-- The body of the loop over the nodes of a link: its routes so far, and the table that is updated
with them. -/
def addNode (nodes : List String) (tables : RoutingTable × RoutingTable) (i : String) :
    RoutingTable × RoutingTable :=
  let linkRoutes := Interface.all.foldl
    (fun routes kind => routes.insert (kind.fromTopic i) (destinations nodes i kind)) tables.1
  (linkRoutes, tables.2.update linkRoutes)

/-- The nodes of a link, the agent of the testing tool included. -/
def connected (link : Link) : List String := link.nodes ++ [agentTt]

/-- The body of the loop over the links. -/
def addLink (routingTable : RoutingTable) (link : Link) : RoutingTable :=
  ((connected link).foldl (addNode (connected link)) (.empty, routingTable)).2

/-- `generate_routing_table_from_test_configuration`. -/
def generateRoutingTableFromTestConfiguration (config : TestConfig) :
    Except PyException RoutingTable :=
  if config.nodes.length < 2 then .error .assertionError
  else .ok (config.topology.foldl addLink .empty)

section Routes

variable {nodes : List String} {tables : RoutingTable × RoutingTable} {i : String}

/-- The routes of a link after one more node. -/
theorem addNode_routes (nodes : List String) (tables : RoutingTable × RoutingTable)
    (i j : String) (kind : Interface) :
    (addNode nodes tables i).1.get? (kind.fromTopic j) =
      if j = i then some (destinations nodes i kind) else tables.1.get? (kind.fromTopic j) := by
  simp only [addNode, Interface.all, List.foldl_cons, List.foldl_nil, OrderedDict.get?_insert,
    Interface.fromTopic_inj]
  by_cases same : j = i
  · cases kind <;> simp [same]
  · simp [same]

/-- The table after one more node. -/
theorem addNode_table (nodes : List String) (tables : RoutingTable × RoutingTable) (i : String)
    (topic : String) :
    (addNode nodes tables i).2.get? topic =
      ((addNode nodes tables i).1.get? topic).or (tables.2.get? topic) :=
  OrderedDict.get?_update _ _ _

/-- The nodes of a link get their routes in the table, if the table has the routes of the link so
far. -/
theorem addNodes_table (rest : List String)
    (known : ∀ topic, (tables.1.get? topic).or (tables.2.get? topic) = tables.2.get? topic)
    (j : String) (kind : Interface) :
    (rest.foldl (addNode nodes) tables).2.get? (kind.fromTopic j) =
      if j ∈ rest then some (destinations nodes j kind) else tables.2.get? (kind.fromTopic j) := by
  induction rest generalizing tables with
  | nil => rfl
  | cons i rest ih =>
    have kept (topic : String) : ((addNode nodes tables i).1.get? topic).or
        ((addNode nodes tables i).2.get? topic) = (addNode nodes tables i).2.get? topic := by
      rw [addNode_table]
      cases (addNode nodes tables i).1.get? topic <;> rfl
    rw [List.foldl_cons, ih kept, addNode_table, addNode_routes]
    by_cases here : j = i
    · subst here
      simp
    · simp [here, known]

/-- The routes of a link replace those that its nodes had before. -/
theorem addLink_table (routingTable : RoutingTable) (link : Link) (j : String) (kind : Interface) :
    (addLink routingTable link).get? (kind.fromTopic j) =
      if j ∈ connected link then some (destinations (connected link) j kind)
      else routingTable.get? (kind.fromTopic j) :=
  addNodes_table (connected link) (fun _ => rfl) j kind

/-- A node has the routes of the last link that it is on. -/
theorem addLinks_table (links : List Link) (routingTable : RoutingTable) (j : String)
    (kind : Interface) :
    (links.foldl addLink routingTable).get? (kind.fromTopic j) =
      ((links.reverse.find? fun link => j ∈ connected link).map fun link =>
        destinations (connected link) j kind).or (routingTable.get? (kind.fromTopic j)) := by
  induction links generalizing routingTable with
  | nil => rfl
  | cons link rest ih =>
    rw [List.foldl_cons, ih, addLink_table, List.reverse_cons, List.find?_append]
    cases rest.reverse.find? fun link => decide (j ∈ connected link) with
    | some later => simp
    | none => by_cases here : j ∈ connected link <;> simp [here]

end Routes

/-- Every entry is about a node and an interface of it, and leads to other nodes on that
interface. -/
def Directed (routingTable : RoutingTable) : Prop :=
  ∀ topic listed, routingTable.get? topic = some listed →
    ∃ kind i nodes, topic = Interface.fromTopic kind i ∧ listed = destinations nodes i kind

section Directed

variable {nodes : List String} {i : String}

/-- An empty table is directed. -/
theorem directed_empty : Directed .empty := by
  intro topic listed found
  cases found

/-- The routes of a link after one more node. -/
theorem addNode_directed {tables : RoutingTable × RoutingTable}
    (directed : Directed tables.1 ∧ Directed tables.2) :
    Directed (addNode nodes tables i).1 ∧ Directed (addNode nodes tables i).2 := by
  have routes : Directed (addNode nodes tables i).1 := by
    intro topic listed found
    simp only [addNode, Interface.all, List.foldl_cons, List.foldl_nil,
      OrderedDict.get?_insert] at found
    split at found
    · rename_i here
      exact ⟨.tun, i, nodes, here, (Option.some.inj found).symm⟩
    split at found
    · rename_i here
      exact ⟨.serialV1, i, nodes, here, (Option.some.inj found).symm⟩
    split at found
    · rename_i here
      exact ⟨.serialV0, i, nodes, here, (Option.some.inj found).symm⟩
    · exact directed.1 topic listed found
  refine ⟨routes, fun topic listed found => ?_⟩
  rw [addNode_table] at found
  rcases Option.or_eq_some_iff.mp found with added | ⟨-, earlier⟩
  · exact routes topic listed added
  · exact directed.2 topic listed earlier

/-- Whatever links are added, every entry is about a node. -/
theorem addLinks_directed (links : List Link) {routingTable : RoutingTable}
    (directed : Directed routingTable) : Directed (links.foldl addLink routingTable) := by
  have nodes_directed (nodes rest : List String) {tables : RoutingTable × RoutingTable}
      (directed : Directed tables.1 ∧ Directed tables.2) :
      Directed (rest.foldl (addNode nodes) tables).1 ∧
        Directed (rest.foldl (addNode nodes) tables).2 := by
    induction rest generalizing tables with
    | nil => exact directed
    | cons i rest ih => exact ih (addNode_directed directed)
  induction links generalizing routingTable with
  | nil => exact directed
  | cons link rest ih =>
    exact ih (nodes_directed (connected link) (connected link) ⟨directed_empty, directed⟩).2

end Directed

/-- The nodes share a link. -/
def Shares (config : TestConfig) (i j : String) : Prop :=
  ∃ link ∈ config.topology, i ∈ connected link ∧ j ∈ connected link

/-- Packets of a node go to exactly the other nodes that it shares a link with, on every
interface. -/
def RoutesCorrectly (config : TestConfig) (routingTable : RoutingTable) : Prop :=
  ∀ kind i topic, topic ∈ (routingTable.get? (Interface.fromTopic kind i)).getD [] ↔
    ∃ j, j ≠ i ∧ Shares config i j ∧ topic = kind.toTopic j

/-- The last link has every node. -/
def LastHasAll (config : TestConfig) : Prop :=
  ∀ last ∈ config.topology.getLast?, ∀ link ∈ config.topology, ∀ node ∈ link.nodes,
    node ≠ agentTt → node ∈ last.nodes

variable {config : TestConfig} {last : Link} {i : String}

/-- A node that is on the last link has its routes. -/
theorem routes_last (kind : Interface) (ends : config.topology.getLast? = some last)
    (here : i ∈ connected last) :
    (config.topology.foldl addLink .empty).get? (kind.fromTopic i) =
      some (destinations (connected last) i kind) := by
  obtain ⟨earlier, split⟩ := List.getLast?_eq_some_iff.mp ends
  rw [addLinks_table, split, List.reverse_append]
  simp [here]

/-- The destinations of a node are nodes that it shares a link with. -/
theorem routes_shared {kind : Interface} {topic : String}
    (routed : topic ∈ ((config.topology.foldl addLink .empty).get? (kind.fromTopic i)).getD []) :
    ∃ j, j ≠ i ∧ Shares config i j ∧ topic = kind.toTopic j := by
  rw [addLinks_table, OrderedDict.get?_empty, Option.or_none] at routed
  cases found : config.topology.reverse.find? fun link => decide (i ∈ connected link) with
  | none =>
    rw [found] at routed
    cases routed
  | some link =>
    rw [found] at routed
    obtain ⟨j, inside, rfl⟩ := List.mem_map.mp routed
    obtain ⟨there, apart⟩ := List.mem_filter.mp inside
    have here : i ∈ connected link := by simpa using List.find?_some found
    have member : link ∈ config.topology := List.mem_reverse.mp (List.mem_of_find?_eq_some found)
    exact ⟨j, of_decide_eq_true apart, ⟨link, member, here, there⟩, rfl⟩

/-- A last link that has every node has whatever is on a link. -/
theorem LastHasAll.covers {link : Link} {node : String} (covered : LastHasAll config)
    (ends : config.topology.getLast? = some last) (member : link ∈ config.topology)
    (there : node ∈ connected link) : node ∈ connected last := by
  by_cases agent : node = agentTt
  · rw [agent]
    exact List.mem_append_right _ (List.mem_singleton.mpr rfl)
  · have inside : node ∈ link.nodes :=
      (List.mem_append.mp there).resolve_right fun wrong => agent (List.mem_singleton.mp wrong)
    exact List.mem_append_left _ (covered last ends link member node inside agent)

/-- **The routing table is right exactly for configurations of at least two nodes whose last link
has every node.** -/
theorem routes_iff (config : TestConfig) :
    (∃ routingTable, generateRoutingTableFromTestConfiguration config = .ok routingTable ∧
      RoutesCorrectly config routingTable) ↔ 2 ≤ config.nodes.length ∧ LastHasAll config := by
  unfold generateRoutingTableFromTestConfiguration
  by_cases few : config.nodes.length < 2
  · rw [if_pos few]
    constructor
    · rintro ⟨_, wrong, -⟩
      cases wrong
    · rintro ⟨enough, -⟩
      omega
  rw [if_neg few]
  constructor
  · rintro ⟨routingTable, generated, correct⟩
    cases generated
    refine ⟨Nat.le_of_not_lt few, fun last ends link member node inside apart => ?_⟩
    -- The agent of the testing tool is on every link, so it has the routes of the last one.
    have agent (link : Link) : agentTt ∈ connected link :=
      List.mem_append_right _ (List.mem_singleton.mpr rfl)
    have shared : Shares config agentTt node :=
      ⟨link, member, agent link, List.mem_append_left _ inside⟩
    have routed := (correct .tun agentTt (Interface.toTopic .tun node)).mpr
      ⟨node, apart, shared, rfl⟩
    rw [routes_last .tun ends (agent last)] at routed
    obtain ⟨j, kept, same⟩ := List.mem_map.mp routed
    obtain rfl : j = node := (Interface.toTopic_inj.mp same).2
    exact (List.mem_append.mp (List.mem_filter.mp kept).1).resolve_right
      fun wrong => apart (List.mem_singleton.mp wrong)
  · rintro ⟨-, covered⟩
    refine ⟨_, rfl, fun kind i topic => ⟨routes_shared, ?_⟩⟩
    rintro ⟨j, apart, ⟨link, member, here, there⟩, rfl⟩
    obtain ⟨last, ends⟩ := Option.isSome_iff_exists.mp
      (List.getLast?_isSome.mpr (List.ne_nil_of_mem member))
    rw [routes_last kind ends (covered.covers ends member here)]
    exact List.mem_map_of_mem (List.mem_filter.mpr
      ⟨covered.covers ends member there, decide_eq_true apart⟩)

/-- Three nodes on two links. -/
def chainConfig : TestConfig where
  id := "COAP_CFG_CHAIN"
  uri := ""
  nodes := ["coap_client", "coap_proxy", "coap_server"]
  topology := [⟨"link_01", ["coap_client", "coap_proxy"], "udp", none⟩,
    ⟨"link_02", ["coap_proxy", "coap_server"], "udp", none⟩]
  defaultAddressing := []
  nodesDescription := []

/-- Packets of the proxy in the middle of a chain do not reach the client any more. -/
theorem chain_misrouted : ¬ ∃ routingTable,
    generateRoutingTableFromTestConfiguration chainConfig = .ok routingTable ∧
      RoutesCorrectly chainConfig routingTable := by
  rintro ⟨routingTable, generated, correct⟩
  rw [generateRoutingTableFromTestConfiguration, if_neg (by decide)] at generated
  obtain rfl := Except.ok.inj generated
  have shared : Shares chainConfig "coap_proxy" "coap_client" :=
    ⟨_, List.mem_cons_self, by decide +kernel, by decide +kernel⟩
  have routed := (correct .tun "coap_proxy" (Interface.toTopic .tun "coap_client")).mpr
    ⟨_, by decide +kernel, shared, rfl⟩
  exact absurd routed (by decide +kernel)

end PacketRouter

end Ioppytest
