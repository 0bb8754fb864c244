import Ioppytest.PacketRouter.Router

/-!
# What the router forwards

The topics that packets are forwarded to are never topics that packets come from, so nothing that
the router publishes comes back to it. In every sequence of packets and requests for dropping some,
what is published is made of the packets that are not dropped, each of them copied to every one of
its destinations, in the order of arrival. The message library gives the copies a timestamp of their
own.
-/

namespace Ioppytest

namespace PacketRouter

/-- A packet that the router publishes is not routed again, does not go back to the node that it
comes from, and stays on its kind of interface. -/
structure LoopFree (routingTable : RoutingTable) : Prop where
  /-- No destination is a source. -/
  unrouted : ∀ source listed, routingTable.get? source = some listed →
    ∀ topic ∈ listed, routingTable.get? topic = none
  /-- No node is a destination of its own packets, on any interface. -/
  unreflected : ∀ kind other i listed,
    routingTable.get? (Interface.fromTopic kind i) = some listed →
      Interface.toTopic other i ∉ listed
  /-- Every source is one of a node, and all its destinations are on the same interface. -/
  confined : ∀ source listed, routingTable.get? source = some listed →
    ∃ kind i, source = Interface.fromTopic kind i ∧
      ∀ topic ∈ listed, ∃ j, topic = Interface.toTopic kind j
  /-- What a router publishes along the table no router forwards along it. -/
  unrepeated : ∀ router later : PacketRouter, router.routingTable = routingTable →
    later.routingTable = routingTable → ∀ packet again copies,
      (router.onRequest (.packetSniffedRaw packet)).2 = .forwarded copies →
        again.routingKey ∈ copies.map Prod.fst →
          ∀ others, (later.onRequest (.packetSniffedRaw again)).2 ≠ .forwarded others

variable {routingTable : RoutingTable} {router : PacketRouter} {packet : SniffedPacket}

/-- The destinations of a node are topics of other nodes. -/
theorem mem_destinations {nodes : List String} {i topic : String} {kind : Interface} :
    topic ∈ destinations nodes i kind ↔ ∃ j ∈ nodes, j ≠ i ∧ topic = kind.toTopic j := by
  simp only [destinations, List.mem_map, List.mem_filter, decide_eq_true_eq, and_assoc, ne_eq,
    eq_comm (a := topic)]

/-- A packet is forwarded along its entry of the table. -/
theorem onRequest_forwarded {copies : List (String × PacketFields)}
    (forwarded : (router.onRequest (.packetSniffedRaw packet)).2 = .forwarded copies) :
    ∃ listed, router.routingTable.get? packet.routingKey = some listed ∧
      copies.map Prod.fst = listed := by
  simp only [onRequest] at forwarded
  split at forwarded
  · cases forwarded
  · unfold route at forwarded
    dsimp only at forwarded
    split at forwarded
    · rename_i listed _ found
      cases forwarded
      refine ⟨listed, found, ?_⟩
      rw [List.map_map]
      exact List.map_id _
    · cases forwarded

/-- A directed table leads nowhere but to topics of other nodes, which it has no entries for. -/
theorem Directed.loopFree (directed : Directed routingTable) : LoopFree routingTable := by
  have unrouted (source : String) (listed : List String)
      (found : routingTable.get? source = some listed) (topic : String) (member : topic ∈ listed) :
      routingTable.get? topic = none := by
    obtain ⟨kind, i, nodes, -, rfl⟩ := directed source listed found
    obtain ⟨j, -, -, rfl⟩ := mem_destinations.mp member
    cases entry : routingTable.get? (kind.toTopic j) with
    | none => rfl
    | some further =>
      obtain ⟨interface, node, _, same, -⟩ := directed _ further entry
      exact absurd same (Interface.toTopic_ne_fromTopic kind interface j node)
  refine ⟨unrouted, ?_, ?_, ?_⟩
  · intro kind other i listed found reflected
    obtain ⟨interface, node, nodes, same, rfl⟩ := directed _ listed found
    obtain ⟨rfl, rfl⟩ := Interface.fromTopic_inj.mp same
    obtain ⟨j, -, apart, topic⟩ := mem_destinations.mp reflected
    exact apart (Interface.toTopic_inj.mp topic).2.symm
  · intro source listed found
    obtain ⟨kind, i, nodes, rfl, rfl⟩ := directed source listed found
    refine ⟨kind, i, rfl, fun topic member => ?_⟩
    obtain ⟨j, -, -, same⟩ := mem_destinations.mp member
    exact ⟨j, same⟩
  · intro router later same also packet again copies forwarded published others repeated
    obtain ⟨listed, found, topics⟩ := onRequest_forwarded forwarded
    obtain ⟨further, routed, -⟩ := onRequest_forwarded repeated
    rw [same] at found
    rw [also, unrouted _ listed found _ (topics ▸ published)] at routed
    cases routed

/-- **The router neither loops nor reflects packets**, whatever the nodes are called. -/
theorem generated_loopFree (config : TestConfig) (routingTable : RoutingTable)
    (generated : generateRoutingTableFromTestConfiguration config = .ok routingTable) :
    LoopFree routingTable := by
  unfold generateRoutingTableFromTestConfiguration at generated
  split at generated
  · cases generated
  · cases generated
    exact (addLinks_directed config.topology directed_empty).loopFree

/-- The nodes of a chain. -/
theorem generated_loopFree_chain : LoopFree (chainConfig.topology.foldl addLink .empty) :=
  generated_loopFree chainConfig _ rfl

/-- What becomes of requests in the order of their arrival. -/
def outcomes (router : PacketRouter) : List RouterRequest → List RouterOutcome
  | [] => []
  | request :: rest => (router.onRequest request).2 :: outcomes (router.onRequest request).1 rest

/-- The message library: what a message carries that is constructed with some fields at a time. -/
abbrev Library : Type := Nat → PacketFields → PacketFields

/-- The library keeps the fields it is given, except that the timestamp of a message is the time at
which it was constructed. -/
def Library.Stamps (library : Library) : Prop :=
  ∀ now fields, library now fields = { fields with timestamp := some (toString now) }

/-- What a request leads to on the bus, at a time. -/
def messages (library : Library) (now : Nat) : RouterOutcome → List (String × PacketFields)
  | .forwarded copies => copies.map fun copy => (copy.1, library now copy.2)
  | .dropped | .ignored => []

/-- What the router publishes while it answers requests, the `n`th of them at the time that the clock
shows for it; the first one has the given number. -/
def published (library : Library) (clock : Nat → Nat) (router : PacketRouter) (first : Nat)
    (requests : List RouterRequest) : List (String × PacketFields) :=
  ((outcomes router requests).zipIdx first).flatMap fun (outcome, n) =>
    messages library (clock n) outcome

/-- A packet with all the fields that are forwarded. -/
def WellFormed (packet : SniffedPacket) : Prop :=
  packet.data.isSome = true ∧ packet.timestamp.isSome = true ∧ packet.interfaceName.isSome = true

/-- One copy of a packet for each destination that the table lists for its source. -/
def copies (routingTable : RoutingTable) (packet : SniffedPacket) :
    List (String × PacketFields) :=
  ((routingTable.get? packet.routingKey).getD []).map fun topic =>
    (topic, ⟨packet.data.join, packet.timestamp.join, packet.interfaceName.join⟩)

/-- The request starts a lossy link. -/
def StartsLoss : RouterRequest → Prop
  | .routingStartLossyLink _ => True
  | _ => False

/-- The request is a packet. -/
def isPacket : RouterRequest → Bool
  | .packetSniffedRaw _ => true
  | _ => false

/-- After these requests the next packet is one of the first `n` that arrive after the last request
to drop `n` packets. -/
def Drops (earlier : List RouterRequest) : Prop :=
  ∃ before n since, earlier = before ++ .routingStartLossyLink n :: since ∧
    (∀ request ∈ since, ¬ StartsLoss request) ∧ (since.countP isPacket : Int) < n

/-- How many packets are left to be dropped; a negative number counts those that were not. -/
def left (earlier : List RouterRequest) : Int :=
  earlier.foldl (fun left request =>
    match request with
    | .routingStartLossyLink n => n
    | .packetSniffedRaw _ => left - 1
    | .other => left) 0

/-- One request more. -/
theorem left_append (earlier : List RouterRequest) (request : RouterRequest) :
    left (earlier ++ [request]) =
      match request with
      | .routingStartLossyLink n => n
      | .packetSniffedRaw _ => left earlier - 1
      | .other => left earlier := by
  simp only [left, List.foldl_append, List.foldl_cons, List.foldl_nil]

/-- Without a further request each packet takes one away. -/
theorem left_since (earlier : List RouterRequest) {since : List RouterRequest}
    (same : ∀ request ∈ since, ¬ StartsLoss request) :
    left (earlier ++ since) = left earlier - since.countP isPacket := by
  induction since generalizing earlier with
  | nil => simp
  | cons request rest ih =>
    have later := ih (earlier ++ [request]) fun later member =>
      same later (List.mem_cons_of_mem _ member)
    rw [List.append_assoc, List.singleton_append, left_append] at later
    cases request with
    | packetSniffedRaw packet =>
      rw [later, List.countP_cons_of_pos (by rfl)]
      push_cast
      omega
    | routingStartLossyLink n => exact absurd trivial (same _ List.mem_cons_self)
    | other => rw [later, List.countP_cons_of_neg (by simp [isPacket])]

/-- Requests hold one to drop packets, the last of which is followed by others only, or none. -/
theorem last_loss (earlier : List RouterRequest) :
    (∀ request ∈ earlier, ¬ StartsLoss request) ∨
      ∃ before n since, earlier = before ++ .routingStartLossyLink n :: since ∧
        ∀ request ∈ since, ¬ StartsLoss request := by
  induction earlier with
  | nil => exact .inl (by simp)
  | cons request rest ih =>
    rcases ih with none | ⟨before, n, since, rfl, quiet⟩
    · cases request with
      | routingStartLossyLink n => exact .inr ⟨[], n, rest, rfl, none⟩
      | packetSniffedRaw packet =>
        exact .inl (List.forall_mem_cons.mpr ⟨fun wrong => wrong, none⟩)
      | other => exact .inl (List.forall_mem_cons.mpr ⟨fun wrong => wrong, none⟩)
    · exact .inr ⟨request :: before, n, since, rfl, quiet⟩

/-- The next packet is to be dropped exactly while some are left. -/
theorem drops_iff (earlier : List RouterRequest) : Drops earlier ↔ 0 < left earlier := by
  have counted (before : List RouterRequest) (n : Int) {since : List RouterRequest}
      (quiet : ∀ request ∈ since, ¬ StartsLoss request) :
      left (before ++ .routingStartLossyLink n :: since) = n - since.countP isPacket := by
    rw [← List.singleton_append, ← List.append_assoc, left_since _ quiet, left_append]
  constructor
  · rintro ⟨before, n, since, rfl, quiet, few⟩
    rw [counted before n quiet]
    omega
  · intro pending
    rcases last_loss earlier with none | ⟨before, n, since, rfl, quiet⟩
    · rw [← List.nil_append earlier, left_since [] none] at pending
      have nothing : left [] = 0 := rfl
      omega
    · rw [counted before n quiet] at pending
      exact ⟨before, n, since, rfl, quiet, by omega⟩

/-- Whether a packet is dropped is decided by counting. -/
instance : DecidablePred Drops := fun earlier => decidable_of_iff _ (drops_iff earlier).symm

/-- The packets of a sequence of requests, each with the requests before it. -/
def arrivals : List RouterRequest → List RouterRequest → List (List RouterRequest × SniffedPacket)
  | _, [] => []
  | earlier, .packetSniffedRaw packet :: rest =>
    (earlier, packet) :: arrivals (earlier ++ [.packetSniffedRaw packet]) rest
  | earlier, request :: rest => arrivals (earlier ++ [request]) rest

/-- The router follows how many packets are left to be dropped. -/
def Follows (router : PacketRouter) (earlier : List RouterRequest) : Prop :=
  max router.pendingNumberOfPacketsToDrop 0 = max (left earlier) 0

/-- One request. -/
theorem Follows.step {earlier : List RouterRequest} (follows : Follows router earlier)
    (request : RouterRequest) : Follows (router.onRequest request).1 (earlier ++ [request]) := by
  unfold Follows at follows ⊢
  rw [left_append]
  cases request with
  | packetSniffedRaw packet =>
    rw [onRequest_pending]
    dsimp only
    split <;> omega
  | routingStartLossyLink n => rfl
  | other => exact follows

/-- What becomes of a packet. -/
theorem Follows.dropped_iff {earlier : List RouterRequest} (follows : Follows router earlier)
    (packet : SniffedPacket) :
    (router.onRequest (.packetSniffedRaw packet)).2 = .dropped ↔ Drops earlier := by
  unfold Follows at follows
  rw [onRequest_dropped, drops_iff]
  omega

/-- What the library makes of the copies of a packet at a time. -/
def constructed (library : Library) (now : Nat) (routingTable : RoutingTable)
    (packet : SniffedPacket) : List (String × PacketFields) :=
  (copies routingTable packet).map fun copy => (copy.1, library now copy.2)

/-- A packet that is not dropped is copied to its destinations. -/
theorem onRequest_messages (library : Library) (now : Nat) (wellFormed : WellFormed packet)
    (spared : (router.onRequest (.packetSniffedRaw packet)).2 ≠ .dropped) :
    messages library now (router.onRequest (.packetSniffedRaw packet)).2 =
      constructed library now router.routingTable packet := by
  have done : ¬ router.pendingNumberOfPacketsToDrop > 0 := fun pending =>
    spared (onRequest_dropped.mpr pending)
  obtain ⟨data, timestamp, interfaceName⟩ := wellFormed
  obtain ⟨data, given⟩ := Option.isSome_iff_exists.mp data
  obtain ⟨timestamp, at_time⟩ := Option.isSome_iff_exists.mp timestamp
  obtain ⟨interfaceName, there⟩ := Option.isSome_iff_exists.mp interfaceName
  have fields : msgToSend packet = some ⟨data, timestamp, interfaceName⟩ := by
    simp [msgToSend, given, at_time, there]
  simp only [onRequest, if_neg done, route, fields, constructed, copies, given, at_time, there,
    Option.join_some]
  cases router.routingTable.get? packet.routingKey <;> rfl

/-- The table stays the same. -/
theorem onRequest_routingTable (request : RouterRequest) :
    (router.onRequest request).1.routingTable = router.routingTable := by
  cases request with
  | packetSniffedRaw packet =>
    simp only [onRequest]
    split <;> rfl
  | routingStartLossyLink n => rfl
  | other => rfl

/-- What is published from some point of a sequence of requests on. -/
theorem published_from {earlier requests : List RouterRequest} (library : Library)
    (clock : Nat → Nat) (follows : Follows router earlier)
    (wellFormed : ∀ packet, .packetSniffedRaw packet ∈ requests → WellFormed packet) :
    published library clock router earlier.length requests =
      ((arrivals earlier requests).filter fun arrival => ¬ Drops arrival.1).flatMap fun arrival =>
        constructed library (clock arrival.1.length) router.routingTable arrival.2 := by
  induction requests generalizing router earlier with
  | nil => rfl
  | cons request rest ih =>
    have later := ih (follows.step request) fun packet member =>
      wellFormed packet (List.mem_cons_of_mem _ member)
    rw [onRequest_routingTable, List.length_append, List.length_singleton] at later
    have split : published library clock router earlier.length (request :: rest) =
        messages library (clock earlier.length) (router.onRequest request).2 ++
          published library clock (router.onRequest request).1 (earlier.length + 1) rest := by
      simp only [published, outcomes, List.zipIdx_cons, List.flatMap_cons]
    rw [split, later]
    cases request with
    | packetSniffedRaw packet =>
      by_cases drops : Drops earlier
      · have dropped := (follows.dropped_iff packet).mpr drops
        rw [dropped, arrivals, List.filter_cons_of_neg (by simpa using drops)]
        rfl
      · have spared : (router.onRequest (.packetSniffedRaw packet)).2 ≠ .dropped := fun dropped =>
          drops ((follows.dropped_iff packet).mp dropped)
        rw [onRequest_messages _ _ (wellFormed packet List.mem_cons_self) spared, arrivals,
          List.filter_cons_of_pos (by simpa using drops), List.flatMap_cons]
    | routingStartLossyLink n => rfl
    | other => rfl

/-- What becomes of each packet of a sequence of requests. -/
theorem outcomes_from {earlier before : List RouterRequest} (follows : Follows router earlier)
    (packet : SniffedPacket) (after : List RouterRequest) :
    (outcomes router (before ++ .packetSniffedRaw packet :: after))[before.length]? =
      some .dropped ↔ Drops (earlier ++ before) := by
  induction before generalizing router earlier with
  | nil =>
    rw [List.append_nil, ← follows.dropped_iff packet]
    exact Option.some_inj
  | cons request rest ih =>
    have later := ih (follows.step request)
    rw [List.append_assoc, List.singleton_append] at later
    exact later

/-- The packets that are not dropped, each with the requests before it. -/
def spared (requests : List RouterRequest) : List (List RouterRequest × SniffedPacket) :=
  (arrivals [] requests).filter fun arrival => ¬ Drops arrival.1

/-- Exactly the first packets after each request to drop some are dropped, as many as it asks for. -/
def Drained (routingTable : RoutingTable) (requests : List RouterRequest) : Prop :=
  ∀ before packet after, requests = before ++ .packetSniffedRaw packet :: after →
    ((outcomes { routingTable } requests)[before.length]? = some .dropped ↔ Drops before)

/-- Packets are conserved: what is published is made of the packets that are not dropped, in the order
of arrival, one copy for each destination. -/
def Conserved (library : Library) (clock : Nat → Nat) (routingTable : RoutingTable)
    (requests : List RouterRequest) : Prop :=
  published library clock { routingTable } 0 requests =
      (spared requests).flatMap (fun arrival => copies routingTable arrival.2) ∧
    Drained routingTable requests

/-- Every packet that is forwarded was sniffed in the second in which its copies are constructed. -/
def Instant (clock : Nat → Nat) (routingTable : RoutingTable) (requests : List RouterRequest) :
    Prop :=
  ∀ arrival ∈ spared requests, (routingTable.get? arrival.2.routingKey).getD [] ≠ [] →
    arrival.2.timestamp.join = some (toString (clock arrival.1.length))

/-- Whether copies are instant is decided packet by packet. -/
instance (clock : Nat → Nat) (routingTable : RoutingTable) (requests : List RouterRequest) :
    Decidable (Instant clock routingTable requests) :=
  inferInstanceAs (Decidable (∀ arrival ∈ spared requests, _ ≠ _ → _ = _))

/-- Joined blocks of the same lengths are equal if each of them is. -/
theorem flatMap_eq_flatMap_iff {α β : Type} {one other : α → List β} {items : List α}
    (lengths : ∀ item, (one item).length = (other item).length) :
    items.flatMap one = items.flatMap other ↔ ∀ item ∈ items, one item = other item := by
  induction items with
  | nil => simp
  | cons item rest ih =>
    rw [List.flatMap_cons, List.flatMap_cons, List.forall_mem_cons, ← ih]
    constructor
    · exact fun joined => List.append_inj joined (lengths item)
    · rintro ⟨here, later⟩
      rw [here, later]

/-- Stamping the copies of a packet changes them unless it has the timestamp already. -/
theorem constructed_eq_copies {library : Library} (stamps : library.Stamps) (now : Nat)
    (routingTable : RoutingTable) (packet : SniffedPacket) :
    constructed library now routingTable packet = copies routingTable packet ↔
      ((routingTable.get? packet.routingKey).getD [] ≠ [] →
        packet.timestamp.join = some (toString now)) := by
  unfold constructed copies
  cases (routingTable.get? packet.routingKey).getD [] with
  | nil => simp
  | cons topic rest =>
    simp only [List.map_cons, List.map_map, stamps _ _, List.cons.injEq, Prod.mk.injEq,
      PacketFields.mk.injEq, true_and, and_true, ne_eq, reduceCtorEq, not_false_eq_true,
      forall_const]
    constructor
    · exact fun same => same.1.symm
    · intro same
      rw [same]
      exact ⟨rfl, rfl⟩

/-- **Packets are conserved exactly if they are forwarded at once.** In every case the right packets
are dropped, and the others are published in the order of arrival, one copy for each destination with
their data and interface: only the timestamps are those of the construction. -/
theorem packets_conserved_iff (library : Library) (clock : Nat → Nat) (routingTable : RoutingTable)
    (requests : List RouterRequest) (stamps : library.Stamps)
    (wellFormed : ∀ packet, .packetSniffedRaw packet ∈ requests → WellFormed packet) :
    (Conserved library clock routingTable requests ↔ Instant clock routingTable requests) ∧
    Drained routingTable requests ∧
    published library clock { routingTable } 0 requests =
      (spared requests).flatMap fun arrival => (copies routingTable arrival.2).map fun copy =>
        (copy.1, { copy.2 with timestamp := some (toString (clock arrival.1.length)) }) := by
  have follows : Follows { routingTable } [] := rfl
  have drained : Drained routingTable requests := by
    rintro before packet after rfl
    exact outcomes_from follows packet after
  have bus : published library clock { routingTable } 0 requests =
      (spared requests).flatMap fun arrival =>
        constructed library (clock arrival.1.length) routingTable arrival.2 :=
    published_from library clock follows wellFormed
  refine ⟨?_, drained, ?_⟩
  · rw [Conserved, and_iff_left drained, bus, flatMap_eq_flatMap_iff]
    · exact forall₂_congr fun arrival _ => constructed_eq_copies stamps _ _ _
    · exact fun arrival => by rw [constructed, List.length_map]
  · simp only [bus, constructed, stamps _ _]

/-- The chain's table. -/
def chainTable : RoutingTable := chainConfig.topology.foldl addLink .empty

/-- A packet of the client. -/
def clientPacket : SniffedPacket :=
  ⟨"fromAgent.coap_client.ip.tun.packet.raw", some (some "00"), some (some "0"), some (some "tun0")⟩

/-- A library that stamps messages. -/
def stamping : Library := fun now fields => { fields with timestamp := some (toString now) }

/-- It stamps a packet with the time of its creation. -/
theorem stamping_stamps : stamping.Stamps := fun _ _ => rfl

/-- One of two packets is dropped, and the other one forwarded at once. -/
theorem packets_conserved_two : Conserved stamping (fun _ => 0) chainTable
    [.routingStartLossyLink 1, .packetSniffedRaw clientPacket, .packetSniffedRaw clientPacket] := by
  have wellFormed : ∀ packet, .packetSniffedRaw packet ∈ [RouterRequest.routingStartLossyLink 1,
      .packetSniffedRaw clientPacket, .packetSniffedRaw clientPacket] → WellFormed packet := by
    simp [WellFormed, clientPacket]
  rw [(packets_conserved_iff _ _ _ _ stamping_stamps wellFormed).1]
  decide +kernel

/-- A packet that is forwarded one second later gets another timestamp. -/
theorem packet_restamped :
    stamping.Stamps ∧ WellFormed clientPacket ∧
      ¬ Conserved stamping (fun _ => 1) chainTable [.packetSniffedRaw clientPacket] := by
  refine ⟨stamping_stamps, ⟨rfl, rfl, rfl⟩, ?_⟩
  rintro ⟨same, -⟩
  exact absurd same (by decide +kernel)

end PacketRouter

end Ioppytest
