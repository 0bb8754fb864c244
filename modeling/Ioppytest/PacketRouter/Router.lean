import Ioppytest.PacketRouter.RoutingTable
import Ioppytest.Lib.PyString

/-!
# The packet router

`packet_router.PacketRouter`: packets that agents have sniffed are forwarded along the routing
table. A request to start a lossy link sets how many of the next packets are dropped instead,
whatever is left of an earlier one; nothing else changes that number but the packets themselves. What
the message library makes of the fields of a message is not part of the router.
-/

namespace Ioppytest

open PyString

/-- `MsgPacketSniffedRaw`; reading an attribute that it does not have raises. -/
structure SniffedPacket where
  /-- `routing_key`. -/
  routingKey : String
  data : Attribute
  timestamp : Attribute
  interfaceName : Attribute
  deriving DecidableEq

/-- The fields that a `MsgPacketInjectRaw` is constructed with, and those that it carries. -/
structure PacketFields where
  data : Option String
  timestamp : Option String
  interfaceName : Option String
  deriving DecidableEq

/-- What the router receives. -/
inductive RouterRequest where
  /-- A packet from an agent. -/
  | packetSniffedRaw (packet : SniffedPacket)
  /-- A request to drop the next packets. -/
  | routingStartLossyLink (numberOfPacketsToDrop : Int)
  /-- Any other message, also one that cannot be loaded. -/
  | other
  deriving DecidableEq

/-- What becomes of a request. -/
inductive RouterOutcome where
  /-- The packet is dropped. -/
  | dropped
  /-- A message is constructed and published to the topics of the destinations. -/
  | forwarded (copies : List (String × PacketFields))
  /-- Nothing is published. -/
  | ignored
  deriving DecidableEq

/-- `packet_router.PacketRouter`. -/
structure PacketRouter where
  /-- `routing_table`. -/
  routingTable : PacketRouter.RoutingTable
  /-- `message_count`. -/
  messageCount : Nat := 0
  /-- `pending_number_of_packets_to_drop`. -/
  pendingNumberOfPacketsToDrop : Int := 0

namespace PacketRouter

/-- What the message to send is constructed with; nothing if a field is missing. -/
def msgToSend (packet : SniffedPacket) : Option PacketFields := do
  let data ← packet.data
  let timestamp ← packet.timestamp
  let interfaceName ← packet.interfaceName
  return ⟨data, timestamp, interfaceName⟩

/-- Forward a packet along the routing table. -/
def route (router : PacketRouter) (packet : SniffedPacket) : RouterOutcome :=
  match msgToSend packet, router.routingTable.get? packet.routingKey with
  | some fields, some destinations => .forwarded (destinations.map (·, fields))
  | _, _ => .ignored

/-- `_on_request`. -/
def onRequest (router : PacketRouter) : RouterRequest → PacketRouter × RouterOutcome
  | .packetSniffedRaw packet =>
    let counted := { router with messageCount := router.messageCount + 1 }
    if router.pendingNumberOfPacketsToDrop > 0 then
      ({ counted with
        pendingNumberOfPacketsToDrop := router.pendingNumberOfPacketsToDrop - 1 }, .dropped)
    else (counted, counted.route packet)
  | .routingStartLossyLink numberOfPacketsToDrop =>
    ({ router with pendingNumberOfPacketsToDrop := numberOfPacketsToDrop }, .ignored)
  | .other => (router, .ignored)

variable {router : PacketRouter} {packet : SniffedPacket}

/-- Forwarding does not drop a packet. -/
theorem route_ne_dropped : router.route packet ≠ .dropped := by
  unfold route
  split <;> exact RouterOutcome.noConfusion

/-- A packet is dropped exactly while packets are still to be dropped. -/
theorem onRequest_dropped : (router.onRequest (.packetSniffedRaw packet)).2 = .dropped ↔
    0 < router.pendingNumberOfPacketsToDrop := by
  simp only [onRequest]
  split
  · rename_i pending
    exact iff_of_true rfl pending
  · rename_i done
    exact iff_of_false route_ne_dropped done

/-- Each packet counts against those that are to be dropped. -/
theorem onRequest_pending :
    (router.onRequest (.packetSniffedRaw packet)).1.pendingNumberOfPacketsToDrop =
      if router.pendingNumberOfPacketsToDrop > 0 then router.pendingNumberOfPacketsToDrop - 1
      else router.pendingNumberOfPacketsToDrop := by
  simp only [onRequest]
  split <;> rfl

end PacketRouter

end Ioppytest
