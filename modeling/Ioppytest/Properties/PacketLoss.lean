import Ioppytest.PacketRouter.Router
import Ioppytest.TestCoordinator.Sending

/-!
# Packet loss

The coordinator asks the packet router to drop packets when a test case with a lossy link is
started, and it never takes that back. Requests reach the router in the order in which they are
sent, packets reach it at any time. What is dropped outside of lossy test cases is what the router
has left over from the last one.
-/

namespace Ioppytest

open Raising Coordinator

variable {td : TestDescriptions}

/-- A link of the configuration of a test case is lossy. -/
def TestDescriptions.lossy (td : TestDescriptions) (i : Fin td.size) : Bool :=
  (td.config i).topology.any fun link => link.specialMode == some "lossy_context"

namespace Message

/-- The topic of the message is one of the router's. -/
def isRouting : Message → Bool
  | .routingStartLossyLink _ => true
  | _ => false

/-- What a message is to the router. -/
def toRouter : Message → RouterRequest
  | .routingStartLossyLink numberOfPacketsToDrop => .routingStartLossyLink numberOfPacketsToDrop
  | _ => .other

/-- The message starts a lossy link for two packets only, and only for the current test case if
its configuration has one. -/
def StartsLoss (c : Coordinator td) (message : Message) : Prop :=
  message.isRouting = true → message = .routingStartLossyLink 2 ∧
    ∃ i, c.testsuite.currentTc = some i ∧ td.lossy i = true

end Message

/-- The coordinator, the router and the requests on their way from one to the other. -/
structure RoutedSession (td : TestDescriptions) where
  /-- The coordinator. -/
  coordinator : Coordinator td
  /-- The requests in the order in which they were sent, with the test case that was current then.
  The router does not read the latter. -/
  underWay : List (Message × Option (Fin td.size))
  /-- The router. -/
  router : PacketRouter

namespace RoutedSession

/-- What can happen next. -/
inductive Action where
  /-- The coordinator handles an input. -/
  | control (input : Input)
  /-- The next request reaches the router. -/
  | deliver
  /-- A packet reaches the router. -/
  | packet (packet : SniffedPacket)
  deriving DecidableEq

/-- The session after an action. -/
def next (upper : String → String) (session : RoutedSession td) : Action → RoutedSession td
  | .control input =>
    let after := Coordinator.next upper session.coordinator input
    let sent := (after.bus.drop session.coordinator.bus.length).filter Message.isRouting
    { session with
      coordinator := after
      underWay := session.underWay ++ sent.map (·, session.coordinator.testsuite.currentTc) }
  | .deliver =>
    match session.underWay with
    | [] => session
    | (message, _) :: later =>
      { session with
        underWay := later
        router := (session.router.onRequest message.toRouter).1 }
  | .packet packet =>
    { session with router := (session.router.onRequest (.packetSniffedRaw packet)).1 }

/-- A bootstrapped coordinator and an idle router. -/
def initial (upper : String → String) (td : TestDescriptions) (testsuiteName : String)
    (routingTable : PacketRouter.RoutingTable) : RoutedSession td where
  coordinator := Coordinator.initial upper td testsuiteName
  underWay := []
  router := { routingTable }

/-- The inputs of the coordinator are those of a session. -/
def Tame (upper : String → String) (session : RoutedSession td) : Action → Prop
  | .control input => input.Known td ∨ Survives upper session.coordinator input
  | _ => True

/-- The test case whose lossy link was started last at the router, and how many packets have reached
it since. -/
structure Loss (td : TestDescriptions) where
  /-- The test case. -/
  testcase : Option (Fin td.size)
  /-- Packets since then. -/
  packets : Nat
  deriving DecidableEq

/-- Note what reaches the router. -/
def noteLoss (noted : Option (Loss td)) (session : RoutedSession td) : Action → Option (Loss td)
  | .control _ => noted
  | .deliver =>
    match session.underWay with
    | [] => noted
    | (_, testcase) :: _ => some ⟨testcase, 0⟩
  | .packet _ => noted.map fun loss => { loss with packets := loss.packets + 1 }

/-- The current test case has no lossy link, and fewer than two packets have reached the router
since a lossy link was started there. -/
def LeftOver (session : RoutedSession td) (noted : Option (Loss td)) : Prop :=
  (∃ i, session.coordinator.testsuite.currentTc = some i ∧ td.lossy i = false) ∧
    ∃ loss, noted = some loss ∧ loss.packets < 2

/-- A packet that reaches the router now is not dropped if the current test case has no lossy
link. -/
def Confined (session : RoutedSession td) (packet : SniffedPacket) : Prop :=
  ∀ i, session.coordinator.testsuite.currentTc = some i → td.lossy i = false →
    (session.router.onRequest (.packetSniffedRaw packet)).2 ≠ .dropped

/-- What the router still has to drop is what is left of the last request, and every request comes
from a lossy test case. -/
structure Accounted (session : RoutedSession td) (noted : Option (Loss td)) : Prop where
  /-- Two packets for each request. -/
  pending : session.router.pendingNumberOfPacketsToDrop =
    noted.elim 0 fun loss => ((2 - loss.packets : Nat) : Int)
  /-- The last request comes from a lossy test case. -/
  started : ∀ loss, noted = some loss → ∃ i, loss.testcase = some i ∧ td.lossy i = true
  /-- So do those that are under way. -/
  requested : ∀ entry ∈ session.underWay, entry.1 = .routingStartLossyLink 2 ∧
    ∃ i, entry.2 = some i ∧ td.lossy i = true

variable {upper : String → String} {testsuiteName : String} {session : RoutedSession td}
  {routingTable : PacketRouter.RoutingTable} {noted : Option (Loss td)}

/-- The start of a test case starts a lossy link if its configuration has one. -/
theorem sniffingMessages_startsLoss {c : Coordinator td} {i : Fin td.size}
    (current : c.testsuite.currentTc = some i) :
    ∀ message ∈ (sniffingMessages i : List Message), message.StartsLoss c := by
  intro message member routing
  obtain ⟨link, inside, sent⟩ := List.mem_flatMap.mp member
  unfold Handler.linkMessages at sent
  rcases List.mem_cons.mp sent with rfl | lossy
  · cases routing
  · split at lossy
    · rename_i special
      refine ⟨List.mem_singleton.mp lossy, i, current, ?_⟩
      exact List.any_eq_true.mpr ⟨link, inside, by simp [special]⟩
    · cases lossy

variable (upper) in
/-- Whatever the coordinator handles, it starts lossy links only so. -/
theorem sends_startsLoss {c : Coordinator td} (input : Input) (coherent : Coherent c) :
    c.Sends (Message.StartsLoss c) (Coordinator.next upper c input) := by
  by_cases disorients : Disorients c input
  · obtain ⟨i, handled⟩ := handle_disorienting_eq upper coherent disorients
    rw [Coordinator.next, handled]
    exact .of_bus rfl
  have move : Move c input (c.handle upper input) := handle_move coherent disorients
  refine move.publishes ?_ ?_ ?_ ?_
  · intro message incidental routing
    cases message with
    | routingStartLossyLink _ => cases incidental
    | _ => cases routing
  · intro other messages _ announced message member routing
    simp only [TestSuite.announcement, Option.bind_eq_some_iff, Option.map_eq_some_iff] at announced
    obtain ⟨_, _, _, _, rfl⟩ := announced
    rcases Handler.stepExecuteMessage_mem member with ⟨_, _, _, _, rfl⟩ | ⟨_, _, _, rfl⟩ <;>
      cases routing
  · intro id services i _ current
    exact sniffingMessages_startsLoss current
  · rintro _ ⟨_, _, rfl, -⟩ routing
    cases routing

/-- Every action keeps the account. -/
theorem accounted_step (action : Action) (coherent : Coherent session.coordinator)
    (accounted : session.Accounted noted) :
    (next upper session action).Accounted (noteLoss noted session action) := by
  cases action with
  | control input =>
    obtain ⟨sent, bus, starts⟩ := sends_startsLoss upper input coherent
    have published : (Coordinator.next upper session.coordinator input).bus.drop
        session.coordinator.bus.length = sent := by
      rw [bus, List.drop_left]
    refine ⟨accounted.pending, accounted.started, fun entry member => ?_⟩
    simp only [next, published] at member
    rcases List.mem_append.mp member with earlier | later
    · exact accounted.requested entry earlier
    · obtain ⟨message, inside, rfl⟩ := List.mem_map.mp later
      obtain ⟨among, routing⟩ := List.mem_filter.mp inside
      exact starts message among routing
  | deliver =>
    unfold next noteLoss
    cases underWay : session.underWay with
    | nil => exact accounted
    | cons first later =>
      obtain ⟨message, testcase⟩ := first
      obtain ⟨sent, origin⟩ := accounted.requested (message, testcase) (by simp [underWay])
      obtain rfl : message = .routingStartLossyLink 2 := sent
      refine ⟨rfl, ?_, fun entry member => ?_⟩
      · rintro loss same
        obtain rfl := Option.some.inj same
        exact origin
      · exact accounted.requested entry (by simp [underWay, show entry ∈ later from member])
  | packet packet =>
    refine ⟨?_, ?_, accounted.requested⟩
    · simp only [next, noteLoss, PacketRouter.onRequest_pending, accounted.pending]
      cases noted with
      | none => rfl
      | some loss =>
        simp only [Option.elim, Option.map_some]
        omega
    · intro loss same
      obtain ⟨earlier, before, rfl⟩ := Option.map_eq_some_iff.mp same
      exact accounted.started earlier before

/-- In every run the coordinator is one of a session and the account is kept. -/
theorem accounted_run {pair : RoutedSession td × Option (Loss td)}
    (reached : Runs.Observed (next upper) (Tame upper) noteLoss
      (initial upper td testsuiteName routingTable, none) pair) :
    Coherent pair.1.coordinator ∧ pair.1.Accounted pair.2 := by
  have kept : Reached upper testsuiteName
      (fun c input => input.Known td ∨ Survives upper c input) pair.1.coordinator ∧
        pair.1.Accounted pair.2 := by
    induction reached with
    | init =>
      refine ⟨.init, rfl, fun loss same => ?_, fun entry member => ?_⟩
      · cases same
      · cases member
    | @step pair action _ tame ih =>
      have coherent := reached_coherent (fun _ _ tame => tame) ih.1
      refine ⟨?_, accounted_step action coherent ih.2⟩
      cases action with
      | control input => exact .step ih.1 tame
      | deliver =>
        simp only [Runs.observed, next]
        split <;> exact ih.1
      | packet packet => exact ih.1
  exact ⟨reached_coherent (fun _ _ tame => tame) kept.1, kept.2⟩

/-- **Packets are dropped in lossy test cases only**, exactly unless some are left over from an
earlier one; and what is left over always comes from a lossy test case. -/
theorem loss_confined_iff (upper : String → String) (td : TestDescriptions)
    (testsuiteName : String) (routingTable : PacketRouter.RoutingTable)
    (pair : RoutedSession td × Option (Loss td))
    (reached : Runs.Observed (next upper) (Tame upper) noteLoss
      (initial upper td testsuiteName routingTable, none) pair)
    (packet : SniffedPacket) :
    (pair.1.Confined packet ↔ ¬ pair.1.LeftOver pair.2) ∧
      ∀ loss, pair.2 = some loss → ∃ i, loss.testcase = some i ∧ td.lossy i = true := by
  have accounted := (accounted_run reached).2
  refine ⟨?_, accounted.started⟩
  have left : 0 < pair.1.router.pendingNumberOfPacketsToDrop ↔
      ∃ loss, pair.2 = some loss ∧ loss.packets < 2 := by
    rw [accounted.pending]
    cases pair.2 with
    | none => simp
    | some loss =>
      simp only [Option.elim, Option.some.injEq, exists_eq_left']
      omega
  rw [Confined, LeftOver, ← left]
  constructor
  · rintro confined ⟨⟨i, current, lossless⟩, pending⟩
    exact confined i current lossless (PacketRouter.onRequest_dropped.mpr pending)
  · intro spared i current lossless dropped
    exact spared ⟨⟨i, current, lossless⟩, PacketRouter.onRequest_dropped.mp dropped⟩

section Small

/-- The two nodes on a lossy link. -/
def lossyConfig : TestConfig :=
  { smallConfig with
    id := "COAP_CFG_02"
    topology := [⟨"link_01", ["coap_client", "coap_server"], "udp", some "lossy_context"⟩] }

/-- A suite whose first test case is lossy. -/
def lossySuite : TestDescriptions where
  tcConfigs := [smallConfig, lossyConfig]
  testcases := [{ smallTestcase with configurationId := "COAP_CFG_02" },
    { smallTestcase with id := "TD_COAP_CORE_02" }]
  configs_distinct := by decide
  distinct := by decide
  configured := by decide

/-- The lossy suite after some actions, with what reached the router. -/
def routed (actions : List Action) : RoutedSession lossySuite × Option (Loss lossySuite) :=
  actions.foldl (Runs.observed (next id) noteLoss) (initial id lossySuite "coap" .empty, none)

/-- The inputs of the coordinator are survived. -/
def Survived (session : RoutedSession td) : Action → Prop
  | .control input => Survives id session.coordinator input
  | _ => True

/-- Survival is decided by handling the action. -/
instance (session : RoutedSession td) : (action : Action) → Decidable (session.Survived action)
  | .control input => inferInstanceAs (Decidable (Survives id session.coordinator input))
  | .deliver | .packet _ => inferInstanceAs (Decidable True)

/-- Actions whose inputs are survived. -/
theorem routed_reached {actions : List Action}
    (survived : Runs.AllAllowed (Runs.observed (next id) noteLoss)
      (fun pair => Survived pair.1) (initial id lossySuite "coap" .empty, none) actions) :
    Runs.Observed (next id) (Tame id) noteLoss (initial id lossySuite "coap" .empty, none)
      (routed actions) := by
  refine survived.reachable.mono fun pair action survives => ?_
  cases action with
  | control input => exact .inr survives
  | deliver | packet _ => trivial

/-- A packet of the client. -/
def clientPacket : SniffedPacket :=
  ⟨"fromAgent.coap_client.ip.tun.packet.raw", some (some "00"), some (some "0"), some (some "tun0")⟩

/-- The lossy test case is started, and its request reaches the router. -/
def lossStarted : List Action :=
  [.control (.event .testSuiteStart noServices), .control (.event (.testCaseStart none) noServices),
    .deliver]

/-- It is skipped, and the next test case waits. -/
def skipped : Action := .control (.event (.testCaseSkip (some none)) noServices)

/-- After two packets nothing is left of the lossy test case. -/
theorem loss_confined_small :
    (routed (lossStarted ++ [.packet clientPacket, .packet clientPacket, skipped])).1.Confined
      clientPacket := by
  refine (loss_confined_iff id lossySuite "coap" .empty _ (routed_reached (by decide +kernel))
    clientPacket).1.mpr ?_
  rintro ⟨-, loss, noted, few⟩
  have two : (routed (lossStarted ++ [.packet clientPacket, .packet clientPacket, skipped])).2.map
      Loss.packets = some 2 := by decide +kernel
  rw [noted] at two
  obtain same : loss.packets = 2 := Option.some.inj two
  omega

/-- A lossy test case that is skipped before a packet has passed drops one of the next test case. -/
theorem loss_left_over :
    Runs.Observed (next id) (Tame id) noteLoss (initial id lossySuite "coap" .empty, none)
        (routed (lossStarted ++ [skipped])) ∧
      ¬ (routed (lossStarted ++ [skipped])).1.Confined clientPacket := by
  refine ⟨routed_reached (by decide +kernel), fun confined => ?_⟩
  exact confined ⟨1, by decide⟩ (by decide +kernel) (by decide +kernel) (by decide +kernel)

end Small

end RoutedSession

end Ioppytest
