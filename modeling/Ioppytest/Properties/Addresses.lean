import Ioppytest.TestCoordinator.Sending
import Ioppytest.TestCoordinator.Settings
import Ioppytest.Properties.Survival

/-!
# Target addresses

A stimuli step is sent to the address of the peer of its node: the last one that was recorded for
the peer, or the default of the last configuration that declares one. The address is the text of
the message, since joining the fields of an address gives back what was split. An address of
another form is refused without an effect, but the error is not the one of the coordinator for the
empty address and where the end of a test case raises first.
-/

namespace Ioppytest

open Raising

variable {td : TestDescriptions}

namespace TestConfig

/-- The default address of a node: that of the last configuration that declares one. -/
def defaultAddress (configs : List TestConfig) (node : String) : Option String :=
  configs.reverse.findSome? fun config =>
    (config.defaultAddressing.reverse.find? (·.node == node)).map fun item =>
      item.ipv6Prefix ++ "::" ++ item.ipv6Host

end TestConfig

/-- An address as it is written. -/
def addressText (address : String × String) : String := address.1 ++ "::" ++ address.2

/-- The default addressing table holds the default addresses. -/
theorem TestSuite.defaultAddressingTable_get? (configs : List TestConfig) (node : String) :
    ((defaultAddressingTable configs).get? node).map addressText =
      TestConfig.defaultAddress configs node := by
  have pairs : defaultAddressingTable configs = ((configs.flatMap (·.defaultAddressing)).map
      fun item => (item.node, item.ipv6Prefix, item.ipv6Host)).foldl
        (fun table item => table.insert item.1 item.2) .empty := by
    rw [List.foldl_map]
    rfl
  rw [pairs, OrderedDict.get?_foldl_insert, OrderedDict.get?_empty, Option.or_none,
    ← List.map_reverse, List.reverse_flatMap, List.find?_map, List.find?_flatMap,
    TestConfig.defaultAddress]
  simp only [List.map_findSome?, Option.map_map, Function.comp_def]
  rfl

/-- The message sends the stimuli of a node to the address of its peer. -/
def Message.Targeted (td : TestDescriptions) (address : String → Option String) : Message → Prop
  | .stepStimuliExecute _ step tc target => ∀ i iut peer, td.id i = tc.testcaseId →
      step.iut = some iut → (td.config i).Peers iut.node peer → target = address peer
  | _ => True

/-- The current step is announced with the address that the table holds. -/
theorem TestSuite.announcement_targeted {ts : TestSuite td} {messages : List Message}
    (announced : ts.announcement = some messages) :
    ∀ message ∈ messages,
      message.Targeted td fun node => (ts.addressingTable.get? node).map addressText := by
  simp only [announcement, Option.bind_eq_some_iff, Option.map_eq_some_iff] at announced
  obtain ⟨i, current, step, found, rfl⟩ := announced
  intro message member
  rcases Handler.stepExecuteMessage_mem member with ⟨description, info, tc, target, rfl⟩ |
    ⟨description, info, tc, rfl⟩
  · intro j iut peer named associated peers
    have sent : info = stepInfo step ∧ tc = testcaseInfo ts i ∧
        target = ts.getCurrentStepTargetAddress := by
      unfold Handler.stepExecuteMessage at member
      dsimp only at member
      split at member
      · injection List.mem_singleton.mp member with _ first second third
        exact ⟨first, second, third⟩
      · cases List.mem_singleton.mp member
      · cases member
      · cases member
    obtain ⟨rfl, rfl, rfl⟩ := sent
    obtain rfl : j = i := TestDescriptions.id_injective named
    have node : step.iut = some iut := associated
    have configured : ts.getCurrentTestcaseConfiguration = some (td.config j) := by
      simp [getCurrentTestcaseConfiguration, current, TestDescriptions.config?_eq]
    simp [getCurrentStepTargetAddress, found, node, configured,
      TestConfig.getTargetNode_peer peers, Except.toOption, addressText, Option.map_eq_bind,
      Function.comp_def]
  · trivial

/-- The first of some pairs of fields of which neither is missing or empty, as an address is
written. -/
def firstAddress (pairs : List (PyString.Attribute × PyString.Attribute)) : Option String :=
  pairs.findSome? fun (front, back) =>
    (PyString.truthy front.join).bind fun front =>
      (PyString.truthy back.join).map fun back => front ++ "::" ++ back

/-- The node that a configuration message is about and the address that it gives. Routes set up by
an agent come first, then its own IPv6 address, then its IPv4 one. -/
def Event.address : Event → Option (String × String)
  | .configurationExecuted node ipv6Address =>
    node.bind fun node => ipv6Address.join.map (node, ·)
  | .agentTunStarted message =>
    message.name.bind fun name =>
      (firstAddress [(message.reRoutePacketsPrefix, message.reRoutePacketsHost),
        (message.ipv6Prefix, message.ipv6Host),
        (message.ipv4Network, message.ipv4Host)]).map (name, ·)
  | _ => none

namespace Handler

/-- Two fields that can be read give the address that they spell. -/
theorem bothTruthy_ok {first second : PyString.Attribute} {read : Option (String × String)}
    (ok : bothTruthy first second = .ok read) :
    ((PyString.truthy first.join).bind fun front =>
      (PyString.truthy second.join).map fun back => front ++ "::" ++ back) =
        read.map addressText := by
  cases first with
  | none => simp [bothTruthy, bind, Except.bind] at ok
  | some first =>
    cases front : PyString.truthy first with
    | none =>
      obtain rfl : none = read := by simpa [bothTruthy, front, bind, Except.bind] using ok
      simp [front]
    | some value =>
      cases second with
      | none => simp [bothTruthy, front, bind, Except.bind] at ok
      | some second =>
        obtain rfl : (PyString.truthy second).map (value, ·) = read := by
          simpa [bothTruthy, front, bind, Except.bind, pure, Except.pure] using ok
        simp [front, addressText, Function.comp_def]

/-- The address of an agent is the first one that it gives. -/
theorem tunAddress_ok {message : AgentTunStarted} {address : String × String}
    (ok : tunAddress message = .ok (some address)) :
    firstAddress [(message.reRoutePacketsPrefix, message.reRoutePacketsHost),
      (message.ipv6Prefix, message.ipv6Host), (message.ipv4Network, message.ipv4Host)] =
        some (addressText address) := by
  unfold tunAddress at ok
  cases routed : bothTruthy message.reRoutePacketsPrefix message.reRoutePacketsHost with
  | error exception => simp [routed, bind, Except.bind] at ok
  | ok first =>
    have front := bothTruthy_ok routed
    cases first with
    | some route =>
      obtain rfl : route = address := by
        simpa [routed, bind, Except.bind, pure, Except.pure] using ok
      simp [firstAddress, front]
    | none =>
      cases own : bothTruthy message.ipv6Prefix message.ipv6Host with
      | error exception => simp [routed, own, bind, Except.bind] at ok
      | ok second =>
        have middle := bothTruthy_ok own
        cases second with
        | some host =>
          obtain rfl : host = address := by
            simpa [routed, own, bind, Except.bind, pure, Except.pure] using ok
          simp [firstAddress, front, middle]
        | none =>
          have fourth : bothTruthy message.ipv4Network message.ipv4Host = .ok (some address) := by
            simpa [routed, own, bind, Except.bind] using ok
          have back := bothTruthy_ok fourth
          simp [firstAddress, front, middle, back]

/-- A node that is recorded is named, and its address has two parts. -/
theorem nodeUpdate_ok {event : Option Event} {node : String} {address : String × String}
    (read : nodeUpdate event = .ok (node, address)) :
    agentAndAddress event = .ok (some node, [address.1, address.2]) := by
  unfold nodeUpdate at read
  cases parts : agentAndAddress event with
  | error exception => simp [parts, bind, Except.bind] at read
  | ok pair =>
    obtain ⟨name, fields⟩ := pair
    simp only [parts, bind, Except.bind] at read
    split at read
    · cases named : PyString.truthy name with
      | none => simp [named] at read
      | some agent =>
        have same : name = some agent := (Option.filter_eq_some_iff.mp named).1
        obtain ⟨rfl, rfl⟩ : agent = node ∧ _ = address := by
          simpa [named, pure, Except.pure] using read
        rw [same]
    · cases read

/-- **What is recorded is what the message says.** -/
theorem nodeUpdate_address {event : Event} {node : String} {address : String × String}
    (read : nodeUpdate (some event) = .ok (node, address)) :
    event.address = some (node, addressText address) := by
  have parts := nodeUpdate_ok read
  cases event with
  | configurationExecuted name ipv6Address =>
    simp only [agentAndAddress] at parts
    split at parts
    · cases parts
    · split at parts
      · cases parts
      · rename_i given _ text written
        obtain ⟨rfl, fields⟩ := Prod.mk.inj (Except.ok.inj parts)
        have same : given = some text := (Option.filter_eq_some_iff.mp written).1
        simp [Event.address, same, addressText, PyString.split_pair (by decide) fields]
  | agentTunStarted message =>
    simp only [agentAndAddress] at parts
    split at parts
    · cases parts
    · cases parts
    · rename_i given found
      obtain ⟨named, fields⟩ := Prod.mk.inj (Except.ok.inj parts)
      obtain rfl : given = address := by
        simpa [Prod.ext_iff] using fields
      simp [Event.address, named, tunAddress_ok found]
  | _ => cases parts

/-- The address does not consist of a prefix and a host. -/
def Malformed (address : String) : Prop := (PyString.split address "::").length ≠ 2

/-- Whether an address is malformed is the number of its parts. -/
instance (address : String) : Decidable (Malformed address) :=
  inferInstanceAs (Decidable (_ ≠ _))

/-- A malformed address is refused; the length of an empty one cannot even be taken. -/
theorem nodeUpdate_malformed (node : Option String) {address : String}
    (malformed : Malformed address) :
    nodeUpdate (some (.configurationExecuted node (some (some address)))) =
      .error (if address = "" then .typeError
        else .coordinatorError "Received a wrong formatted address") := by
  by_cases empty : address = ""
  · simp [nodeUpdate, agentAndAddress, PyString.truthy, Option.filter, empty, bind, Except.bind]
  · have given : PyString.truthy (some address) = some address := by
      simp [PyString.truthy, Option.filter, empty]
    simp only [nodeUpdate, agentAndAddress, given, bind, Except.bind, if_neg empty]
    split
    · rename_i fields
      exact absurd (congrArg List.length fields) malformed
    · rfl

end Handler

namespace Coordinator

/-- The addresses that were recorded: the last one for each node. -/
def noteAddress (noted : String → Option String) (c : Coordinator td) (input : Input) :
    String → Option String :=
  match c.recording input, input with
  | some _, .event event _ =>
    match event.address with
    | some (node, address) => Function.update noted node (some address)
    | none => noted
  | _, _ => noted

/-- The latest address of a node: the one that was recorded last, or else the default one. -/
def latest (td : TestDescriptions) (noted : String → Option String) (node : String) :
    Option String := (noted node).or (TestConfig.defaultAddress td.tcConfigs node)

variable {upper : String → String} {testsuiteName : String} {c : Coordinator td} {input : Input}
  {noted : String → Option String}

/-- The table of the suite holds the latest addresses. -/
def Addressed (c : Coordinator td) (noted : String → Option String) : Prop :=
  ∀ node, (c.testsuite.addressingTable.get? node).map addressText = latest td noted node

/-- An input changes the table as it changes the notes. -/
theorem addressed_step (coherent : Coherent c) (addressed : c.Addressed noted) :
    (next upper c input).Addressed (noteAddress noted c input) := by
  intro node
  rw [(next_nodes upper coherent input).2]
  cases found : c.recording input with
  | none => simpa [noteAddress, found] using addressed node
  | some update =>
    obtain ⟨agent, address⟩ := update
    obtain ⟨event, services, rfl, -, -, read⟩ := recording_kind found
    simp only [Option.elim, OrderedDict.get?_insert, noteAddress, found,
      Handler.nodeUpdate_address read, latest]
    by_cases same : node = agent
    · simp [same]
    · simpa [same, latest] using addressed node

/-- In every run the table holds the latest addresses. -/
theorem addressed_run {pair : Coordinator td × (String → Option String)}
    (reached : Runs.Observed (next upper) (fun c input => input.Known td ∨ Survives upper c input)
      noteAddress (initial upper td testsuiteName, fun _ => none) pair) :
    pair.1.Addressed pair.2 := by
  induction reached with
  | init =>
    intro node
    rw [initial_eq, latest, Option.none_or, ← TestSuite.defaultAddressingTable_get?]
    rfl
  | step earlier tame ih =>
    exact addressed_step (reached_coherent (fun _ _ tame => tame) earlier.unobserved) ih

variable (upper input) in
/-- What an input publishes sends stimuli to the latest addresses. -/
theorem targeted_step (coherent : Coherent c) (addressed : c.Addressed noted) :
    c.Sends (Message.Targeted td (latest td noted)) (next upper c input) := by
  by_cases disorients : Disorients c input
  · obtain ⟨i, handled⟩ := handle_disorienting_eq upper coherent disorients
    rw [next, handled]
    exact .of_bus rfl
  have move : Move c input (c.handle upper input) := handle_move coherent disorients
  refine move.publishes ?_ ?_ ?_ ?_
  · intro message incidental
    cases message <;> trivial
  · intro other messages same announced message member
    have targeted := TestSuite.announcement_targeted announced message member
    rw [same] at targeted
    simpa only [addressed _] using targeted
  · intro id services i _ _ message member
    have routine := routine_sniffing i message member
    cases message <;> trivial
  · rintro _ ⟨_, _, rfl, -⟩
    trivial

/-- A configuration message is refused by the coordinator, and nothing is recorded. -/
def Refuses (upper : String → String) (c : Coordinator td) (input : Input) : Prop :=
  (∃ message, raised (c.handle upper input) = some (.coordinatorError message)) ∧
    (next upper c input).testsuite.addressingTable = c.testsuite.addressingTable ∧
    (next upper c input).testsuite.nodesConfigured = c.testsuite.nodesConfigured

/-- An address that is malformed raises another error: the suite is empty, the end of a test case
raises one, or the address is empty and no step is left to be answered. -/
def Misreports (c : Coordinator td) : Input → Prop
  | .event (.configurationExecuted _ (some (some address))) services =>
    Handler.Malformed address ∧
      if c.state = .preparingNextStep then
        ∃ i, c.testsuite.currentTc = some i ∧ ¬ (c.testsuite.testcase i).Open ∧
          (EndRaises services (c.testsuite.testcase i) ∨ address = "")
      else td.size = 0 ∨ address = ""
  | _ => False

/-- Entering a state again never asks for a transition that is missing. -/
theorem reenter_error {services : Services} {exception : PyException} {left : Coordinator td}
    (coherent : Coherent c) (raises : c.reenter services = .error exception left) :
    exception ≠ .machineError := by
  by_cases nonempty : 0 < td.size
  · by_cases elsewhere : c.state = .preparingNextStep
    · have entered : c.reenter services = c.advance services := by
        simp only [reenter, elsewhere]
      rw [entered] at raises
      cases coherent with
      | stuck i _ current _ exhausted =>
        have advance : Advance services c i (c.advance services) :=
          advance_cases current exhausted.toOngoing
        rw [raises] at advance
        rcases advance.ended exhausted.toOngoing exhausted.nextStep with
          ⟨-, message, _, same⟩ | ⟨-, other, _, same, uncaught⟩ | ⟨-, -, _, same, -⟩
        · cases same
          exact PyException.noConfusion
        · cases same
          rintro rfl
          cases uncaught
        · cases same
      | setup wrong _ _ | waiting wrong _ _ _ =>
        rcases wrong with wrong | wrong <;> cases elsewhere.symm.trans wrong
      | executing _ wrong _ _ _ | finished wrong _ _ _ _ => cases elsewhere.symm.trans wrong
    · obtain ⟨after, entered, -⟩ := coherent.reenter services nonempty elsewhere
      cases raises.symm.trans entered
  · cases coherent with
    | setup early _ later =>
      have waits := early.resolve_right fun late => nonempty (later late)
      simp only [reenter, waits, Nat.eq_zero_of_not_pos nonempty, ↓reduceIte] at raises
      cases raises
      exact PyException.noConfusion
    | waiting _ filled _ _ | finished _ _ filled _ _ => exact absurd filled nonempty
    | executing i _ _ _ _ | stuck i _ _ _ _ => exact absurd i.pos nonempty

variable (upper) in
/-- A malformed address raises, and not for want of a transition. -/
theorem malformed_raises (node : Option String) {address : String} (services : Services)
    (coherent : Coherent c) (malformed : Handler.Malformed address) :
    ∃ exception, raised (c.handle upper
      (.event (.configurationExecuted node (some (some address))) services)) = some exception ∧
        exception ≠ .machineError := by
  rw [handle_configuration rfl coherent.resting, raised_andThen_ok]
  cases entered : c.reenter services with
  | error exception left => exact ⟨exception, rfl, reenter_error coherent entered⟩
  | ok _ left =>
    rw [andThen_ok, recordNode, Handler.nodeUpdate_malformed node malformed]
    refine ⟨_, rfl, ?_⟩
    split <;> exact PyException.noConfusion

/-- **A malformed address is refused** exactly when no other error is raised. -/
theorem refuses_iff {node : Option String} {address : String} {services : Services}
    (coherent : Coherent c) (malformed : Handler.Malformed address) :
    c.Refuses upper (.event (.configurationExecuted node (some (some address))) services) ↔
      ¬ c.Misreports (.event (.configurationExecuted node (some (some address))) services) := by
  have unread := Handler.nodeUpdate_malformed node malformed
  have unrecorded : c.recording
      (.event (.configurationExecuted node (some (some address))) services) = none := by
    rw [recording, unread]
    split <;> rfl
  have nodes := next_nodes upper coherent
    (.event (.configurationExecuted node (some (some address))) services)
  rw [unrecorded] at nodes
  have unaddressed : Handler.Unaddressed (.configurationExecuted node (some (some address))) ↔
      address = "" := by
    simp [Handler.Unaddressed, PyString.truthy, Option.filter]
  have raises : c.NodeRaises (.configurationExecuted node (some (some address))) ↔
      address = "" := by
    rw [NodeRaises, unaddressed]
    refine or_iff_left ?_
    rintro ⟨-, -, _, _, read, -⟩
    cases unread.symm.trans read
  let event := Event.configurationExecuted node (some (some address))
  have fatal : Uncaught (c.handle upper (.event event services)) ↔ _ :=
    configuration_fatal coherent rfl
  rw [unaddressed, raises] at fatal
  have misreports : c.Misreports
      (.event (.configurationExecuted node (some (some address))) services) ↔
      Uncaught (c.handle upper
        (.event (.configurationExecuted node (some (some address))) services)) := by
    rw [fatal]
    exact and_iff_right malformed
  obtain ⟨exception, raised_with, other⟩ :=
    malformed_raises upper node services coherent malformed
  rw [misreports, Refuses, raised_with, Uncaught, raised_with]
  refine (and_iff_left ⟨nodes.2, nodes.1⟩).trans ?_
  cases exception with
  | machineError => exact absurd rfl other
  | _ => simp [PyException.caughtByHandleControl]

/-- **Stimuli are sent to the latest address of the peer, and a malformed address is refused
without an effect**, exactly unless its error is another one. -/
theorem addresses_iff (upper : String → String) (td : TestDescriptions) (testsuiteName : String)
    (pair : Coordinator td × (String → Option String))
    (reached : Runs.Observed (next upper) (fun c input => input.Known td ∨ Survives upper c input)
      noteAddress (initial upper td testsuiteName, fun _ => none) pair)
    (input : Input) :
    (pair.1.Sends (Message.Targeted td (latest td pair.2)) (next upper pair.1 input) ∧
      ∀ node address services,
        input = .event (.configurationExecuted node (some (some address))) services →
          Handler.Malformed address → pair.1.Refuses upper input) ↔
      ¬ pair.1.Misreports input := by
  have coherent : Coherent pair.1 := reached_coherent (fun _ _ tame => tame) reached.unobserved
  have targeted := targeted_step upper input coherent (addressed_run reached)
  refine (and_iff_right targeted).trans ⟨fun refuses misreports => ?_, ?_⟩
  · cases input with
    | timeout | abortTestcase => exact misreports
    | event event services =>
      cases event with
      | configurationExecuted node ipv6Address =>
        rcases ipv6Address with _ | _ | address
        · exact misreports
        · exact misreports
        · exact (refuses_iff coherent misreports.1).mp
            (refuses node address services rfl misreports.1) misreports
      | _ => exact misreports
  · rintro spared node address services rfl malformed
    exact (refuses_iff coherent malformed).mpr spared

/-- The small suite after some inputs, with the addresses that were recorded. -/
def addressing (inputs : List Input) : Coordinator smallSuite × (String → Option String) :=
  inputs.foldl (Runs.observed (next id) noteAddress)
    (initial id smallSuite "coap", fun _ => none)

/-- Inputs of the small suite that are survived. -/
theorem addressing_reached {inputs : List Input}
    (survived : Runs.AllAllowed (Runs.observed (next id) noteAddress)
      (fun pair => Survives id pair.1) (initial id smallSuite "coap", fun _ => none) inputs) :
    Runs.Observed (next id) (fun c input => input.Known smallSuite ∨ Survives id c input)
      noteAddress (initial id smallSuite "coap", fun _ => none) (addressing inputs) :=
  survived.reachable.mono fun _ _ survives => .inr survives

/-- The small suite when its server was configured. -/
def serverConfigured : List Input :=
  [.event .testSuiteStart noServices,
    .event (.configurationExecuted (some "coap_server") (some (some "aaaa::7"))) noServices]

/-- The first step of the small suite is sent to the address of the server, and an address of one
part is refused. -/
theorem addresses_small :
    (addressing serverConfigured).1.Sends
        (Message.Targeted smallSuite (latest smallSuite (addressing serverConfigured).2))
        (next id (addressing serverConfigured).1 (.event (.testCaseStart none) noServices)) ∧
      (addressing serverConfigured).1.Refuses id
        (.event (.configurationExecuted (some "coap_client") (some (some "aaaa"))) noServices) := by
  have reached := @addressing_reached serverConfigured (by decide +kernel)
  refine ⟨((addresses_iff id smallSuite "coap" _ reached
    (.event (.testCaseStart none) noServices)).mpr not_false).1, ?_⟩
  refine ((addresses_iff id smallSuite "coap" _ reached _).mpr ?_).2 _ _ _ rfl (by decide)
  rintro ⟨-, wrong⟩
  rw [if_neg (by decide +kernel)] at wrong
  revert wrong
  decide

/-- An empty address ends the process. -/
theorem empty_address_misreported :
    Runs.Observed (next id) (fun c input => input.Known smallSuite ∨ Survives id c input)
        noteAddress (initial id smallSuite "coap", fun _ => none) (addressing serverConfigured) ∧
      Handler.Malformed "" ∧
      raised ((addressing serverConfigured).1.handle id
        (.event (.configurationExecuted (some "coap_client") (some (some ""))) noServices)) =
          some .typeError ∧
      ¬ (addressing serverConfigured).1.Refuses id
        (.event (.configurationExecuted (some "coap_client") (some (some ""))) noServices) := by
  have uncaught : raised ((addressing serverConfigured).1.handle id
      (.event (.configurationExecuted (some "coap_client") (some (some ""))) noServices)) =
        some .typeError := by decide +kernel
  refine ⟨addressing_reached (by decide +kernel), by decide, uncaught, ?_⟩
  rintro ⟨⟨message, refused⟩, -⟩
  cases uncaught.symm.trans refused

end Coordinator

end Ioppytest
