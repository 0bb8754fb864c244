import Ioppytest.EventBus.InteractiveSession
import Ioppytest.Properties.Prompts
import Ioppytest.Properties.Questions
import Ioppytest.Properties.Startup

/-!
# One question at a time

In an interactive session the coordinator, the UI adaptor and the users hand one question to each
other. The UI adaptor and the users conserve it, and the coordinator exchanges the answer for the
next one, so that nothing is asked twice and no answer comes at the wrong time.
-/

namespace Ioppytest

open Raising Coordinator UiAdaptor

variable {td : TestDescriptions}

namespace InteractiveSession

variable {venue : Venue} {session : InteractiveSession td}

/-- The questions that are with the UI adaptor or on their way to it. -/
def atAdaptor (venue : Venue) (session : InteractiveSession td) : List Matter :=
  session.adaptor.dealings.matters venue.verifyNode ++ session.toAdaptor.filterMap announced?

/-- What matters is under way to the coordinator or at the adaptor. -/
theorem matters_eq (venue : Venue) (session : InteractiveSession td) :
    session.matters venue = session.toCoordinator.map .answered ++ session.atAdaptor venue := by
  rw [matters, atAdaptor, List.append_assoc]

/-- What a part of the session does to the questions. -/
structure Passes (venue : Venue) (prompt : TtMessage) (session after : InteractiveSession td) :
    Prop where
  /-- The coordinator has no part in it. -/
  coordinator : after.coordinator = session.coordinator
  /-- What was on its way to the coordinator stays so. -/
  events : ∃ sent, after.toCoordinator = session.toCoordinator ++ sent ∧
    Conserved venue.verifyNode prompt (session.atAdaptor venue)
      (sent.map .answered ++ after.atAdaptor venue) (after.adaptor.phase = .stopped)
  /-- The dealings stay orderly. -/
  orderly : session.adaptor.dealings.Orderly → after.adaptor.dealings.Orderly
  /-- While the loop is running, no request is given up. -/
  made : after.adaptor.phase ≠ .stopped → session.adaptor.phase ≠ .stopped ∧
    (session.adaptor.dealings.Made → after.adaptor.dealings.Made)

/-- The UI adaptor receives a message. -/
theorem hear_dealings (adaptor : Adaptor) (setup : Setup) (message : TtMessage) :
    (adaptor.next setup (.fromTt message)).phase = adaptor.phase ∧
      (adaptor.next setup (.fromTt message)).dealings =
        if adaptor.queueMessagesFromTt.length < Adaptor.maxsize then
          { adaptor.dealings with messages := adaptor.dealings.messages ++ [message] }
        else adaptor.dealings := by
  rw [Adaptor.next]
  split <;> exact ⟨rfl, rfl⟩

/-- It receives a reply. -/
theorem reply_dealings (adaptor : Adaptor) (setup : Setup) (reply : UiReply) :
    (adaptor.next setup (.fromUi reply)).phase = adaptor.phase ∧
      (adaptor.next setup (.fromUi reply)).dealings =
        if adaptor.queueMessagesFromUi.length < Adaptor.maxsize then
          { adaptor.dealings with replies := adaptor.dealings.replies ++ [reply] }
        else adaptor.dealings := by
  rw [Adaptor.next]
  split <;> exact ⟨rfl, rfl⟩

/-- Nothing is sent where nothing is published. -/
theorem act_silent {action : UiAdaptor.Action}
    (answered : (session.adaptor.next venue.setup action).dealings.answered =
      session.adaptor.dealings.answered) :
    session.act venue action =
      { session with adaptor := session.adaptor.next venue.setup action } := by
  rw [act]
  simp only [answered, List.drop_length, List.filterMap_nil, List.append_nil]

/-- Questions that stay where they are. -/
theorem Passes.quiet {prompt : TtMessage} {adaptor : Adaptor}
    (concerned : ∀ matter ∈ session.atAdaptor venue, matter.Concerns venue.verifyNode prompt)
    (same : adaptor.dealings.matters venue.verifyNode =
      session.adaptor.dealings.matters venue.verifyNode)
    (orderly : session.adaptor.dealings.Orderly → adaptor.dealings.Orderly)
    (made : adaptor.phase ≠ .stopped → session.adaptor.phase ≠ .stopped ∧
      (session.adaptor.dealings.Made → adaptor.dealings.Made)) :
    Passes venue prompt session { session with adaptor } := by
  refine ⟨rfl, ⟨[], (List.append_nil _).symm, ?_⟩, orderly, made⟩
  have kept : atAdaptor venue { session with adaptor } = session.atAdaptor venue := by
    rw [atAdaptor, atAdaptor, same]
  rw [List.map_nil, List.nil_append, kept]
  exact .same concerned

/-- Hearing a message is no matter of requests and replies. -/
theorem hear_keeps (adaptor : Adaptor) (setup : Setup) (message : TtMessage) :
    (adaptor.dealings.Orderly → (adaptor.next setup (.fromTt message)).dealings.Orderly) ∧
      (adaptor.dealings.Made → (adaptor.next setup (.fromTt message)).dealings.Made) := by
  rw [(hear_dealings adaptor setup message).2]
  split
  · exact ⟨fun orderly => ⟨orderly.entries, orderly.requests, orderly.replies⟩, id⟩
  · exact ⟨id, id⟩

section Parts

variable {prompt : TtMessage}
  (concerned : ∀ matter ∈ session.atAdaptor venue, matter.Concerns venue.verifyNode prompt)

include concerned

/-- The next message of the coordinator is received. -/
theorem passes_receive : Passes venue prompt session (session.next venue .receive) := by
  rw [next]
  cases waiting : session.toAdaptor with
  | nil => exact .quiet concerned rfl id fun running => ⟨running, id⟩
  | cons message rest =>
    dsimp only
    split
    · rename_i room
      obtain ⟨phase, dealings⟩ := hear_dealings session.adaptor venue.setup message
      obtain ⟨orderly, made⟩ := hear_keeps session.adaptor venue.setup message
      rw [if_pos room] at dealings
      let left : InteractiveSession td := { session with toAdaptor := rest }
      let moved : InteractiveSession td :=
        { left with adaptor := session.adaptor.next venue.setup (.fromTt message) }
      have acted : left.act venue (.fromTt message) = moved :=
        act_silent (by simp only [left, dealings])
      have kept : moved.atAdaptor venue = session.atAdaptor venue := by
        simp only [atAdaptor, moved, left, dealings, waiting, Dealings.matters,
          filterMap_announced, List.filterMap_append, List.append_assoc]
        rfl
      rw [acted]
      refine ⟨rfl, ⟨[], (List.append_nil _).symm, ?_⟩, orderly, fun running => ⟨?_, made⟩⟩
      · rw [List.map_nil, List.nil_append, kept]
        exact .same concerned
      · intro stopped
        exact running (phase.trans stopped)
    · exact .quiet concerned rfl id fun running => ⟨running, id⟩

/-- A message of another component is received. -/
theorem passes_overhear {message : TtMessage} (quiet : message.type.asks = false) :
    Passes venue prompt session (session.next venue (.overhear message)) := by
  obtain ⟨phase, dealings⟩ := hear_dealings session.adaptor venue.setup message
  obtain ⟨orderly, made⟩ := hear_keeps session.adaptor venue.setup message
  have silent : announced? message = none := announced_quiet quiet
  rw [next, act_silent (by rw [dealings]; split <;> rfl)]
  refine .quiet concerned ?_ orderly fun running => ⟨fun stopped => ?_, made⟩
  · rw [dealings]
    split
    · simp [Dealings.matters, silent]
    · rfl
  · exact running (phase.trans stopped)

/-- A reply is received. -/
theorem passes_reply {reply : UiReply}
    (pressed : ∃ request ∈ session.adaptor.dealings.asked, Presses request reply) :
    Passes venue prompt session (session.next venue (.reply reply)) := by
  obtain ⟨phase, dealings⟩ := reply_dealings session.adaptor venue.setup reply
  rw [next, act_silent (by rw [dealings]; split <;> rfl)]
  refine .quiet concerned ?_ (fun orderly => ?_) fun running => ⟨fun stopped => ?_, fun made => ?_⟩
  · rw [dealings]
    split <;> rfl
  · rw [dealings]
    split
    · refine ⟨orderly.entries, orderly.requests, fun other member => ?_⟩
      rcases List.mem_append.mp member with member | member
      · exact orderly.replies other member
      · rw [List.mem_singleton.mp member]
        exact pressed
    · exact orderly
  · exact running (phase.trans stopped)
  · rw [dealings]
    split <;> exact made

/-- The main thread executes a part of its loop. -/
theorem passes_proceed {circumstances : Circumstances} {testcaseId : Option String}
    (coap : venue.setup.translatorClass = .coap)
    (fresh : session.adaptor.dealings.Fresh circumstances.correlationId)
    (orderly : session.adaptor.dealings.Orderly) (told : prompt.testcaseId = some testcaseId) :
    Passes venue prompt session (session.next venue (.proceed circumstances)) := by
  have deal : Deal venue.setup circumstances session.adaptor
      (session.adaptor.proceed venue.setup circumstances) := Adaptor.proceed_deal coap
  obtain ⟨sent, answered, conserved⟩ := deal.conserves coap fresh orderly told
    fun matter member => concerned matter (List.mem_append_left _ member)
  have kept : session.adaptor.proceed venue.setup circumstances =
      session.adaptor.next venue.setup (.proceed circumstances) := rfl
  have after : (sent.filterMap (·.event? venue.verifyNode)).map Matter.answered ++
      (session.next venue (.proceed circumstances)).atAdaptor venue =
        flow venue.verifyNode sent (session.adaptor.proceed venue.setup circumstances).dealings ++
          session.toAdaptor.filterMap announced? := by
    rw [flow, List.append_assoc]
    rfl
  refine ⟨rfl, ⟨sent.filterMap (·.event? venue.verifyNode), ?_, ?_⟩,
    fun _ => deal.orderly fresh orderly, fun running => ⟨fun stopped => ?_, deal.made running⟩⟩
  · rw [next, act, ← kept, answered, List.drop_left]
  · rw [after]
    constructor
    · intro matter member
      rcases List.mem_append.mp member with member | member
      · exact conserved.concerned matter member
      · exact concerned matter (List.mem_append_right _ member)
    · have bounded := conserved.bounded
      simp only [atAdaptor, List.length_append]
      omega
    · intro running
      have same := conserved.kept running
      simp only [atAdaptor, List.length_append]
      omega
  · have still : (session.adaptor.proceed venue.setup circumstances).phase = .stopped := by
      rw [Adaptor.proceed_stopped stopped, stopped]
    exact running still

end Parts

/-- The question that the coordinator waits for the answer to is in one place, unless the main loop
of the UI adaptor has ended. -/
structure Attended (venue : Venue) (session : InteractiveSession td) : Prop where
  /-- If it waits for no answer, there is no question. -/
  silent : session.coordinator.prompt? = none → session.matters venue = []
  /-- Otherwise there is one question, about what it waits for. -/
  waiting : ∀ prompt, session.coordinator.prompt? = some prompt →
    (∃ matter, session.matters venue = [matter] ∧ matter.Concerns venue.verifyNode prompt) ∨
      session.adaptor.phase = .stopped ∧ session.matters venue = []

/-- How a session stands. -/
inductive Stands (venue : Venue) (session : InteractiveSession td) : Prop
  /-- It is to be configured. -/
  | configuring {sessionId : Option String} {users : Option (List String)}
      {configuration : SessionConfiguration} {listed : List String} :
      session.coordinator.state = .waitingForTestsuiteConfig →
      session.toCoordinator =
        [.sessionConfiguration sessionId users configuration, .testSuiteStart] →
      Handler.sessionTcList (some configuration) = .ok listed → session.atAdaptor venue = [] →
      Stands venue session
  /-- The suite is to be started. -/
  | starting : session.coordinator.state = .waitingForTestsuiteStart →
      session.toCoordinator = [.testSuiteStart] → session.atAdaptor venue = [] → Stands venue session
  /-- The suite has been started. -/
  | begun : session.coordinator.Begun → session.Attended venue → Stands venue session

/-- What every state of a session in which users press buttons is like. -/
structure Proper (venue : Venue) (session : InteractiveSession td) : Prop where
  /-- The coordinator is sound. -/
  sound : Sound venue.upper venue.testsuiteName session.coordinator
  /-- The dealings are orderly. -/
  orderly : session.adaptor.dealings.Orderly
  /-- The requests of pending questions have been made. -/
  made : session.adaptor.phase ≠ .stopped → session.adaptor.dealings.Made
  /-- How it stands. -/
  stands : Stands venue session

/-- Prompts that are published are announced to the UI adaptor. -/
theorem announced_prompts (sent : List Message) :
    (sent.filterMap TtMessage.ofMessage?).filterMap announced? =
      (sent.filterMap Message.prompt?).map Matter.announced := by
  rw [List.filterMap_filterMap, List.map_filterMap]
  congr 1
  funext message
  unfold Message.prompt? announced?
  cases TtMessage.ofMessage? message with
  | none => rfl
  | some read =>
    cases awaited : read.type.awaited <;> simp [Option.filter, awaited]

/-- What is announced when the coordinator has handled an input. -/
theorem handle_atAdaptor {input : Input} {prompts : List TtMessage}
    (asks : session.coordinator.Prompts prompts
      (Coordinator.next venue.upper session.coordinator input)) :
    (session.handle venue input).atAdaptor venue =
      session.atAdaptor venue ++ prompts.map .announced := by
  obtain ⟨sent, bus, rfl⟩ := asks
  have new : (Coordinator.next venue.upper session.coordinator input).bus.drop
      session.coordinator.bus.length = sent := by
    rw [bus, List.drop_left]
  rw [atAdaptor, atAdaptor, handle]
  simp only [new, List.filterMap_append, announced_prompts, List.append_assoc]

/-- Without a question nothing is under way. -/
theorem nothing_atAdaptor (nothing : session.matters venue = []) :
    session.toCoordinator.map Matter.answered = [] ∧ session.atAdaptor venue = [] :=
  List.append_eq_nil_iff.mp ((matters_eq venue session).symm.trans nothing)

/-- The question that is posed is the only one. -/
theorem attended_posed {input : Input}
    (poses : Poses venue.upper session.coordinator input) (nothing : session.matters venue = []) :
    (session.handle venue input).Attended venue := by
  obtain ⟨events, others⟩ := nothing_atAdaptor nothing
  have asked : (session.handle venue input).atAdaptor venue = session.atAdaptor venue ++
      (Coordinator.next venue.upper session.coordinator input).prompt?.toList.map .announced :=
    handle_atAdaptor poses.prompts
  have matters : (session.handle venue input).matters venue =
      (session.handle venue input).coordinator.prompt?.toList.map Matter.announced := by
    have kept : (session.handle venue input).toCoordinator = session.toCoordinator := rfl
    rw [matters_eq, asked, others, kept, events]
    rfl
  constructor
  · intro absent
    rw [matters, absent]
    rfl
  · intro prompt present
    refine .inl ⟨.announced prompt, ?_, rfl⟩
    rw [matters, present]
    rfl

/-- A coordinator that handles an input it survives. -/
theorem Proper.handle {input : Input} (proper : Proper venue session)
    (survives : Survives venue.upper session.coordinator input)
    (fits : session.coordinator.Fits input)
    (present : (Coordinator.next venue.upper session.coordinator input).Waiting →
      (Coordinator.next venue.upper session.coordinator input).testsuite.currentTc ≠ none)
    (rest : List Event)
    (stands : Stands venue ({ session with toCoordinator := rest }.handle venue input)) :
    Proper venue ({ session with toCoordinator := rest }.handle venue input) :=
  ⟨proper.sound.next survives fits present, proper.orderly, proper.made, stands⟩

section Passing

variable {after : InteractiveSession td} {prompt : TtMessage}

/-- Where nothing is asked, nothing comes of it. -/
theorem Passes.silent (passed : Passes venue prompt session after)
    (nothing : session.atAdaptor venue = []) :
    after.toCoordinator = session.toCoordinator ∧ after.atAdaptor venue = [] := by
  obtain ⟨sent, events, conserved⟩ := passed.events
  have bounded := conserved.bounded
  rw [nothing, List.length_append, List.length_map, List.length_nil] at bounded
  have unsent : sent = [] := List.length_eq_zero_iff.mp (by omega)
  have left : after.atAdaptor venue = [] := List.length_eq_zero_iff.mp (by omega)
  exact ⟨by rw [events, unsent, List.append_nil], left⟩

/-- A question that is in one place is in one place afterwards, or the loop has ended. -/
theorem Passes.one (passed : Passes venue prompt session after) {matter : Matter}
    (single : session.matters venue = [matter])
    (concerns : matter.Concerns venue.verifyNode prompt) :
    (∃ other, after.matters venue = [other] ∧ other.Concerns venue.verifyNode prompt) ∨
      after.adaptor.phase = .stopped ∧ after.matters venue = [] := by
  obtain ⟨sent, events, conserved⟩ := passed.events
  have split : after.matters venue = session.toCoordinator.map .answered ++
      (sent.map .answered ++ after.atAdaptor venue) := by
    rw [matters_eq, events, List.map_append, List.append_assoc]
  have about : ∀ other ∈ after.matters venue, other.Concerns venue.verifyNode prompt := by
    intro other member
    rw [split, List.mem_append] at member
    rcases member with member | member
    · have inside : other ∈ session.matters venue := by
        rw [matters_eq]
        exact List.mem_append_left _ member
      rw [single, List.mem_singleton] at inside
      rwa [inside]
    · exact conserved.concerned other member
  have before : (session.toCoordinator.map Matter.answered).length +
      (session.atAdaptor venue).length = 1 := by
    rw [← List.length_append, ← matters_eq, single, List.length_singleton]
  have total : (after.matters venue).length =
      (session.toCoordinator.map Matter.answered).length +
        (sent.map Matter.answered ++ after.atAdaptor venue).length := by
    rw [split, List.length_append]
  have bounded := conserved.bounded
  cases left : after.matters venue with
  | nil =>
    refine .inr ⟨?_, rfl⟩
    by_contra running
    have kept := conserved.kept running
    rw [left, List.length_nil] at total
    omega
  | cons other rest =>
    rw [left, List.length_cons] at total
    have alone : rest = [] := List.length_eq_zero_iff.mp (by omega)
    rw [left] at about
    exact .inl ⟨other, by rw [alone], about other List.mem_cons_self⟩

/-- A loop that has ended does not go on. -/
theorem Passes.ended (passed : Passes venue prompt session after)
    (stopped : session.adaptor.phase = .stopped) : after.adaptor.phase = .stopped := by
  by_contra running
  exact (passed.made running).1 stopped

/-- What follows does so in any way in which a session may stand. -/
theorem Proper.of_passes (proper : Proper venue session) (passed : Passes venue prompt session after)
    (stands : Stands venue after) : Proper venue after := by
  refine ⟨?_, passed.orderly proper.orderly, fun running => ?_, stands⟩
  · rw [passed.coordinator]
    exact proper.sound
  · obtain ⟨before, made⟩ := passed.made running
    exact made (proper.made before)

end Passing

/-- The UI adaptor and the users keep a session proper. -/
theorem Proper.passes (proper : Proper venue session) {after : InteractiveSession td}
    (passes : ∀ (prompt : TtMessage) (testcaseId : Option String),
      prompt.testcaseId = some testcaseId →
      (∀ matter ∈ session.atAdaptor venue, matter.Concerns venue.verifyNode prompt) →
      Passes venue prompt session after) : Proper venue after := by
  -- Where nothing is asked, it may be about any message.
  have idle (nothing : session.atAdaptor venue = []) :
      Passes venue { type := .testCaseReady, testcaseId := some none } session after :=
    passes _ none rfl (by simp [nothing])
  cases proper.stands with
  | configuring state handed lists nothing =>
    have passed := idle nothing
    obtain ⟨events, left⟩ := passed.silent nothing
    refine proper.of_passes passed (.configuring ?_ (events.trans handed) lists left)
    rw [passed.coordinator, state]
  | starting state handed nothing =>
    have passed := idle nothing
    obtain ⟨events, left⟩ := passed.silent nothing
    refine proper.of_passes passed (.starting ?_ (events.trans handed) left)
    rw [passed.coordinator, state]
  | begun begun attended =>
    have later {prompt : TtMessage} (passed : Passes venue prompt session after) :
        after.coordinator.Begun := by
      rw [passed.coordinator]
      exact begun
    cases waits : session.coordinator.prompt? with
    | none =>
      obtain ⟨events, nothing⟩ := nothing_atAdaptor (attended.silent waits)
      have passed := idle nothing
      obtain ⟨same, left⟩ := passed.silent nothing
      refine proper.of_passes passed (.begun (later passed) ⟨fun _ => ?_, fun prompt present => ?_⟩)
      · rw [matters_eq, same, events, left]
        rfl
      · rw [passed.coordinator, waits] at present
        cases present
    | some prompt =>
      obtain ⟨id, told⟩ := (prompted_of_prompt waits).told
      rcases attended.waiting prompt waits with ⟨one, single, concerns⟩ | ⟨stopped, lost⟩
      · have passed := passes prompt (some id) told fun matter member => by
          have inside : matter ∈ session.matters venue := by
            rw [matters_eq]
            exact List.mem_append_right _ member
          rw [single, List.mem_singleton] at inside
          rwa [inside]
        refine proper.of_passes passed (.begun (later passed) ⟨fun absent => ?_,
          fun other present => ?_⟩)
        · rw [passed.coordinator, waits] at absent
          cases absent
        · rw [passed.coordinator, waits] at present
          cases present
          exact passed.one single concerns
      · obtain ⟨events, nothing⟩ := nothing_atAdaptor lost
        have passed := idle nothing
        obtain ⟨same, left⟩ := passed.silent nothing
        have none_left : after.matters venue = [] := by
          rw [matters_eq, same, events, left]
          rfl
        exact proper.of_passes passed (.begun (later passed) ⟨fun _ => none_left,
          fun _ _ => .inr ⟨passed.ended stopped, none_left⟩⟩)

variable {action : Action}

/-- The next event reaches a proper coordinator. -/
theorem Proper.deliver (proper : Proper venue session) (nonempty : 0 < td.size)
    (executable : ∀ i, ∃ step ∈ (td.description i).sequence, step.type.isExecutable = true)
    {services : Services} (readable : ¬ services.Unreadable) {event : Event} {rest : List Event}
    (handed : session.toCoordinator = event :: rest) :
    Proper venue ({ session with toCoordinator := rest }.handle venue (.event event services)) := by
  have coherent := proper.sound.coherent
  cases proper.stands with
  | @configuring sessionId users configuration listed state all lists nothing =>
    rw [handed] at all
    obtain ⟨rfl, rfl⟩ := List.cons.inj all
    obtain ⟨survives, later, prompts⟩ := poses_configured venue.upper services sessionId users
      state (coherent.idle (.inl state)) nonempty lists
    refine proper.handle survives (fits_of_kind (by simp [controlEventsTriggers])) ?_ _ ?_
    · rintro (wrong | wrong) <;> cases later.symm.trans wrong
    · refine .starting later rfl ((handle_atAdaptor prompts).trans ?_)
      exact (List.append_nil _).trans nothing
  | starting state all nothing =>
    rw [handed] at all
    obtain ⟨rfl, rfl⟩ := List.cons.inj all
    obtain ⟨poses, -⟩ := poses_started venue.upper services state
      (coherent.idle (.inr state)) nonempty
    refine proper.handle poses.survives (fits_of_kind (by simp [controlEventsTriggers]))
      poses.present _ (.begun poses.begun (attended_posed poses ?_))
    rw [matters_eq]
    exact nothing
  | begun begun attended =>
    have full : session.matters venue = .answered event ::
        (rest.map .answered ++ session.atAdaptor venue) := by
      rw [matters_eq, handed]
      rfl
    cases waits : session.coordinator.prompt? with
    | none =>
      have nothing := attended.silent waits
      rw [full] at nothing
      cases nothing
    | some prompt =>
      have one := attended.waiting prompt waits
      rw [full] at one
      rcases one with ⟨matter, single, concerns⟩ | ⟨-, wrong⟩
      · obtain ⟨rfl, nothing⟩ := List.cons.inj single
        obtain ⟨poses, fits⟩ := poses_answered proper.sound executable readable
          (prompted_of_prompt waits) concerns
        refine proper.handle poses.survives fits poses.present _
          (.begun poses.begun (attended_posed poses ?_))
        rw [matters_eq]
        exact nothing
      · cases wrong

/-- A test case that is announced or configured was reached by starting the suite. -/
theorem Proper.attended (proper : Proper venue session) (waits : session.coordinator.Waiting) :
    session.coordinator.Begun ∧ session.Attended venue := by
  cases proper.stands with
  | configuring state _ _ _ | starting state _ _ =>
    rcases waits with wrong | wrong <;> cases state.symm.trans wrong
  | begun begun attended => exact ⟨begun, attended⟩

/-- An agent reports that a node is configured. -/
theorem Proper.configured (proper : Proper venue session) (waits : session.coordinator.Waiting)
    {event : Event} (report : AutomatedSession.IsConfiguration event) (services : Services) :
    Proper venue (session.handle venue (.event event services)) := by
  obtain ⟨begun, attended⟩ := proper.attended waits
  obtain ⟨i, current⟩ := Option.ne_none_iff_exists'.mp (proper.sound.present waits)
  have fits : session.coordinator.Fits (.event event services) := by
    obtain ⟨node, address, -, rfl⟩ := report
    exact fits_of_kind (by simp [controlEventsTriggers])
  rcases poses_report venue.upper services report waits current with
    ⟨silent, poses⟩ | ⟨survives, state, turn, same, bus⟩
  · exact proper.handle poses.survives fits poses.present session.toCoordinator
      (.begun poses.begun (attended_posed poses (attended.silent silent)))
  · have quiet : session.coordinator.Prompts []
        (Coordinator.next venue.upper session.coordinator (.event event services)) :=
      ⟨[], by rw [bus, List.append_nil], rfl⟩
    have kept : (session.handle venue (.event event services)).matters venue =
        session.matters venue := by
      rw [matters_eq, matters_eq, handle_atAdaptor quiet, List.map_nil, List.append_nil]
      rfl
    have still : (session.handle venue (.event event services)).Attended venue := by
      constructor
      · intro absent
        rw [kept]
        exact attended.silent (same.symm.trans absent)
      · intro prompt present
        rw [kept]
        exact attended.waiting prompt (same.symm.trans present)
    refine proper.handle survives fits (fun _ => by simp [turn]) session.toCoordinator
      (.begun (fun early => begun ?_) still)
    rw [Coordinator.Setup, ← state]
    exact early

/-- The time for the configuration has expired. -/
theorem Proper.timeout (proper : Proper venue session)
    (state : session.coordinator.state = .waitingForIutConfigurationExecuted) :
    Proper venue (session.handle venue .timeout) := by
  obtain ⟨-, attended⟩ := proper.attended (.inl state)
  obtain ⟨i, current⟩ := Option.ne_none_iff_exists'.mp (proper.sound.present (.inl state))
  have poses : Poses venue.upper session.coordinator .timeout := poses_timeout _ state current
  have silent : session.coordinator.prompt? = none := by simp [prompt?, state]
  exact proper.handle poses.survives trivial poses.present session.toCoordinator
    (.begun poses.begun (attended_posed poses (attended.silent silent)))

/-- **Every step of a session keeps it proper.** -/
theorem Proper.next (coap : venue.setup.translatorClass = .coap) (nonempty : 0 < td.size)
    (executable : ∀ i, ∃ step ∈ (td.description i).sequence, step.type.isExecutable = true)
    (proper : Proper venue session) (allowed : session.Allowed action) :
    Proper venue (session.next venue action) := by
  cases action with
  | deliver services =>
    rw [InteractiveSession.next]
    cases handed : session.toCoordinator with
    | nil => exact proper
    | cons event rest => exact proper.deliver nonempty executable allowed handed
  | configured event services => exact proper.configured allowed.1 allowed.2 services
  | timeout => exact proper.timeout allowed
  | receive => exact proper.passes fun _ _ _ concerned => passes_receive concerned
  | overhear message => exact proper.passes fun _ _ _ concerned => passes_overhear concerned allowed
  | reply reply => exact proper.passes fun _ _ _ concerned => passes_reply concerned allowed
  | proceed circumstances =>
    exact proper.passes fun _ _ told concerned =>
      passes_proceed concerned coap allowed proper.orderly told
  | interrupt =>
    refine proper.passes fun _ _ _ concerned => ?_
    rw [InteractiveSession.next, act_silent rfl]
    exact .quiet concerned rfl id fun running => absurd rfl running

/-- What the UI adaptor hands over makes a session. -/
theorem initial_proper (venue : Venue) (td : TestDescriptions) (mapping : RoleMapping)
    {sessionId : Option String} {users : Option (List String)}
    {configuration : SessionConfiguration} {listed : List String}
    (lists : Handler.sessionTcList (some configuration) = .ok listed) :
    Proper venue (initial venue td mapping
      [.sessionConfiguration sessionId users configuration, .testSuiteStart]) := by
  have state : (Coordinator.initial venue.upper td venue.testsuiteName).state =
      .waitingForTestsuiteConfig := by
    rw [initial_eq]
    rfl
  refine ⟨⟨.init, initial_nothingPassed, ?_⟩, ⟨?_, ?_, ?_⟩, ?_, .configuring state rfl lists rfl⟩
  · rintro (wrong | wrong) <;> cases state.symm.trans wrong
  · intro id entry found
    cases found
  · intro request member
    cases member
  · intro reply member
    cases member
  · intro _ id entry found
    cases found

open StartupTask

/-- Where the session of Alice is held. -/
def aliceVenue : Venue where
  upper := id
  testsuiteName := "coap"
  setup := .plain
  verifyNode := none

/-- What the UI adaptor of Alice enters its loop with. -/
def aliceLoop : RoleMapping × List String :=
  (loop? (started quietStart aliceAlone .coap)).getD (.empty, [])

/-- The adaptor enters the loop of Alice. -/
theorem aliceLoop_looping : loop? (started quietStart aliceAlone .coap) =
    some (aliceLoop.1, aliceLoop.2) := by
  have entered : (loop? (started quietStart aliceAlone .coap)).isSome = true := by decide +kernel
  obtain ⟨loop, same⟩ := Option.isSome_iff_exists.mp entered
  rw [aliceLoop, same]
  rfl

/-- The actions until the first test case is announced. -/
def aliceActions : List Action := [.deliver noServices, .deliver noServices, .timeout]

/-- The session of Alice at this point. -/
def aliceAsked : InteractiveSession smallSuite :=
  aliceActions.foldl (next aliceVenue)
    (initial aliceVenue smallSuite aliceLoop.1
      (finalState (started quietStart aliceAlone .coap)).events)

/-- The services do not answer, and the time for the configuration expires. -/
def Unattended (session : InteractiveSession smallSuite) : Action → Prop
  | .deliver services => services = noServices
  | .timeout => session.coordinator.state = .waitingForIutConfigurationExecuted
  | _ => False

/-- Whether an action is unattended is decided action by action. -/
instance (session : InteractiveSession smallSuite) : DecidablePred (Unattended session)
  | .deliver _ | .timeout => inferInstanceAs (Decidable (_ = _))
  | .receive | .overhear _ | .reply _ | .proceed _ | .interrupt | .configured .. =>
    inferInstanceAs (Decidable False)

/-- The question to Alice is reached. -/
theorem aliceAsked_reached : Reached aliceVenue smallSuite aliceLoop.1
    (finalState (started quietStart aliceAlone .coap)).events aliceAsked := by
  have run : Runs.AllAllowed (next aliceVenue) Unattended
      (initial aliceVenue smallSuite aliceLoop.1
        (finalState (started quietStart aliceAlone .coap)).events) aliceActions := by
    decide +kernel
  refine run.reachable.mono fun session action allowed => ?_
  cases action with
  | deliver services =>
    have silent : services = noServices := allowed
    rw [silent]
    exact AutomatedSession.noServices_readable
  | timeout => exact allowed
  | _ => exact allowed.elim

end InteractiveSession

end Ioppytest
