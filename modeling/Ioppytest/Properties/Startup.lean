import Ioppytest.Properties.UserAddressing
import Ioppytest.TestCoordinator.Settings
import Ioppytest.UiAdaptor.Startup

/-!
# The handover of a session

Before the UI adaptor enters its loop it hands the session over to the coordinator: one session
configuration and then the start of the suite, whatever the UI and the testing tool answer. The
coordinator that receives them asks for the configuration of the first test case that is selected.
-/

namespace Ioppytest.UiAdaptor

open PyString Raising

/-- The events that have been published, in order. -/
def Startup.events (startup : Startup) : List Event := startup.bus.filterMap StartupMessage.event?

/-- The event of a session configuration. -/
def MsgSessionConfiguration.event (message : MsgSessionConfiguration) : Event :=
  .sessionConfiguration message.sessionId message.users message.configuration

/-- The events by which the translator of a test suite starts it. -/
def SuiteName.starts : SuiteName → List Event
  | .coap | .onem2m | .comi | .lwm2m | .sixLowpan => [.testSuiteStart]
  | .dummy | .wot => []

/-- How often the translator of a test suite asks the UI who is online. -/
def SuiteName.lookups : SuiteName → Nat
  | .coap | .onem2m | .comi | .lwm2m => 1
  | .dummy | .sixLowpan | .wot => 0

namespace Surroundings

variable (surroundings : Surroundings)

/-- The testing tool answers one of the next requests for the test cases, and the ones before time
out. -/
def ReadyWithin (first retries : Nat) : Prop :=
  ∃ k < retries, surroundings.testingTool (first + k) = .ok () ∧
    ∀ j < k, surroundings.testingTool (first + j) = .error .amqpSynchCallTimeoutError

/-- A message says what the UI has answered to the last of some requests. -/
def Answered (polls : Nat) (message : MsgSessionConfiguration) : Prop :=
  ∃ n resp, polls = n + 1 ∧ (surroundings.ui.sessionConfiguration n).bind validated = .ok resp ∧
    resp.id = some message.sessionId ∧ resp.testSuite = some message.testingTools ∧
    resp.users = some message.users ∧ message.configuration = surroundings.configuration n

/-- The UI does not answer the last of some requests, or not well. -/
def Unanswered (polls : Nat) : Prop :=
  ∃ n exception, polls = n + 1 ∧
    (surroundings.ui.sessionConfiguration n).bind validated = .error exception

/-- The default configuration. -/
def defaultConfiguration : MsgSessionConfiguration where
  sessionId := "666"
  configuration := ⟨none, []⟩
  testingTools := ""
  users := some []

/-- The session configuration that the testing tool gets: what the UI has answered if the testing tool
is up in time, and the default one if it is not or the UI fails. -/
def Configures (polls : Nat) (message : MsgSessionConfiguration) : Prop :=
  (surroundings.ReadyWithin 0 5 ∧ surroundings.Answered polls message) ∨
    (message = defaultConfiguration ∧ (surroundings.ReadyWithin 0 5 → surroundings.Unanswered polls))

/-- What is handed over for a test suite once the UI has been asked a number of times: for the Web of
Things nothing, otherwise a session configuration and then the start. Only the translator asks the UI
after the testing tool has been configured. -/
def HandsOver (suite : SuiteName) (polls : Nat) (events : List Event) : Prop :=
  if suite = .wot then events = []
  else ∃ configured message, configured + suite.lookups = polls ∧
    surroundings.Configures configured message ∧ events = message.event :: suite.starts

/-- The events that are sent by the time the start has ended: all if the loop is entered, which then
listens to all users that have a role, none if the adaptor gives up, and some of them if an exception
ends it. -/
def Hands (suite : SuiteName) (polls : Nat) : Except PyException StartupEnd → List Event → Prop
  | .ok (.looping mapping uiReplyTopics _), events =>
    surroundings.HandsOver suite polls events ∧ uiReplyTopics = Publisher.uiReplyTopics mapping
  | .ok _, events => events = []
  | .error _, events => events = [] ∨ ∃ all, surroundings.HandsOver suite polls all ∧ events <+: all

variable {surroundings}

/-- One request more. -/
theorem readyWithin_succ {first retries : Nat} :
    surroundings.ReadyWithin first (retries + 1) ↔
      surroundings.testingTool first = .ok () ∨
        (surroundings.testingTool first = .error .amqpSynchCallTimeoutError ∧
          surroundings.ReadyWithin (first + 1) retries) := by
  constructor
  · rintro ⟨k, bounded, ready, before⟩
    cases k with
    | zero => exact .inl ready
    | succ k =>
      have later (j : Nat) : first + 1 + j = first + (j + 1) := by omega
      refine .inr ⟨before 0 (by omega), k, by omega, ?_, fun j earlier => ?_⟩
      · rw [later]
        exact ready
      · rw [later]
        exact before (j + 1) (by omega)
  · rintro (ready | ⟨late, k, bounded, ready, before⟩)
    · exact ⟨0, by omega, ready, fun j earlier => by omega⟩
    · have later (j : Nat) : first + (j + 1) = first + 1 + j := by omega
      refine ⟨k + 1, by omega, ?_, fun j earlier => ?_⟩
      · rw [later]
        exact ready
      · cases j with
        | zero => exact late
        | succ j =>
          rw [later]
          exact before j (by omega)

end Surroundings

namespace StartupTask

variable {α : Type} {setup : StartupSetup} {surroundings : Surroundings} {suite : SuiteName}

/-- Tasks for the UI hand nothing over. -/
theorem silent_ofUi (task : UiTask α) : Silent Startup.events (ofUi task) := by
  intro startup
  have apart (publications : List Publication) :
      (publications.map StartupMessage.ui).filterMap StartupMessage.event? = [] := by
    rw [List.filterMap_map]
    exact List.filterMap_eq_nil_iff.mpr fun _ _ => rfl
  rw [finalState_ofUi, told, Startup.events, List.filterMap_append, apart, List.append_nil]
  rfl

/-- A task for the UI that asks it a number of times. -/
theorem ofUi_sends {task : UiTask α} {polls : Nat} (asks : ∀ conversation,
    (finalState (task.run conversation)).polls = conversation.polls + polls) :
    Sends Startup.events (ofUi task) fun before _ events after =>
      events = [] ∧ after.polls = before.polls + polls := by
  intro startup
  obtain ⟨events, sent, nothing⟩ := (silent_ofUi task).sends startup
  refine ⟨events, sent, nothing, ?_⟩
  rw [finalState_ofUi]
  exact asks _

/-- A task that does not ask the UI for the session configuration. -/
theorem ofUi_silent {task : UiTask α} (silent : Silent Conversation.polls task) :
    Sends Startup.events (ofUi task) fun before _ events after =>
      events = [] ∧ after.polls = before.polls := by
  have never (conversation : Conversation) :
      (finalState (task.run conversation)).polls = conversation.polls + 0 := silent conversation
  exact ofUi_sends never

/-- What publishing hands over. -/
theorem publish_sends {messages : List StartupMessage} {events : List Event}
    (same : messages.filterMap StartupMessage.event? = events) :
    Sends Startup.events (publish messages) fun before result sent after =>
      result = .ok () ∧ sent = events ∧ after.polls = before.polls :=
  Sends.change (fun startup => by simp [Startup.events, List.filterMap_append, same])
    fun _ => ⟨rfl, rfl, rfl⟩

/-- The testing tool is found exactly if it answers in time. -/
theorem waitForTestingToolReady_sends (maxRetries retriesLeft : Nat)
    (bounded : retriesLeft ≤ maxRetries) :
    Sends Startup.events (waitForTestingToolReady surroundings.testingTool maxRetries retriesLeft)
      fun before result events after => events = [] ∧ after.polls = before.polls ∧ (result = .ok () ↔
        surroundings.ReadyWithin (maxRetries - retriesLeft) retriesLeft) := by
  induction retriesLeft with
  | zero =>
    refine Sends.raise fun _ => ⟨rfl, rfl, iff_of_false (fun same => by cases same) ?_⟩
    rintro ⟨k, none, -⟩
    omega
  | succ retriesLeft ih =>
    have next : maxRetries - (retriesLeft + 1) + 1 = maxRetries - retriesLeft := by omega
    simp only [Surroundings.readyWithin_succ, next]
    refine (publish_sends rfl).seq (fun _ before result events after => events = [] ∧
      after.polls = before.polls ∧ (result = .ok () ↔
        surroundings.testingTool (maxRetries - (retriesLeft + 1)) = .ok () ∨
          surroundings.testingTool (maxRetries - (retriesLeft + 1)) =
            .error .amqpSynchCallTimeoutError ∧
          surroundings.ReadyWithin (maxRetries - retriesLeft) retriesLeft)) (fun _ => ?_) ?_ ?_
    · cases answer : surroundings.testingTool (maxRetries - (retriesLeft + 1)) with
      | ok _ => exact Sends.value fun _ => ⟨rfl, rfl, by simp⟩
      | error exception =>
        cases exception with
        | amqpSynchCallTimeoutError =>
          refine (ih (by omega)).mono ?_
          rintro before result events after ⟨rfl, same, found⟩
          exact ⟨rfl, same, found.trans (by simp)⟩
        | _ => exact Sends.raise fun _ => ⟨rfl, rfl, by simp⟩
    · rintro before exception events after ⟨returned, -⟩
      cases returned
    · rintro before _ _ between result events after ⟨-, rfl, asked⟩ ⟨rfl, same, found⟩
      exact ⟨rfl, same.trans asked, found⟩

/-- The UI is asked once. -/
theorem ofUi_getSessionConfigurationFromUi_run (ui : Ui) (startup : Startup) :
    (ofUi (UiTask.getSessionConfigurationFromUi ui)).run startup =
      (lift ((ui.sessionConfiguration startup.polls).bind validated)).run
        { startup with polls := startup.polls + 1 } := by
  have once : (UiTask.getSessionConfigurationFromUi ui).run ⟨startup.polls, []⟩ =
      (lift ((ui.sessionConfiguration startup.polls).bind validated)).run
        ⟨startup.polls + 1, []⟩ := rfl
  cases answer : (ui.sessionConfiguration startup.polls).bind validated with
  | ok resp =>
    rw [answer] at once
    rw [ofUi_ok once]
    simp [told]
  | error exception =>
    rw [answer] at once
    rw [ofUi_error once]
    simp [told]

/-- An answer of the UI that is accepted has the keys that are read. -/
theorem validated_keys {resp : Option UiSessionConfiguration} {accepted : UiSessionConfiguration}
    (valid : validated resp = .ok accepted) :
    accepted.id.isSome ∧ accepted.configuration.isSome ∧ accepted.testSuite.isSome ∧
      accepted.users.isSome := by
  unfold validated at valid
  split at valid
  · cases valid
  · split at valid
    · cases valid
    · split at valid
      · rename_i keys
        cases valid
        exact keys
      · cases valid

/-- A session configuration that is sent is what the UI has answered to one more request. -/
theorem configureTestingTool_sends : Sends Startup.events (configureTestingTool surroundings)
    fun _ result events after =>
      (∃ message, result = .ok () ∧ surroundings.Answered after.polls message ∧
        events = [message.event]) ∨
      (∃ exception, result = .error exception ∧ surroundings.Unanswered after.polls ∧ events = []) := by
  intro startup
  unfold configureTestingTool
  rw [EStateM.run_bind, EStateM.run_get]
  dsimp only
  rw [EStateM.run_bind, ofUi_getSessionConfigurationFromUi_run]
  cases answer : (surroundings.ui.sessionConfiguration startup.polls).bind validated with
  | error exception =>
    exact ⟨[], (List.append_nil _).symm, .inr ⟨exception, rfl, ⟨_, _, rfl, answer⟩, rfl⟩⟩
  | ok resp =>
    have keys : ∃ raw, validated raw = .ok resp := by
      cases polled : surroundings.ui.sessionConfiguration startup.polls with
      | error exception => simp [polled, Except.bind] at answer
      | ok raw => exact ⟨raw, by simpa [polled, Except.bind] using answer⟩
    obtain ⟨raw, valid⟩ := keys
    obtain ⟨hasId, hasConfiguration, hasTestSuite, hasUsers⟩ := validated_keys valid
    obtain ⟨id, known⟩ := Option.isSome_iff_exists.mp hasId
    obtain ⟨configuration, given⟩ := Option.isSome_iff_exists.mp hasConfiguration
    obtain ⟨testSuite, named⟩ := Option.isSome_iff_exists.mp hasTestSuite
    obtain ⟨users, listed⟩ := Option.isSome_iff_exists.mp hasUsers
    let message : MsgSessionConfiguration :=
      ⟨id, surroundings.configuration startup.polls, testSuite, users⟩
    refine ⟨[message.event], ?_, .inl ⟨message, ?_,
      ⟨startup.polls, resp, ?_, answer, known, named, listed, rfl⟩, rfl⟩⟩
    · simp [known, given, named, listed, publish, Startup.events, message,
        MsgSessionConfiguration.event, StartupMessage.event?]
    · simp [known, given, named, listed, publish, outcome]
    · simp [known, given, named, listed, publish]

/-- The testing tool is configured, in one way or the other. -/
theorem configureWhenReady_sends : Sends Startup.events (configureWhenReady surroundings)
    fun _ result events after => result = .ok () ∧
      ∃ message, surroundings.Configures after.polls message ∧ events = [message.event] := by
  have tried : Sends Startup.events (do
      waitForTestingToolReady surroundings.testingTool 5 5
      configureTestingTool surroundings)
      fun _ result events after =>
        (∃ message, result = .ok () ∧ surroundings.Configures after.polls message ∧
          events = [message.event]) ∨
        (∃ exception, result = .error exception ∧
          (surroundings.ReadyWithin 0 5 → surroundings.Unanswered after.polls) ∧ events = []) := by
    refine (waitForTestingToolReady_sends 5 5 (by omega)).seq _
      (fun _ => configureTestingTool_sends) ?_ ?_
    · rintro _ exception _ after ⟨rfl, -, found⟩
      refine .inr ⟨exception, rfl, fun ready => ?_, rfl⟩
      cases found.mpr ready
    · rintro _ _ _ _ result later after ⟨rfl, -, found⟩ configured
      have ready : surroundings.ReadyWithin 0 5 := found.mp rfl
      rcases configured with ⟨message, returned, answered, rfl⟩ | ⟨exception, raised, failed, rfl⟩
      · exact .inl ⟨message, returned, .inl ⟨ready, answered⟩, rfl⟩
      · exact .inr ⟨exception, raised, fun _ => failed, rfl⟩
  refine tried.attempted.seq
    (fun value before result later after => result = .ok () ∧ after.polls = before.polls ∧
      ((∃ exception, value = .error exception) ∧ later = [Surroundings.defaultConfiguration.event] ∨
        value = .ok () ∧ later = [])) ?_ ?_ ?_
  · intro value
    cases value with
    | ok _ => exact Sends.value fun _ => ⟨rfl, rfl, .inr ⟨rfl, rfl⟩⟩
    | error exception =>
      refine (publish_sends rfl).mono ?_
      rintro before result later after ⟨returned, sent, same⟩
      exact ⟨returned, same, .inl ⟨⟨exception, rfl⟩, sent⟩⟩
  · rintro _ exception messages _ ⟨value, returned, -⟩
    cases returned
  · rintro _ value earlier between result later after ⟨_, same, attempted⟩ ⟨returned, polls, defaulted⟩
    cases same
    refine ⟨returned, ?_⟩
    rw [polls]
    rcases attempted with ⟨message, rfl, configures, rfl⟩ | ⟨exception, rfl, failed, rfl⟩
    · rcases defaulted with ⟨⟨exception, raised⟩, -⟩ | ⟨-, rfl⟩
      · cases raised
      · exact ⟨message, configures, rfl⟩
    · rcases defaulted with ⟨-, rfl⟩ | ⟨raised, -⟩
      · exact ⟨_, .inr ⟨rfl, failed⟩, rfl⟩
      · cases raised

/-- The suite is started, unless an exception comes first. -/
theorem bootstrap_sends (mapping : RoleMapping) :
    Sends Startup.events (bootstrap setup surroundings.ui mapping suite)
      fun before result events after => (result = .ok () → events = suite.starts) ∧
        (events = [] ∨ events = suite.starts) ∧ after.polls = before.polls + suite.lookups := by
  have connected : Sends Startup.events (do
      let users ← ofUi (UiTask.connectAgents setup surroundings.ui mapping (suite.iutRoles setup))
      publish [.testSuiteStart]
      ofUi (UiTask.testAgents setup mapping (suite.iutRoles setup) users))
      fun before result events after => (result = .ok () → events = [.testSuiteStart]) ∧
        (events = [] ∨ events = [.testSuiteStart]) ∧ after.polls = before.polls + 1 := by
    have begun (users : List String) : Sends Startup.events (do
        publish [.testSuiteStart]
        ofUi (UiTask.testAgents setup mapping (suite.iutRoles setup) users))
        fun before _ events after => events = [.testSuiteStart] ∧ after.polls = before.polls := by
      refine (publish_sends rfl).seq _ (fun _ => ofUi_silent UiTask.testAgents_silent) ?_ ?_
      · rintro _ exception _ _ ⟨returned, -⟩
        cases returned
      · rintro _ _ _ _ result _ after ⟨-, rfl, same⟩ ⟨rfl, again⟩
        exact ⟨rfl, again.trans same⟩
    refine (ofUi_sends (UiTask.connectAgents_polls setup surroundings.ui mapping _)).seq _ begun ?_ ?_
    · rintro _ exception _ after ⟨rfl, once⟩
      exact ⟨(fun returned => by cases returned), .inl rfl, once⟩
    · rintro _ _ _ _ result _ after ⟨rfl, once⟩ ⟨rfl, same⟩
      exact ⟨fun _ => rfl, .inr rfl, same.trans once⟩
  have nothing (snippets : List Publication) :
      (snippets.map StartupMessage.ui).filterMap StartupMessage.event? = [] := by
    rw [List.filterMap_map]
    exact List.filterMap_eq_nil_iff.mpr fun _ _ => rfl
  have tunnels (agents : List DefaultAddress) : (agents.map fun agent =>
      StartupMessage.agentTunStart agent.node agent.ipv6Prefix agent.ipv6Host).filterMap
        StartupMessage.event? = [] := by
    rw [List.filterMap_map]
    exact List.filterMap_eq_nil_iff.mpr fun _ _ => rfl
  cases suite with
  | coap | onem2m | comi | lwm2m => exact connected
  | dummy =>
    refine (publish_sends (nothing _)).mono ?_
    rintro _ result _ after ⟨-, rfl, same⟩
    exact ⟨fun _ => rfl, .inl rfl, same⟩
  | sixLowpan =>
    refine (ofUi_silent UiTask.connectProbes_silent).seq _ (fun _ => publish_sends rfl) ?_ ?_
    · rintro _ exception _ after ⟨rfl, same⟩
      exact ⟨(fun returned => by cases returned), .inl rfl, same⟩
    · rintro _ _ _ _ result _ after ⟨rfl, same⟩ ⟨-, rfl, again⟩
      exact ⟨fun _ => rfl, .inr rfl, again.trans same⟩
  | wot =>
    have tunnelled : Sends Startup.events (do
        bootstrapAllTunInterfaces setup.wotConfig.defaultAddressing
        ofUi (UiTask.publishUiDisplay setup mapping UiTask.uiTagAgentConnect
          ["bootstrapping agent(s) interface.."]))
        fun before _ events after => events = [] ∧ after.polls = before.polls := by
      refine (publish_sends (tunnels _)).seq _
        (fun _ => ofUi_silent UiTask.publishUiDisplay_silent) ?_ ?_
      · rintro _ exception _ after ⟨-, rfl, same⟩
        exact ⟨rfl, same⟩
      · rintro _ _ _ _ result _ after ⟨-, rfl, same⟩ ⟨rfl, again⟩
        exact ⟨rfl, again.trans same⟩
    refine (ofUi_silent UiTask.welcome_silent).seq _ (fun _ => tunnelled) ?_ ?_
    · rintro _ exception _ after ⟨rfl, same⟩
      exact ⟨(fun returned => by cases returned), .inl rfl, same⟩
    · rintro _ _ _ _ result _ after ⟨rfl, same⟩ ⟨rfl, again⟩
      exact ⟨fun _ => rfl, .inl rfl, again.trans same⟩

/-- Entering the loop. -/
theorem enterLoop_sends (mapping : RoleMapping) (onlineUsers : List String) :
    Sends Startup.events (enterLoop setup surroundings suite mapping mapping onlineUsers)
      fun before result events after => after.polls = before.polls + suite.lookups ∧
        ((result = .ok (.looping mapping (Publisher.uiReplyTopics mapping) onlineUsers) ∧
          events = suite.starts) ∨
        ((∃ exception, result = .error exception) ∧ (events = [] ∨ events = suite.starts))) := by
  have everyone : Publisher.replyTopic "all" = "ui.user.all.reply" := rfl
  refine (bootstrap_sends mapping).seq (fun _ before result later after =>
    result = .ok (.looping mapping (Publisher.uiReplyTopics mapping) onlineUsers) ∧ later = [] ∧
      after.polls = before.polls) (fun _ => Sends.value fun _ => ⟨?_, rfl, rfl⟩) ?_ ?_
  · rw [Publisher.uiReplyTopics, everyone]
    rfl
  · rintro _ exception events after ⟨-, some_events, looked⟩
    exact ⟨looked, .inr ⟨⟨exception, rfl⟩, some_events⟩⟩
  · rintro _ _ earlier _ result _ after ⟨returned, -, looked⟩ ⟨looping, rfl, same⟩
    rw [List.append_nil]
    exact ⟨same.trans looked, .inl ⟨looping, returned rfl⟩⟩

/-- The testing tool is configured, and the loop entered. -/
theorem handOver_sends (session : suite ≠ .wot) (mapping : RoleMapping) (onlineUsers : List String) :
    Sends Startup.events (do
      configureWhenReady surroundings
      enterLoop setup surroundings suite mapping mapping onlineUsers)
      fun _ result events after => surroundings.Hands suite after.polls result events := by
  refine configureWhenReady_sends.seq _ (fun _ => enterLoop_sends mapping onlineUsers) ?_ ?_
  · rintro _ exception events _ ⟨returned, -⟩
    cases returned
  · rintro _ _ _ between result _ after ⟨-, message, configures, rfl⟩ ⟨looked, entered⟩
    have handsOver : surroundings.HandsOver suite after.polls (message.event :: suite.starts) := by
      rw [Surroundings.HandsOver, if_neg session]
      exact ⟨between.polls, message, looked.symm, configures, rfl⟩
    rcases entered with ⟨rfl, rfl⟩ | ⟨⟨exception, rfl⟩, rfl | rfl⟩
    · exact ⟨handsOver, rfl⟩
    · exact .inr ⟨_, handsOver, by simp⟩
    · exact .inr ⟨_, handsOver, List.prefix_rfl⟩

/-- After an error the default roles are used. -/
theorem handOver_displayed (session : suite ≠ .wot) (text : String) (exception : PyException)
    (onlineUsers : List String) :
    Sends Startup.events (do
      displayError setup text exception
      configureWhenReady surroundings
      enterLoop setup surroundings suite .empty .empty onlineUsers)
      fun _ result events after => surroundings.Hands suite after.polls result events :=
  (silent_ofUi _).andThen (fun _ => handOver_sends session _ _) fun _ _ => .inl rfl

/-- What `main` hands over by the time it enters its loop or ends, from any state. -/
theorem main_sends (setup : StartupSetup) (surroundings : Surroundings) (suite : SuiteName) :
    Sends Startup.events (main setup surroundings suite)
      fun _ result events after => surroundings.Hands suite after.polls result events := by
  refine (silent_ofUi _).attempted.andThen ?_ fun _ _ => .inl rfl
  intro asked
  cases asked with
  | error exception =>
    cases exception with
    | amqpSynchCallTimeoutError => exact Sends.value fun _ => rfl
    | _ => exact Sends.raise fun _ => .inl rfl
  | ok sessionConfiguration =>
    refine (silent_ofUi _).andThen ?_ fun _ _ => .inl rfl
    intro onlineUsers
    by_cases things : suite = .wot
    · subst things
      refine (enterLoop_sends .empty onlineUsers).mono ?_
      rintro _ result events after ⟨-, ⟨rfl, rfl⟩ | ⟨⟨exception, rfl⟩, nothing | nothing⟩⟩
      · rw [Surroundings.Hands, Surroundings.HandsOver, if_pos rfl]
        exact ⟨rfl, rfl⟩
      · exact .inl nothing
      · exact .inl nothing
    · simp only [if_neg things]
      refine (silent_ofUi _).attempted.andThen ?_ fun _ _ => .inl rfl
      intro assigned
      cases assigned with
      | ok mapping =>
        simp only [OrderedDict.update_empty]
        exact handOver_sends things mapping onlineUsers
      | error exception =>
        cases exception with
        | amqpSynchCallTimeoutError => exact handOver_displayed things _ _ onlineUsers
        | uiResponseError message => exact handOver_displayed things _ _ onlineUsers
        | sessionError message =>
          exact (silent_ofUi _).andThen (fun _ => Sends.value fun _ => rfl) fun _ _ => .inl rfl
        | _ => exact Sends.raise fun _ => .inl rfl

/-- What `main` comes to. -/
def started (setup : StartupSetup) (surroundings : Surroundings) (suite : SuiteName) :
    EStateM.Result PyException Startup StartupEnd :=
  (main setup surroundings suite).run {}

/-- The mapping of roles and the topics with which the loop is entered, if it is. -/
def loop? (result : EStateM.Result PyException Startup StartupEnd) :
    Option (RoleMapping × List String) :=
  match result with
  | .ok (.looping mapping uiReplyTopics _) _ => some (mapping, uiReplyTopics)
  | _ => none

/-- What is handed over when the loop is entered. -/
theorem looping_hands {mapping : RoleMapping} {topics : List String}
    (looping : loop? (started setup surroundings suite) = some (mapping, topics)) :
    surroundings.HandsOver suite (finalState (started setup surroundings suite)).polls
        (finalState (started setup surroundings suite)).events ∧
      topics = Publisher.uiReplyTopics mapping := by
  obtain ⟨events, sent, handed⟩ := main_sends setup surroundings suite {}
  have nothing : Startup.events {} = [] := rfl
  rw [nothing, List.nil_append, ← started] at sent
  rw [← started] at handed
  rw [sent]
  unfold loop? at looping
  split at looping
  · rename_i result
    rw [result] at handed
    cases looping
    rw [result]
    exact handed
  · cases looping

/-- **The UI adaptor hands a session over once and completely, or not at all**, unless an exception
ends it in between: whatever the UI and the testing tool answer, and however long they take. The
session configuration is what the UI has answered to the last request before the translator begins. -/
theorem handed_over (setup : StartupSetup) (surroundings : Surroundings) (suite : SuiteName) :
    surroundings.Hands suite (finalState (started setup surroundings suite)).polls
      (outcome (started setup surroundings suite))
      (finalState (started setup surroundings suite)).events := by
  obtain ⟨events, sent, handed⟩ := main_sends setup surroundings suite {}
  have nothing : Startup.events {} = [] := rfl
  rw [nothing, List.nil_append] at sent
  rw [started, sent]
  exact handed

end StartupTask

end Ioppytest.UiAdaptor

namespace Ioppytest

open Raising Runs

variable {td : TestDescriptions}

namespace Coordinator

/-- A session configuration chooses a test case: it lists it, or it lists none. -/
def Chooses (upper : String → String) (configuration : SessionConfiguration) (i : Fin td.size) : Prop :=
  ∃ requested, requestedTcs td (some configuration) = .ok requested ∧ td.id i ∈ requested.map upper

/-- The session has begun with the first of some test cases; without one it is over. -/
def BeginsWith (chosen : Fin td.size → Prop) (c : Coordinator td) : Prop :=
  (c.state = .waitingForIutConfigurationExecuted ∧
    ∃ i, c.testsuite.currentTc = some i ∧ chosen i ∧ ∀ j < i, ¬ chosen j) ∨
  (c.state = .testsuiteFinished ∧ ∀ i, ¬ chosen i)

/-- What the coordinator knows about a session is announced. -/
def Announces (c : Coordinator td) (identity : Identity) : Prop :=
  ∃ configuration : TestsuiteConfiguration, .testingToolConfigured configuration ∈ c.bus ∧
    configuration.sessionId = identity.sessionId ∧ configuration.users = identity.users ∧
    configuration.configuration = identity.configuration

variable {upper : String → String} {c : Coordinator td}

/-- The first pending test case is configured, or the session ends. -/
theorem proceed_begins {chosen : Fin td.size → Prop}
    (pending : ∀ i, (c.testsuite.testcase i).state = none ↔ chosen i) : c.proceed.BeginsWith chosen := by
  unfold proceed
  cases found : c.testsuite.pending with
  | some i =>
    have first := TestSuite.pending_eq_some.mp found
    exact .inl ⟨rfl, i, rfl, (pending i).mp first.1,
      fun j earlier chosen => first.2 j earlier ((pending j).mpr chosen)⟩
  | none =>
    have nothing := TestSuite.pending_eq_none.mp found
    exact .inr ⟨rfl, fun i chosen => nothing i ((pending i).mpr chosen)⟩

/-- What has been announced stays so. -/
theorem proceed_announces {identity : Identity} (announced : c.Announces identity) :
    c.proceed.Announces identity := by
  obtain ⟨configuration, member, agrees⟩ := announced
  refine ⟨configuration, ?_, agrees⟩
  unfold proceed
  split
  · exact List.mem_append_left _ member
  · exact List.mem_append_left _ member

/-- A suite that is started again skips what is not selected, and nothing else has begun. -/
theorem pending_started {before after : TestSuite td} {selection : List String}
    (reset : before.reinit upper = .ok after)
    (skipped : TestSuite.SkippedFrom
      { before with testcase := fun i => (before.testcase i).reinit } after)
    (selected : before.settings.selection = some selection) (i : Fin td.size) :
    (after.testcase i).state = none ↔ td.id i ∈ selection := by
  have apart : after.Skipped i ↔ td.id i ∉ selection := by
    rw [(TestSuite.reinit_selects reset).2 i, selected]
    simp
  rcases skipped.testcase i with same | same
  · have pending : (after.testcase i).state = none := by rw [same, TestCase.reinit_state]
    have here : ¬ after.Skipped i := by
      rw [TestSuite.Skipped, pending]
      exact fun same => by cases same
    rw [apart, not_not] at here
    exact iff_of_true pending here
  · have here : after.Skipped i := by rw [TestSuite.Skipped, same, TestCase.changeState_state]
    have ended : (after.testcase i).state ≠ none := by
      rw [TestSuite.Skipped] at here
      rw [here]
      exact fun same => by cases same
    exact iff_of_false ended (apart.mp here)

/-- The session that a configuration and the start of the suite set up. -/
theorem set_up {sessionId : Option String} {users : Option (List String)}
    {configuration : SessionConfiguration} {listed : List String} (services : Services)
    (state : c.state = .waitingForTestsuiteConfig) (idle : c.testsuite.currentTc = none)
    (nonempty : 0 < td.size) (lists : Handler.sessionTcList (some configuration) = .ok listed) :
    let inputs : List Input := [.event (.sessionConfiguration sessionId users configuration) services,
      .event .testSuiteStart services]
    AllAllowed (next upper) (Survives upper) c inputs ∧
      (inputs.foldl (next upper) c).BeginsWith (Chooses upper configuration) ∧
      (inputs.foldl (next upper) c).Announces ⟨sessionId, users, configuration⟩ := by
  intro inputs
  obtain ⟨ts, configured, skipped, handled⟩ :=
    handle_configured upper services sessionId users state idle nonempty lists
  let waiting := ((c.withTestsuite ts).send [(c.withTestsuite ts).setupMessage]).withState
    .waitingForTestsuiteStart
  have first : next upper c (.event (.sessionConfiguration sessionId users configuration) services) =
      waiting := by
    rw [next, handled, finalState_ok]
  obtain ⟨ts', reset, again, started⟩ :=
    handle_started (c := waiting) upper services (.inr rfl) skipped.currentTc nonempty
  let opened := ((waiting.withTestsuite ts').send (tunnels ts')).send
    [(waiting.withTestsuite ts').setupMessage]
  have second : next upper waiting (.event .testSuiteStart services) = opened.proceed := by
    rw [next, started, finalState_ok]
  have last : inputs.foldl (next upper) c = opened.proceed := by
    rw [List.foldl_cons, List.foldl_cons, first, second, List.foldl_nil]
  have written := (TestSuite.configureTestsuite_selects configured).1
  refine ⟨⟨?_, ?_, trivial⟩, ?_, ?_⟩
  · intro exception raises
    rw [handled] at raises
    cases raises
  · rw [first]
    intro exception raises
    rw [started] at raises
    cases raises
  · rw [last]
    refine proceed_begins fun i => ?_
    have all : (List.finRange td.size).map td.id ≠ [] := by
      simpa using Nat.ne_of_gt nonempty
    have something : (if listed.isEmpty then (List.finRange td.size).map td.id else listed) ≠ [] := by
      split
      · exact all
      · rename_i full
        exact fun empty => full (by rw [empty]; rfl)
    have selected : waiting.testsuite.settings.selection = some ((if listed.isEmpty then
        (List.finRange td.size).map td.id else listed).map upper) := by
      have same : waiting.testsuite.settings = ts.settings := rfl
      rw [same, written]
      exact Settings.selection_configure something
    have requested : requestedTcs td (some configuration) = .ok (if listed.isEmpty then
        (List.finRange td.size).map td.id else listed) := by
      rw [requestedTcs, lists]
      rfl
    have chosen := pending_started reset again selected i
    refine chosen.trans ⟨fun member => ⟨_, requested, member⟩, ?_⟩
    rintro ⟨others, asked, member⟩
    rw [requested] at asked
    cases asked
    exact member
  · rw [last]
    refine proceed_announces ⟨testsuiteConfiguration ts, ?_, ?_⟩
    · have message : (c.withTestsuite ts).setupMessage =
          .testingToolConfigured (testsuiteConfiguration ts) := if_pos state
      have announced : Message.testingToolConfigured (testsuiteConfiguration ts) ∈ waiting.bus := by
        simp [waiting, message]
      exact List.mem_append_left _ (List.mem_append_left _ announced)
    · exact ⟨congrArg Settings.sessionId written, congrArg Settings.sessionUsers written,
        congrArg Settings.sessionConfiguration written⟩

end Coordinator

namespace UiAdaptor.StartupTask

open Coordinator

/-- What is handed over for a test suite whose translator starts it. -/
theorem handed_events {setup : StartupSetup} {surroundings : Surroundings} {suite : SuiteName}
    {loop : RoleMapping × List String} (translated : suite.starts ≠ [])
    (looping : loop? (started setup surroundings suite) = some loop)
    (readable : ∀ n, ∃ listed,
      Handler.sessionTcList (some (surroundings.configuration n)) = .ok listed) :
    ∃ configured message listed,
      configured + suite.lookups = (finalState (started setup surroundings suite)).polls ∧
      surroundings.Configures configured message ∧
      Handler.sessionTcList (some message.configuration) = .ok listed ∧
      (finalState (started setup surroundings suite)).events =
        [.sessionConfiguration message.sessionId message.users message.configuration,
          .testSuiteStart] := by
  have session : suite ≠ .wot := by
    rintro rfl
    exact translated rfl
  have handsOver := (looping_hands looping).1
  rw [Surroundings.HandsOver, if_neg session] at handsOver
  obtain ⟨configured, message, asked, configures, sent⟩ := handsOver
  have starting : suite.starts = [.testSuiteStart] := by
    cases suite <;> first | rfl | exact absurd rfl translated
  have lists : ∃ listed, Handler.sessionTcList (some message.configuration) = .ok listed := by
    rcases configures with ⟨-, n, -, -, -, -, -, -, same⟩ | ⟨rfl, -⟩
    · rw [same]
      exact readable n
    · exact ⟨[], rfl⟩
  obtain ⟨listed, lists⟩ := lists
  refine ⟨configured, message, listed, asked, configures, lists, ?_⟩
  rw [sent, starting]
  rfl

/-- **A session is set up.** When the UI adaptor enters its loop, what it has sent makes a coordinator
ask for the configuration of the first test case that the session configuration chooses, or end the
session if it chooses none; the coordinator survives it, and announces the configuration. -/
theorem session_set_up {setup : StartupSetup} {surroundings : Surroundings} {suite : SuiteName}
    (translated : suite.starts ≠ [])
    (looping : (loop? (started setup surroundings suite)).isSome)
    (readable : ∀ n, ∃ listed,
      Handler.sessionTcList (some (surroundings.configuration n)) = .ok listed)
    (nonempty : 0 < td.size) (upper : String → String) (testsuiteName : String)
    (services : Services) :
    let start := initial upper td testsuiteName
    let inputs := (finalState (started setup surroundings suite)).events.map
      (Input.event · services)
    ∃ configured message,
      configured + suite.lookups = (finalState (started setup surroundings suite)).polls ∧
      surroundings.Configures configured message ∧
      AllAllowed (next upper) (Survives upper) start inputs ∧
      (inputs.foldl (next upper) start).BeginsWith (Chooses upper message.configuration) ∧
      (inputs.foldl (next upper) start).Announces
        ⟨message.sessionId, message.users, message.configuration⟩ := by
  intro start inputs
  obtain ⟨loop, looping⟩ := Option.isSome_iff_exists.mp looping
  obtain ⟨configured, message, listed, asked, configures, lists, handed⟩ :=
    handed_events translated looping readable
  have begun : start.state = .waitingForTestsuiteConfig ∧ start.testsuite.currentTc = none := by
    simp only [start, initial_eq]
    exact ⟨rfl, rfl⟩
  have both : inputs = [.event (.sessionConfiguration message.sessionId message.users
      message.configuration) services, .event .testSuiteStart services] := by
    simp only [inputs, handed, List.map_cons, List.map_nil]
  rw [both]
  exact ⟨configured, message, asked, configures, set_up services begun.1 begun.2 nonempty lists⟩

/-- A setup without help texts. -/
def quietStart : StartupSetup where
  toTaskSetup := quietSetup
  helpText := ⟨"", "", "", "", "", "", fun _ _ _ => ""⟩
  exceptionText _ := ""
  wotConfig := smallConfig
  vpnTable _ := ""
  snippets := []

/-- Alice is online, with an automated server. -/
def aliceOnline : UiSessionConfiguration where
  id := some "session"
  configuration := some (some "automated_iut-coap_server")
  testSuite := some "coap"
  users := some (some ["alice"])

/-- The UI answers that Alice is online, and the testing tool is up. -/
def aliceAlone : Surroundings where
  ui := ⟨fun _ => .ok (some aliceOnline), .error .amqpSynchCallTimeoutError⟩
  configuration _ := ⟨none, []⟩
  testingTool _ := .ok ()

/-- Alice's session is set up. -/
theorem session_set_up_alice :
    let start := initial id smallSuite "coap"
    let inputs := (finalState (started quietStart aliceAlone .coap)).events.map
      (Input.event · noServices)
    ∃ configured message,
      configured + SuiteName.coap.lookups = (finalState (started quietStart aliceAlone .coap)).polls ∧
      aliceAlone.Configures configured message ∧
      AllAllowed (next id) (Survives id) start inputs ∧
      (inputs.foldl (next id) start).BeginsWith (Chooses id message.configuration) ∧
      (inputs.foldl (next id) start).Announces
        ⟨message.sessionId, message.users, message.configuration⟩ :=
  session_set_up (by decide) (by decide +kernel) (fun _ => ⟨[], rfl⟩) (by decide) id "coap" noServices

end UiAdaptor.StartupTask

end Ioppytest
