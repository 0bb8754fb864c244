import Ioppytest.Lib.Emission
import Ioppytest.TestCoordinator.Messages
import Ioppytest.UiAdaptor.UiTasks

/-!
# The start of the UI adaptor

`main` up to its loop: the session configuration and the users are asked for, the testing tool is
awaited and configured, and the translator of the test suite shows the users how to connect before it
starts the suite. What the UI and the testing tool answer is given from outside; the user does not
interrupt it.
-/

namespace Ioppytest.UiAdaptor

open PyString Raising

/-- The test suites that have a message translator. -/
inductive SuiteName where
  | dummy
  | coap
  | onem2m
  | sixLowpan
  | comi
  | lwm2m
  | wot
  deriving DecidableEq

/-- `MsgSessionConfiguration`. -/
structure MsgSessionConfiguration where
  /-- `session_id`. -/
  sessionId : String
  /-- `configuration`. -/
  configuration : SessionConfiguration
  /-- `testing_tools`. -/
  testingTools : String
  /-- `users`; anything but a list counts as none. -/
  users : Option (List String)
  deriving DecidableEq

/-- A message that is published before the loop. -/
inductive StartupMessage where
  /-- A message for the UI. -/
  | ui (publication : Publication)
  | testSuiteGetTestCases
  | sessionConfiguration (message : MsgSessionConfiguration)
  | agentTunStart (name ipv6Prefix ipv6Host : String)
  | testSuiteStart

/-- The event that the coordinator handles when it receives the message. -/
def StartupMessage.event? : StartupMessage → Option Event
  | .sessionConfiguration message =>
    some (.sessionConfiguration message.sessionId message.users message.configuration)
  | .testSuiteStart => some .testSuiteStart
  | _ => none

/-- The texts of `user_help_text`. -/
structure UserHelpText where
  envVarsExport : String
  agentRequirements : String
  agentInstallHelp : String
  helpAgentsRunForRawIpMode : String
  vpnSetup : String
  vpnPingTests : String
  /-- `help_agent_run_for_raw_ip_single_entry`, with the name, the prefix and the host. -/
  helpAgentRunForRawIpSingleEntry : String → String → String → String

/-- What the start needs besides. -/
structure StartupSetup extends TaskSetup where
  /-- The help texts. -/
  helpText : UserHelpText
  /-- `str` of an exception. -/
  exceptionText : PyException → String
  /-- The configuration of the test suite for the Web of Things. -/
  wotConfig : TestConfig
  /-- `tabulate` of a table of agents. -/
  vpnTable : List DefaultAddress → String
  /-- What the snippets of the dummy test suite publish. -/
  snippets : List Publication

/-- What the UI and the testing tool answer. -/
structure Surroundings where
  /-- The UI. -/
  ui : Ui
  /-- The dictionary `configuration` of its `n`-th answer, as the coordinator reads it. -/
  configuration : Nat → SessionConfiguration
  /-- Whether the `n`-th request for the test cases is answered, or what it raises. -/
  testingTool : Nat → Except PyException Unit

/-- The UI adaptor before its loop. -/
structure Startup where
  /-- How often the UI was asked for the session configuration. -/
  polls : Nat := 0
  /-- What has been published, in order. -/
  bus : List StartupMessage := []

/-- How `main` ends or goes on. -/
inductive StartupEnd where
  /-- `sys.exit(1)`. -/
  | exited
  /-- It returns. -/
  | returned
  /-- It enters the loop, listening to the replies on some topics. -/
  | looping (mapping : RoleMapping) (uiReplyTopics onlineUsers : List String)

/-- A part of the start. -/
abbrev StartupTask (α : Type) : Type := EStateM PyException Startup α

namespace SuiteName

/-- `get_iut_roles`. -/
def iutRoles (setup : StartupSetup) : SuiteName → List String
  | .dummy => ["example_role_1", "example_role_2"]
  | .coap => ["coap_client", "coap_server"]
  | .onem2m => ["adn", "cse"]
  | .sixLowpan => ["eut1", "eut2"]
  | .comi => ["comi_client", "comi_server"]
  | .lwm2m => ["lwm2m_client", "lwm2m_server"]
  | .wot => setup.wotConfig.nodes

end SuiteName

namespace UiTask

/-- `UI_TAG_AGENT_REQUIREMENTS`. -/
def uiTagAgentRequirements : List (String × String) := [("agents_requirements", "")]

/-- `UI_TAG_AGENT_INSTALL`. -/
def uiTagAgentInstall : List (String × String) := [("agents_install", "")]

/-- `UI_TAG_AGENT_CONNECT`. -/
def uiTagAgentConnect : List (String × String) := [("agents_connect", "")]

/-- `UI_TAG_AGENT_INFO`. -/
def uiTagAgentInfo : List (String × String) := [("agents_info", "")]

/-- `UI_TAG_AGENT_TEST`. -/
def uiTagAgentTest : List (String × String) := [("agents_test", "")]

/-- A paragraph of a message. -/
def paragraph (text : String) : Field := { type := "p", value := .text text }

/-- A button of a message. -/
def button (name : String) : Field := { type := "button", name := some name, value := .boolean true }

/-- `publish_ui_display` of a message to all users. -/
def publishUiDisplay (setup : StartupSetup) (mapping : RoleMapping) (tags : List (String × String))
    (texts : List String) : UiTask Unit := do
  let display := { setup.library.uiDisplay with tags, fields := texts.map paragraph }
  let message ← lift (Publisher.addressed mapping display (some "all"))
  modify (·.publish [.display message])

/-- Displaying a message asks the UI nothing. -/
theorem publishUiDisplay_silent {setup : StartupSetup} {mapping : RoleMapping}
    {tags : List (String × String)} {texts : List String} :
    Silent Conversation.polls (publishUiDisplay setup mapping tags texts) :=
  (Silent.check _).seq fun _ => Silent.change fun _ => rfl

/-- `synch_request` of a confirmation; whether it is answered, and how, is not looked at. -/
def confirmation (setup : StartupSetup) (mapping : RoleMapping) (request : UiMessage) :
    UiTask Unit := do
  let (displays, request) ← lift (Publisher.publishUiRequest mapping setup.library request none)
  modify (·.publish (displays.map .display ++ [.request request]))

/-- Asking for a confirmation is no request for the session configuration. -/
theorem confirmation_silent {setup : StartupSetup} {mapping : RoleMapping} {request : UiMessage} :
    Silent Conversation.polls (confirmation setup mapping request) :=
  (Silent.check _).seq fun _ => Silent.change fun _ => rfl

/-- `send_to_ui_confirmation_request`. -/
def sendToUiConfirmationRequest (setup : StartupSetup) (mapping : RoleMapping) (user uiMsg : String)
    (uiTag : List (String × String)) : UiTask Unit := do
  let request := { setup.library.uiRequestConfirmationButton with
    tags := uiTag
    fields := [paragraph uiMsg, button "confirm"] }
  let replyTo ← expect .attributeError request.replyTo
  let request := { request with
    routingKey := replace request.routingKey "all" user
    replyTo := some (replace replyTo "all" user) }
  let _ ← attempt (confirmation setup mapping request)

/-- Asking one user for a confirmation is no request for the session configuration. -/
theorem sendToUiConfirmationRequest_silent {setup : StartupSetup} {mapping : RoleMapping}
    {user uiMsg : String} {uiTag : List (String × String)} :
    Silent Conversation.polls (sendToUiConfirmationRequest setup mapping user uiMsg uiTag) :=
  (Silent.needed _ _).seq fun _ =>
    confirmation_silent.attempted.seq fun _ => Silent.value ()

/-- The help for two agents, with the roles as their names. -/
def agentsKickstartHelp (roles : List String) (text : String) : Except PyException String :=
  match roles with
  | first :: second :: _ =>
    .ok (replace (replace text "AgentNameHost1" first) "AgentNameHost2" second)
  | _ => .error .indexError

/-- The users are shown a text, and each of some users is asked to confirm something. -/
def stage (setup : StartupSetup) (mapping : RoleMapping) (users : List String) (text uiMsg : String)
    (uiTag : List (String × String)) : UiTask Unit := do
  publishUiDisplay setup mapping uiTag [text]
  users.forM fun user => sendToUiConfirmationRequest setup mapping user uiMsg uiTag

/-- A stage does not ask the UI for the session configuration. -/
theorem stage_silent {setup : StartupSetup} {mapping : RoleMapping} {users : List String}
    {text uiMsg : String} {uiTag : List (String × String)} :
    Silent Conversation.polls (stage setup mapping users text uiMsg uiTag) :=
  publishUiDisplay_silent.seq fun _ => Silent.each (fun _ => sendToUiConfirmationRequest_silent) users

/-- `_bootstrap` of the translator for CoAP, which most others inherit, up to the start of the suite:
the first two users are led through the setup of their agents. -/
def connectAgents (setup : StartupSetup) (ui : Ui) (mapping : RoleMapping) (roles : List String) :
    UiTask (List String) := do
  let users := (← getCurrentUsersOnline ui).take 2
  let info ← lift (agentsKickstartHelp roles setup.helpText.vpnSetup)
  stage setup mapping users info "Confirm to continue" uiTagAgentInfo
  let install ← lift (agentsKickstartHelp roles
    (setup.helpText.agentRequirements ++ setup.helpText.agentInstallHelp))
  stage setup mapping users install "Confirm installation finished" uiTagAgentInstall
  stage setup mapping users setup.helpText.envVarsExport "Confirm that variables have been exported"
    uiTagAgentConnect
  let run ← lift (agentsKickstartHelp roles setup.helpText.helpAgentsRunForRawIpMode)
  stage setup mapping users run "Confirm that agent component is running" uiTagAgentConnect
  return users

/-- The UI is asked once: for the users. -/
theorem connectAgents_polls (setup : StartupSetup) (ui : Ui) (mapping : RoleMapping)
    (roles : List String) (conversation : Conversation) :
    (finalState ((connectAgents setup ui mapping roles).run conversation)).polls =
      conversation.polls + 1 := by
  unfold connectAgents
  rw [EStateM.run_bind, getCurrentUsersOnline_run]
  cases usersOnline (ui.sessionConfiguration conversation.polls) with
  | error exception => rfl
  | ok online =>
    have guided : Silent Conversation.polls (do
        let info ← lift (agentsKickstartHelp roles setup.helpText.vpnSetup)
        stage setup mapping (online.take 2) info "Confirm to continue" uiTagAgentInfo
        let install ← lift (agentsKickstartHelp roles
          (setup.helpText.agentRequirements ++ setup.helpText.agentInstallHelp))
        stage setup mapping (online.take 2) install "Confirm installation finished" uiTagAgentInstall
        stage setup mapping (online.take 2) setup.helpText.envVarsExport
          "Confirm that variables have been exported" uiTagAgentConnect
        let run ← lift (agentsKickstartHelp roles setup.helpText.helpAgentsRunForRawIpMode)
        stage setup mapping (online.take 2) run "Confirm that agent component is running"
          uiTagAgentConnect
        return online.take 2) :=
      (Silent.check _).seq fun _ => stage_silent.seq fun _ => (Silent.check _).seq fun _ =>
        stage_silent.seq fun _ => stage_silent.seq fun _ => (Silent.check _).seq fun _ =>
          stage_silent.seq fun _ => Silent.value _
    exact guided _

/-- The rest of it: the agents can be tested. -/
def testAgents (setup : StartupSetup) (mapping : RoleMapping) (roles users : List String) :
    UiTask Unit := do
  publishUiDisplay setup mapping uiTagAgentConnect ["bootstrapping agent(s) interface.."]
  let test ← lift (agentsKickstartHelp roles setup.helpText.vpnPingTests)
  stage setup mapping users test "Confirm to continue" uiTagAgentTest

/-- The UI is not asked for the users again. -/
theorem testAgents_silent {setup : StartupSetup} {mapping : RoleMapping} {roles users : List String} :
    Silent Conversation.polls (testAgents setup mapping roles users) :=
  publishUiDisplay_silent.seq fun _ => (Silent.check _).seq fun _ => stage_silent

/-- The text of the translator for 6LoWPAN. -/
def sixLowpanHelp : String :=
  "Please read documentation for 6LoWPAN (802.15.4) testing suite:\n        \n" ++
    "testbed setup: http://doc.f-interop.eu/interop/6lowpan_test_suite\n        \n" ++
    "test descriptions: http://doc.f-interop.eu/testsuites/6lowpan\n"

/-- `_bootstrap` of the translator for 6LoWPAN, up to the start of the suite. -/
def connectProbes (setup : StartupSetup) (mapping : RoleMapping) : UiTask Unit := do
  let _ ← attempt (confirmation setup mapping { setup.library.uiRequestConfirmationButton with
    tags := uiTagAgentConnect
    fields := [paragraph sixLowpanHelp, button "continue"] })
  publishUiDisplay setup mapping uiTagAgentConnect [setup.helpText.envVarsExport]
  let _ ← attempt (confirmation setup mapping { setup.library.uiRequestConfirmationButton with
    title := some "Confirm that agent and probe are up and running"
    tags := uiTagAgentConnect
    fields := [button "confirm"] })

/-- The UI is not asked for the users. -/
theorem connectProbes_silent {setup : StartupSetup} {mapping : RoleMapping} :
    Silent Conversation.polls (connectProbes setup mapping) :=
  confirmation_silent.attempted.seq fun _ => publishUiDisplay_silent.seq fun _ =>
    confirmation_silent.attempted.seq fun _ => Silent.value ()

/-- The welcome of the translator for the Web of Things. -/
def welcomeMessage : String :=
  "### Welcome to Web of Things F-Interop playground!  \n" ++
    "##### This environment provides:\n" ++
    "    o IPv6 based VPN env where each implementation running a VPN client gets a private " ++
    "IPV6 address\n" ++
    "    o two virtualized WoT implementations (wot_thingweb and arenahub) are available on " ++
    "bbbb::101 and bbbb::102\n" ++
    "    o a virtualized CoAP server for testing, test GET coap://[bbbb::2]/test \n\n" ++
    "##### Notes: \n" ++
    "    o other users can join the same environment, click on the SHARE button " ++
    "(see blue button on the top-right) and share the link to do so\n" ++
    "    o VPN client (agent component) doesnt modify your OS default gateway\n"

/-- `send_vpn_join_help_to_user`, while no agent has connected. -/
def sendVpnJoinHelpToUser (setup : StartupSetup) (vpnAgents : List DefaultAddress) (user : String) :
    UiTask Unit := do
  let cmdAgentExample :=
    match vpnAgents with
    | agent :: _ =>
      setup.helpText.helpAgentRunForRawIpSingleEntry agent.node agent.ipv6Prefix agent.ipv6Host
    | [] => "(!) Amount of devices in VPN has reached it's maximum"
  modify (·.publish [.display { setup.library.uiDisplay with
    routingKey := replace setup.library.uiDisplay.routingKey "all" user
    tags := uiTagAgentConnect
    fields := [setup.helpText.envVarsExport, "### Run agent\n",
      "Please run agent with (use one of the none used entries from table), e.g.:\n",
      "`" ++ cmdAgentExample ++ "`", setup.vpnTable vpnAgents].map paragraph }])

/-- The help for the VPN asks the UI nothing. -/
theorem sendVpnJoinHelpToUser_silent {setup : StartupSetup} {vpnAgents : List DefaultAddress}
    {user : String} :
    Silent Conversation.polls (sendVpnJoinHelpToUser setup vpnAgents user) :=
  Silent.change fun _ => rfl

/-- `_bootstrap` of the translator for the Web of Things, up to the start of the tunnels. -/
def welcome (setup : StartupSetup) (mapping : RoleMapping) : UiTask Unit := do
  sendToUiConfirmationRequest setup mapping "all" welcomeMessage uiTagSetup
  stage setup mapping ["all"] setup.helpText.vpnSetup "Confirm to continue" uiTagAgentInfo
  stage setup mapping ["all"] setup.helpText.agentRequirements "Confirm to continue"
    uiTagAgentRequirements
  stage setup mapping ["all"] setup.helpText.agentInstallHelp "Confirm installation finished"
    uiTagAgentInstall
  sendVpnJoinHelpToUser setup setup.wotConfig.defaultAddressing "all"
  sendToUiConfirmationRequest setup mapping "all"
    "Confirm that agent has been started as described below" uiTagAgentConnect
  let test ← lift (agentsKickstartHelp setup.wotConfig.nodes setup.helpText.vpnPingTests)
  stage setup mapping ["all"] test "Confirm to continue" uiTagAgentTest

/-- The UI is not asked for the users. -/
theorem welcome_silent {setup : StartupSetup} {mapping : RoleMapping} :
    Silent Conversation.polls (welcome setup mapping) := by
  unfold welcome
  exact sendToUiConfirmationRequest_silent.seq fun _ => stage_silent.seq fun _ =>
    stage_silent.seq fun _ => stage_silent.seq fun _ => sendVpnJoinHelpToUser_silent.seq fun _ =>
      sendToUiConfirmationRequest_silent.seq fun _ => (Silent.check _).seq fun _ => stage_silent

end UiTask

namespace StartupTask

/-- What a conversation with the UI adds. -/
def told (startup : Startup) (conversation : Conversation) : Startup :=
  ⟨conversation.polls, startup.bus ++ conversation.bus.map .ui⟩

/-- A task for the UI. -/
def ofUi {α : Type} (task : UiTask α) : StartupTask α := fun startup =>
  match task.run ⟨startup.polls, []⟩ with
  | .ok value conversation => .ok value (told startup conversation)
  | .error exception conversation => .error exception (told startup conversation)

/-- A task for the UI that returns. -/
theorem ofUi_ok {α : Type} {task : UiTask α} {startup : Startup} {value : α}
    {conversation : Conversation} (run : task.run ⟨startup.polls, []⟩ = .ok value conversation) :
    (ofUi task).run startup = .ok value (told startup conversation) := by
  change ofUi task startup = _
  rw [ofUi, run]

/-- A task for the UI that raises. -/
theorem ofUi_error {α : Type} {task : UiTask α} {startup : Startup} {exception : PyException}
    {conversation : Conversation}
    (run : task.run ⟨startup.polls, []⟩ = .error exception conversation) :
    (ofUi task).run startup = .error exception (told startup conversation) := by
  change ofUi task startup = _
  rw [ofUi, run]

/-- The state that a task for the UI leaves. -/
theorem finalState_ofUi {α : Type} (task : UiTask α) (startup : Startup) :
    finalState ((ofUi task).run startup) =
      told startup (finalState (task.run ⟨startup.polls, []⟩)) := by
  cases run : task.run ⟨startup.polls, []⟩ with
  | ok value conversation => rw [ofUi_ok run, finalState_ok, finalState_ok]
  | error exception conversation => rw [ofUi_error run, finalState_error, finalState_error]

/-- Publish messages. -/
def publish (messages : List StartupMessage) : StartupTask Unit :=
  modify fun startup => { startup with bus := startup.bus ++ messages }

/-- `send_default_testing_tool_configuration`. -/
def sendDefaultTestingToolConfiguration : StartupTask Unit :=
  publish [.sessionConfiguration {
    sessionId := "666"
    configuration := ⟨none, []⟩
    testingTools := ""
    users := some [] }]

/-- `configure_testing_tool`. -/
def configureTestingTool (surroundings : Surroundings) : StartupTask Unit := do
  let asked := (← get).polls
  let sConfig ← ofUi (UiTask.getSessionConfigurationFromUi surroundings.ui)
  let sessionId ← expect .keyError sConfig.id
  let _ ← expect .keyError sConfig.configuration
  let testingTools ← expect .keyError sConfig.testSuite
  let users ← expect .keyError sConfig.users
  publish [.sessionConfiguration
    { sessionId, configuration := surroundings.configuration asked, testingTools, users }]

/-- The loop of `wait_for_testing_tool_ready`. -/
def waitForTestingToolReady (testingTool : Nat → Except PyException Unit) (maxRetries : Nat) :
    Nat → StartupTask Unit
  | 0 => throw (.sessionError "Couldn't detect Testing Tool up")
  | retriesLeft + 1 => do
    publish [.testSuiteGetTestCases]
    match testingTool (maxRetries - (retriesLeft + 1)) with
    | .ok _ => return ()
    | .error .amqpSynchCallTimeoutError => waitForTestingToolReady testingTool maxRetries retriesLeft
    | .error exception => throw exception

/-- `bootstrap_all_tun_interfaces`. -/
def bootstrapAllTunInterfaces (vpnTable : List DefaultAddress) : StartupTask Unit :=
  publish (vpnTable.map fun agent => .agentTunStart agent.node agent.ipv6Prefix agent.ipv6Host)

/-- `bootstrap` of the translator of a test suite. -/
def bootstrap (setup : StartupSetup) (ui : Ui) (mapping : RoleMapping) (suite : SuiteName) :
    StartupTask Unit :=
  match suite with
  | .dummy => publish (setup.snippets.map .ui)
  | .coap | .onem2m | .comi | .lwm2m => do
    let users ← ofUi (UiTask.connectAgents setup ui mapping (suite.iutRoles setup))
    publish [.testSuiteStart]
    ofUi (UiTask.testAgents setup mapping (suite.iutRoles setup) users)
  | .sixLowpan => do
    ofUi (UiTask.connectProbes setup mapping)
    publish [.testSuiteStart]
  | .wot => do
    ofUi (UiTask.welcome setup mapping)
    bootstrapAllTunInterfaces setup.wotConfig.defaultAddressing
    ofUi (UiTask.publishUiDisplay setup mapping UiTask.uiTagAgentConnect
      ["bootstrapping agent(s) interface.."])

/-- The users who take part, and their roles. -/
def assignUsers (setup : StartupSetup) (ui : Ui) (suite : SuiteName)
    (sessionConfiguration : UiSessionConfiguration) : UiTask RoleMapping := do
  UiTask.waitForAllUsersToJoinSession setup.toTaskSetup ui sessionConfiguration
  UiTask.getUserIdsAndRolesFromUi setup.toTaskSetup ui .empty (suite.iutRoles setup)
    sessionConfiguration

/-- The testing tool is configured once it is ready; whatever goes wrong, it gets the default
configuration. -/
def configureWhenReady (surroundings : Surroundings) : StartupTask Unit := do
  let configured ← attempt (do
    waitForTestingToolReady surroundings.testingTool 5 5
    configureTestingTool surroundings)
  match configured with
  | .ok _ => return ()
  | .error _ => sendDefaultTestingToolConfiguration

/-- The end of the start; `mapping` is what the publisher knows. -/
def enterLoop (setup : StartupSetup) (surroundings : Surroundings) (suite : SuiteName)
    (iutRoleToUserIdMapping mapping : RoleMapping) (onlineUsers : List String) :
    StartupTask StartupEnd := do
  bootstrap setup surroundings.ui mapping suite
  let uiReplyTopics := "ui.user.all.reply" :: iutRoleToUserIdMapping.items.map fun item =>
    "ui.user." ++ item.2 ++ ".reply"
  return .looping mapping uiReplyTopics onlineUsers

/-- An error is displayed to all users. -/
def displayError (setup : StartupSetup) (text : String) (exception : PyException) :
    StartupTask Unit :=
  ofUi (UiTask.publishUiDisplay setup .empty setup.library.uiDisplay.tags
    [text ++ setup.exceptionText exception])

/-- `main`, up to its loop. -/
def main (setup : StartupSetup) (surroundings : Surroundings) (suite : SuiteName) :
    StartupTask StartupEnd := do
  let asked ← attempt (ofUi (UiTask.getSessionConfigurationFromUi surroundings.ui))
  match asked with
  | .error .amqpSynchCallTimeoutError => return .exited
  | .error exception => throw exception
  | .ok sessionConfiguration =>
    let onlineUsers ← ofUi (UiTask.getCurrentUsersOnline surroundings.ui)
    if suite = .wot then
      enterLoop setup surroundings suite .empty .empty onlineUsers
    else
      let assigned ← attempt (ofUi (assignUsers setup surroundings.ui suite sessionConfiguration))
      match assigned with
      | .ok mapping =>
        configureWhenReady surroundings
        enterLoop setup surroundings suite mapping (OrderedDict.empty.update mapping) onlineUsers
      | .error .amqpSynchCallTimeoutError =>
        displayError setup ("UI response timeout, entering default testsuite configuration. " ++
          "\nException: ") .amqpSynchCallTimeoutError
        configureWhenReady surroundings
        enterLoop setup surroundings suite .empty .empty onlineUsers
      | .error (.uiResponseError message) =>
        displayError setup "UI response error caught. \nException: " (.uiResponseError message)
        configureWhenReady surroundings
        enterLoop setup surroundings suite .empty .empty onlineUsers
      | .error (.sessionError message) =>
        displayError setup "Session error caught. \nException: " (.sessionError message)
        return .returned
      | .error exception => throw exception

end StartupTask

end Ioppytest.UiAdaptor
