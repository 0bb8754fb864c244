import Ioppytest.UiAdaptor.MainLoop
import Mathlib.Data.Finset.Basic

/-!
# Tasks of the UI adaptor before and beside its main loop

`ui_tasks`: the UI is asked for the session configuration and with it for the users that are online,
a shared session waits until a second user has joined, and the lead user is asked for the role that
they have. `get_new_user_on_session` asks for the users again, every now and then. What the UI
answers is given from outside.
-/

namespace Ioppytest.UiAdaptor

open PyString Raising

/-- The dictionary `session_configuration`, as far as the UI adaptor reads it; a key may be
missing. -/
structure UiSessionConfiguration where
  /-- The attribute `ok` of the message, if it has one. -/
  ok : Option Bool := none
  /-- `id`. -/
  id : Option String
  /-- `configuration`, with its `testsuite.additional_session_resource`. -/
  configuration : Option (Option String)
  /-- `testSuite`. -/
  testSuite : Option String
  /-- `users`; the inner `none` is anything but a list. -/
  users : Option (Option (List String))
  /-- `shared`; anything but a boolean counts as false. -/
  shared : Option Bool := none
  deriving DecidableEq

/-- A shared session with some users. -/
def sharedSession (users : List String) : UiSessionConfiguration where
  id := some "session"
  configuration := some none
  testSuite := some "coap"
  users := some (some users)
  shared := some true

/-- What the UI answers. -/
structure Ui where
  /-- What the `n`-th synchronous request for the session configuration returns or raises. -/
  sessionConfiguration : Nat → Except PyException (Option UiSessionConfiguration)
  /-- What the synchronous question for a role returns or raises. -/
  questionRadio : Except PyException (Option UiReply)

/-- What a task needs besides. -/
structure TaskSetup where
  /-- The library of messages. -/
  library : MessageLibrary
  /-- `MsgUiRequestQuestionRadio()`. -/
  uiRequestQuestionRadio : UiMessage
  /-- `str` of a list of strings. -/
  listText : List String → String
  /-- `str` of an answer. -/
  answerText : UserInput → String
  /-- `tabulate` of a mapping. -/
  table : RoleMapping → String

/-- A library of messages, and texts that are left empty. -/
def quietSetup : TaskSetup where
  library := Setup.plain.library
  uiRequestQuestionRadio := Setup.plain.library.uiRequestConfirmationButton
  listText _ := ""
  answerText _ := ""
  table _ := ""

/-- The UI and the adaptor while a task is running. -/
structure Conversation where
  /-- How often the UI was asked for the session configuration. -/
  polls : Nat := 0
  /-- What has been published, in order. -/
  bus : List Publication := []

/-- `UI_TAG_SETUP`. -/
def uiTagSetup : List (String × String) := [("session_setup", "")]

/-- `publish_ui_display` of a message for the setup of the session. -/
def Conversation.display (setup : TaskSetup) (text : String) (conversation : Conversation) :
    Conversation :=
  { conversation with bus := conversation.bus ++ [.display { setup.library.uiDisplay with
      tags := uiTagSetup
      fields := [{ type := "p", value := .text text }] }] }

/-- A display asks the UI nothing. -/
@[simp] theorem Conversation.display_polls (setup : TaskSetup) (text : String)
    (conversation : Conversation) :
    (conversation.display setup text).polls = conversation.polls := rfl

/-- Publish messages. -/
def Conversation.publish (messages : List Publication) (conversation : Conversation) :
    Conversation :=
  { conversation with bus := conversation.bus ++ messages }

/-- A task: it may raise, and what it published remains published. -/
abbrev UiTask (α : Type) : Type := EStateM PyException Conversation α

/-- `WAITING_TIME_FOR_SECOND_USER`, in seconds. -/
def waitingTimeForSecondUser : Nat := 900

/-- What the users of a shared session are told first. -/
def invitation : String :=
  "This is a User-to-User interop sesssion." ++
    "Please click on the 'share' button on the top-right corner of the GUI, " ++
    "then share the link with another F-Interop user so he/she can join the session"

/-- The checks of `get_session_configuration_from_ui`. -/
def validated (resp : Option UiSessionConfiguration) : Except PyException UiSessionConfiguration :=
  match resp with
  | none => .error (.uiResponseError "Got session config None from UI")
  | some resp =>
    if resp.ok = some false then .error (.uiResponseError "Got NOK response from UI, response: ")
    else if resp.id.isSome ∧ resp.configuration.isSome ∧ resp.testSuite.isSome ∧
        resp.users.isSome then .ok resp
    else .error (.uiResponseError "Expected minimum set of keys")

/-- The users of a session configuration; the UI itself may be among them. -/
def usersOf (sessionConfiguration : UiSessionConfiguration) : Except PyException (List String) :=
  match sessionConfiguration.users with
  | none => .error .keyError
  | some none => .error .assertionError
  | some (some users) => .ok ((users.erase "myslice").erase "my_slice")

/-- The comparison of `get_new_user_on_session`: who is reported, and the list that is stored. -/
def newUsers (onlineUsers newListOfOnlineUsers : List String) :
    Option (Finset String) × List String :=
  if onlineUsers.length < newListOfOnlineUsers.length then
    (some (newListOfOnlineUsers.toFinset \ onlineUsers.toFinset), newListOfOnlineUsers)
  else (none, onlineUsers)

/-- The users that are online according to an answer of the UI. -/
def usersOnline (answer : Except PyException (Option UiSessionConfiguration)) :
    Except PyException (List String) :=
  answer.bind fun resp => (validated resp).bind usersOf

/-- The radio entry for a role. -/
def roleEntry (role : String) : Field where
  type := "radio"
  name := some "iut_role"
  label := some role
  value := .text role

/-- The question for the role of a user; all roles are the last option. -/
def roleQuestion (setup : TaskSetup) (iutRoles : List String) : UiMessage :=
  { setup.uiRequestQuestionRadio with
    tags := uiTagSetup
    fields := [{
      type := "p"
      value := .text "Which implementation under test (IUT) are you running? " }] ++
      iutRoles.map roleEntry ++ [roleEntry "all"] }

/-- What `get_user_ids_and_roles_from_ui` deduces for a single user: the resource has one role, which
is part of its name, and the user the other one. -/
def deduceRoles (iutRoles : List String) (sessionConfiguration : UiSessionConfiguration)
    (userLead : String) : Except PyException (Option RoleMapping) :=
  match sessionConfiguration.configuration.join, iutRoles with
  | none, _ => .ok none
  | some autoIutResourceId, first :: second :: _ =>
    if contains autoIutResourceId first then
      .ok (some ((OrderedDict.empty.insert first autoIutResourceId).insert second userLead))
    else if contains autoIutResourceId second then
      .ok (some ((OrderedDict.empty.insert second autoIutResourceId).insert first userLead))
    else .ok none
  | some _, _ => .error .indexError

/-- The role that the user has declared: `resp.fields.pop()['iut_role']`. -/
def declaredRole (resp : Option UiReply) : Except PyException UserInput :=
  match (resp.bind (·.fields.join)).bind List.getLast? with
  | some (.dict entries) =>
    match entries.get? "iut_role" with
    | some answer => .ok answer
    | none => .error (.uiResponseError "received from the UI: ")
  | _ => .error (.uiResponseError "received from the UI: ")

/-- The roles after an answer; one that is not a text is no role, and removing it raises. -/
def assignRoles (iutRoles : List String) (userLead : String) (secondUser : Option String)
    (userLeadIutRole : UserInput) : Except PyException RoleMapping :=
  match userLeadIutRole with
  | .text answer =>
    if answer = "both" then
      .ok (iutRoles.foldl (fun mapping role => mapping.insert role userLead) .empty)
    else if answer ∈ iutRoles then
      match (iutRoles.erase answer).getLast? with
      | some remaining => .ok ((OrderedDict.empty.insert answer userLead).insert remaining
          ((truthy secondUser).getD "automated_iut"))
      | none => .error .indexError
    else .error .valueError
  | _ => .error .valueError

namespace UiTask

/-- `get_session_configuration_from_ui`. -/
def getSessionConfigurationFromUi (ui : Ui) : UiTask UiSessionConfiguration := do
  let asked := (← get).polls
  modify fun conversation => { conversation with polls := asked + 1 }
  lift ((ui.sessionConfiguration asked).bind validated)

/-- `get_current_users_online`. -/
def getCurrentUsersOnline (ui : Ui) : UiTask (List String) := do
  lift (usersOf (← getSessionConfigurationFromUi ui))

/-- The UI is asked once. -/
theorem getCurrentUsersOnline_run (ui : Ui) (conversation : Conversation) :
    (getCurrentUsersOnline ui).run conversation =
      (lift (usersOnline (ui.sessionConfiguration conversation.polls))).run
        { conversation with polls := conversation.polls + 1 } := by
  unfold getCurrentUsersOnline getSessionConfigurationFromUi usersOnline
  simp only [EStateM.run_bind, EStateM.run_get, EStateM.run_modify]
  cases ui.sessionConfiguration conversation.polls with
  | error exception => rfl
  | ok resp =>
    simp only [Except.bind]
    cases validated resp <;> rfl

/-- The loop of `wait_for_all_users_to_join_session`; it returns the users and the retries. -/
def waitForUsers (setup : TaskSetup) (ui : Ui) (expectedUserQuantity : Nat)
    (onlineUsers : List String) (retries : Nat) : UiTask (List String × Nat) := do
  if onlineUsers.length < expectedUserQuantity ∧ retries ≤ waitingTimeForSecondUser then
    if retries % 60 = 0 then
      let minsLeft := (waitingTimeForSecondUser - retries) / 60
      modify (·.display setup ("Waiting for at least 2 users to join the session (" ++
        toString minsLeft ++ " min. left)"))
    let onlineUsers ← getCurrentUsersOnline ui
    waitForUsers setup ui expectedUserQuantity onlineUsers (retries + 1)
  else return (onlineUsers, retries)
termination_by waitingTimeForSecondUser + 1 - retries

/-- `wait_for_all_users_to_join_session`. -/
def waitForAllUsersToJoinSession (setup : TaskSetup) (ui : Ui)
    (sessionConfiguration : UiSessionConfiguration) : UiTask Unit := do
  if sessionConfiguration.shared = some true then
    if sessionConfiguration.users.isNone then
      throw (.uiResponseError "No users information in UI's session configuration response ")
    let onlineUsers ← getCurrentUsersOnline ui
    modify (·.display setup invitation)
    let (onlineUsers, retries) ← waitForUsers setup ui 2 onlineUsers 0
    if retries > waitingTimeForSecondUser then
      throw (.sessionError ("Waiting time for user to join has expired. " ++
        "Please RESTART session once users are ready to join"))
    modify (·.display setup ("Users connected: " ++ setup.listText onlineUsers ++
      " . Ready to start the session"))

/-- `synch_request` of a question. -/
def synchRequest (setup : TaskSetup) (ui : Ui) (mapping : RoleMapping) (request : UiMessage)
    (userId : Option String) : UiTask (Option UiReply) := do
  let (displays, request) ←
    lift (Publisher.publishUiRequest mapping setup.library request userId)
  modify (·.publish (displays.map .display ++ [.request request]))
  lift ui.questionRadio

/-- `display_in_ui_user_ids_and_roles`. -/
def displayInUiUserIdsAndRoles (setup : TaskSetup) (mapping : RoleMapping) : UiTask Unit :=
  modify (·.publish [.display { setup.library.uiDisplay with
    title := some "Implementation under test (IUT) to User ID mapping:"
    tags := uiTagSetup
    fields := [{ type := "p", value := .text (setup.table mapping) }] }])

/-- The part of `get_user_ids_and_roles_from_ui` that asks the lead user. -/
def askForRoles (setup : TaskSetup) (ui : Ui) (mapping : RoleMapping) (iutRoles : List String)
    (userLead : String) (secondUser : Option String) : UiTask RoleMapping := do
  let resp ← synchRequest setup ui mapping (roleQuestion setup iutRoles) (some userLead)
  let userLeadIutRole ← lift (declaredRole resp)
  modify (·.display setup ("User session owner (" ++ userLead ++ ") declared running IUT: " ++
    setup.answerText userLeadIutRole))
  let rolesToUserMapping ← lift (assignRoles iutRoles userLead secondUser userLeadIutRole)
  displayInUiUserIdsAndRoles setup rolesToUserMapping
  return rolesToUserMapping

/-- `get_user_ids_and_roles_from_ui`; `mapping` is what the publisher knows so far. -/
def getUserIdsAndRolesFromUi (setup : TaskSetup) (ui : Ui) (mapping : RoleMapping)
    (iutRoles : List String) (sessionConfiguration : UiSessionConfiguration) :
    UiTask RoleMapping := do
  let users ← getCurrentUsersOnline ui
  let userLead ← expect .indexError users[0]?
  let secondUser := users[1]?
  let deduced ← lift (if secondUser.isNone then
    deduceRoles iutRoles sessionConfiguration userLead else .ok none)
  match deduced with
  | some rolesToUserMapping =>
    displayInUiUserIdsAndRoles setup rolesToUserMapping
    return rolesToUserMapping
  | none => askForRoles setup ui mapping iutRoles userLead secondUser

/-- `get_new_user_on_session`, with the global `online_users` passed in and handed back. -/
def getNewUserOnSession (ui : Ui) (onlineUsers : List String) :
    UiTask (Option (Finset String) × List String) := do
  return newUsers onlineUsers (← getCurrentUsersOnline ui)

end UiTask

end Ioppytest.UiAdaptor
