import Ioppytest.UiAdaptor.Translator

/-!
# The publisher of the UI adaptor

`AmqpMessagePublisher`, as far as it addresses messages: a message for the UI goes to one user or to
all, and while one user is asked the others are told whom they wait for. Publishing itself is
assumed to succeed.
-/

namespace Ioppytest.UiAdaptor

open PyString

/-- `iut_role_to_user_id_mapping`. -/
abbrev RoleMapping : Type := OrderedDict String String

namespace Publisher

variable (mapping : RoleMapping)

/-- `get_user_id_from_node`. -/
def getUserIdFromNode (node : Option String) : String := (node.bind mapping.get?).getD "all"

/-- `get_user_id_from_rkey`. -/
def getUserIdFromRkey (rkey : String) : Except PyException String :=
  match split rkey "." with
  | [ui, user, id, _] => if ui = "ui" ∧ user = "user" then .ok id else .error .keyError
  | _ => .error .keyError

/-- `get_session_users`: a set, in some order. -/
def getSessionUsers (excludeUserId : String) : List String :=
  (mapping.items.map Prod.snd).dedup.filter (· ≠ excludeUserId)

/-- The user that a message for the UI is sent to: the one that is given, or the one whose role is
the node of the message that it is about, or all. -/
def destinationUser (ttMessage : Option TtMessage) (userId : Option String) : String :=
  match truthy userId, ttMessage.bind (·.node) with
  | some user, _ => user
  | none, some node => getUserIdFromNode mapping node
  | none, none => "all"

/-- The message with another routing key, and another topic for the reply if it is a request. -/
def readdress (uiMessage : UiMessage) (routingKey : String) : UiMessage :=
  { uiMessage with
    routingKey
    replyTo := uiMessage.replyTo.map fun _ => replace routingKey ".request" ".reply" }

/-- `_update_ui_message_rkeys`, without the node name that no caller gives. -/
def updateUiMessageRkeys (uiMessage : UiMessage) (ttMessage : Option TtMessage)
    (userId : Option String) : Except PyException UiMessage :=
  let user := destinationUser mapping ttMessage userId
  if contains uiMessage.routingKey ".*." ∨ contains uiMessage.routingKey ".all." then
    if contains uiMessage.routingKey "*" then
      .ok (readdress uiMessage (replace uiMessage.routingKey "*" user))
    else .ok (readdress uiMessage (replace uiMessage.routingKey ".all." ("." ++ user ++ ".")))
  else .error (.exception "couldnt update the message UI destination in rkey")

variable {mapping}

/-- Addressing a message does not change its correlation id. -/
theorem updateUiMessageRkeys_correlationId {uiMessage addressed : UiMessage}
    {ttMessage : Option TtMessage} {userId : Option String}
    (run : updateUiMessageRkeys mapping uiMessage ttMessage userId = .ok addressed) :
    addressed.correlationId = uiMessage.correlationId := by
  unfold updateUiMessageRkeys at run
  dsimp only at run
  split at run
  · split at run <;> cases run <;> rfl
  · cases run

variable (mapping)

/-- The message that tells a user whom they wait for. -/
def waitingFor (library : MessageLibrary) (user : String) : UiMessage :=
  { library.uiDisplay with
    fields := [{ type := "p", value := .text ("Waiting for " ++ user ++ " reply..") }] }

/-- A message as it is published: to a user, if one is given. -/
def addressed (uiMessage : UiMessage) (userId : Option String) : Except PyException UiMessage :=
  match truthy userId with
  | some user => updateUiMessageRkeys mapping uiMessage none (some user)
  | none => .ok uiMessage

/-- The displays of `publish_ui_request`: the users that are not asked are told to wait. -/
def waitingDisplays (library : MessageLibrary) (request : UiMessage) :
    Except PyException (List UiMessage) :=
  if contains request.routingKey "ui.user." ∧ ¬ contains request.routingKey ".all." then do
    let waitingForUser ← getUserIdFromRkey request.routingKey
    if waitingForUser = "" then throw .assertionError
    let users := getSessionUsers mapping waitingForUser
    (if users = [] then ["all"] else users).mapM fun user =>
      addressed mapping (waitingFor library waitingForUser) (some user)
  else return []

/-- `publish_ui_request`, and `synch_request` before it waits: the displays, and the request as it is
published after them. -/
def publishUiRequest (library : MessageLibrary) (request : UiMessage) (userId : Option String) :
    Except PyException (List UiMessage × UiMessage) := do
  let request ← addressed mapping request userId
  let displays ← waitingDisplays mapping library request
  return (displays, request)

/-- Without a user given, a request is published as it is. -/
theorem publishUiRequest_none (library : MessageLibrary) (request : UiMessage) :
    publishUiRequest mapping library request none =
      (waitingDisplays mapping library request).map (·, request) := by
  change (waitingDisplays mapping library request).bind (fun displays => .ok (displays, request)) = _
  cases waitingDisplays mapping library request <;> rfl

end Publisher

end Ioppytest.UiAdaptor
