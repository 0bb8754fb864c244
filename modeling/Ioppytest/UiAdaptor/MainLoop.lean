import Ioppytest.UiAdaptor.Publisher
import Ioppytest.Lib.Runs

/-!
# The main loop of the UI adaptor

`process_message_from_ui`, `process_message_from_testing_tool` and the loop that dispatches messages
between five queues. Two listener threads fill the queues of received messages at any time; the
main thread goes through the parts of the loop in order, and an exception ends it.
-/

namespace Ioppytest.UiAdaptor

open Raising

/-- A message that the UI adaptor publishes. -/
inductive Publication where
  | display (message : UiMessage)
  | request (message : UiMessage)
  | chained (message : ChainedMessage)
  deriving DecidableEq

/-- The part of the loop that the main thread executes next. -/
inductive Phase where
  /-- Get the next message of the testing tool. -/
  | testingTool
  /-- Publish all displays. -/
  | displays
  /-- Publish one request. -/
  | request
  /-- Get the next reply of a user. -/
  | reply
  /-- Publish all messages for the testing tool. -/
  | chained
  /-- Look for new users, every now and then. -/
  | newUsers
  /-- The main thread has ended. -/
  | stopped
  deriving DecidableEq

/-- The UI adaptor. -/
structure Adaptor where
  /-- `message_translator`. -/
  translator : Translator := {}
  /-- `iut_role_to_user_id_mapping`. -/
  mapping : RoleMapping
  /-- `queue_messages_display_to_ui`. -/
  queueMessagesDisplayToUi : List UiMessage := []
  /-- `queue_messages_request_to_ui`. -/
  queueMessagesRequestToUi : List UiMessage := []
  /-- `queue_messages_from_tt`. -/
  queueMessagesFromTt : List TtMessage
  /-- `queue_messages_from_ui`. -/
  queueMessagesFromUi : List UiReply := []
  /-- `queue_messages_to_tt`. -/
  queueMessagesToTt : List ChainedMessage := []
  /-- What has been published, in order. -/
  bus : List Publication := []
  /-- Where the main thread is. -/
  phase : Phase := .testingTool

/-- What one part of the loop finds in its environment. -/
structure Circumstances where
  /-- What `translate_tt_to_ui_message` returns for a message that is echoed. -/
  display : Except PyException (Option UiMessage)
  /-- The correlation id of a request that is constructed. -/
  correlationId : String
  /-- The rendering of the fields of a reply. -/
  fieldsText : String
  /-- What is published for new users, if they are looked for now. -/
  newUsers : Except PyException (List UiMessage)

/-- What can happen next. -/
inductive Action where
  /-- A listener thread has received a message of the testing tool. -/
  | fromTt (message : TtMessage)
  /-- A listener thread has received a reply. -/
  | fromUi (reply : UiReply)
  /-- The main thread executes the next part of the loop. -/
  | proceed (circumstances : Circumstances)
  /-- The main thread is interrupted. -/
  | interrupt

/-- A computation of the main thread. -/
abbrev MainThread (α : Type) : Type := EStateM PyException Adaptor α

namespace Adaptor

/-- The adaptor when it enters the loop; messages of the testing tool may be waiting. -/
def initial (mapping : RoleMapping) (waiting : List TtMessage) : Adaptor where
  mapping := mapping
  queueMessagesFromTt := waiting

/-- Move on to a part of the loop. -/
def enter (adaptor : Adaptor) (phase : Phase) : Adaptor := { adaptor with phase }

/-- Publish messages. -/
def publish (adaptor : Adaptor) (messages : List Publication) : Adaptor :=
  { adaptor with bus := adaptor.bus ++ messages }

/-- `queue_messages_display_to_ui.put`. -/
def putDisplay (adaptor : Adaptor) (message : UiMessage) : Adaptor :=
  { adaptor with queueMessagesDisplayToUi := adaptor.queueMessagesDisplayToUi ++ [message] }

/-- `queue_messages_request_to_ui.put`. -/
def putRequest (adaptor : Adaptor) (message : UiMessage) : Adaptor :=
  { adaptor with queueMessagesRequestToUi := adaptor.queueMessagesRequestToUi ++ [message] }

/-- `queue_messages_to_tt.put`. -/
def putChained (adaptor : Adaptor) (message : ChainedMessage) : Adaptor :=
  { adaptor with queueMessagesToTt := adaptor.queueMessagesToTt ++ [message] }

end Adaptor

namespace MainThread

/-- Call a method of the translator. -/
def call {α : Type} (method : Translation α) : MainThread α := fun adaptor =>
  match method.run adaptor.translator with
  | .ok value translator => .ok value { adaptor with translator }
  | .error exception translator => .error exception { adaptor with translator }

/-- The first part of `process_message_from_testing_tool`: echo a message to the users. -/
def echoMessage (circumstances : Circumstances) (messageReceived : TtMessage) :
    MainThread Unit := do
  if messageReceived.type ∉ messagesNotToBeEchoed then
    if let some uiDisplayMessage ← lift circumstances.display then
      let addressed ← lift
        (Publisher.updateUiMessageRkeys (← get).mapping uiDisplayMessage messageReceived none)
      modify (·.putDisplay addressed)

/-- The second part: request input from a user, and prepare the entry for the table of pending
responses. -/
def requestInput (setup : Setup) (circumstances : Circumstances) (messageReceived : TtMessage) :
    MainThread Unit := do
  let translator := (← get).translator
  let request ← lift
    (translator.getUiRequestActionMessage setup circumstances.correlationId messageReceived)
  if let some uiRequestMessage := request then
    let addressed ← lift (Publisher.updateUiMessageRkeys (← get).mapping
      (translator.tagMessage uiRequestMessage) messageReceived none)
    modify (·.putRequest addressed)
    let corrId ← expect .attributeError addressed.correlationId
    modify fun adaptor => { adaptor with
      translator := adaptor.translator.addPendingResponse corrId
        ⟨getFieldKeysFromUiRequest addressed, addressed, messageReceived⟩ }

/-- `process_message_from_testing_tool`. -/
def processMessageFromTestingTool (setup : Setup) (circumstances : Circumstances)
    (messageReceived : TtMessage) : MainThread Unit := do
  modify fun adaptor => { adaptor with
    translator := adaptor.translator.updateState messageReceived }
  echoMessage circumstances messageReceived
  requestInput setup circumstances messageReceived

/-- `process_message_from_ui`; a reply that is not pending is a duplicate, or comes too late. -/
def processMessageFromUi (setup : Setup) (circumstances : Circumstances)
    (messageReceived : UiReply) : MainThread Unit := do
  let _ ← expect .attributeError messageReceived.fields
  modify (·.putDisplay (Translator.transformStringToUiMarkdownDisplay setup.library
    ("User replied to request: " ++ circumstances.fieldsText)))
  if (← get).translator.isPendingResponse messageReceived then
    if let some responseToTt ← call (Translator.translateUiToTtMessage setup messageReceived) then
      modify (·.putChained responseToTt)

/-- `publish_ui_request`. -/
def publishUiRequest (setup : Setup) (request : UiMessage) : MainThread Unit := do
  let displays ← lift (Publisher.waitingDisplays (← get).mapping setup.library request)
  modify (·.publish (displays.map .display ++ [.request request]))

end MainThread

namespace Adaptor

/-- Where the main thread is after a part of the loop: an exception ends it. -/
def ending (result : EStateM.Result PyException Adaptor Unit) (phase : Phase) : Adaptor :=
  match result with
  | .ok _ adaptor => adaptor.enter phase
  | .error _ adaptor => adaptor.enter .stopped

/-- The main thread executes the next part of the loop; the parts that empty a queue publish one
message at a time. -/
def proceed (setup : Setup) (circumstances : Circumstances) (adaptor : Adaptor) : Adaptor :=
  match adaptor.phase with
  | .testingTool =>
    match adaptor.queueMessagesFromTt with
    | [] => adaptor.enter .displays
    | message :: rest =>
      ending ((MainThread.processMessageFromTestingTool setup circumstances message).run
        { adaptor with queueMessagesFromTt := rest }) .displays
  | .displays =>
    match adaptor.queueMessagesDisplayToUi with
    | [] => adaptor.enter .request
    | message :: rest =>
      { adaptor with queueMessagesDisplayToUi := rest }.publish [.display message]
  | .request =>
    match adaptor.queueMessagesRequestToUi with
    | [] => adaptor.enter .reply
    | request :: rest =>
      ending ((MainThread.publishUiRequest setup request).run
        { adaptor with queueMessagesRequestToUi := rest }) .reply
  | .reply =>
    match adaptor.queueMessagesFromUi with
    | [] => adaptor.enter .chained
    | reply :: rest =>
      ending ((MainThread.processMessageFromUi setup circumstances reply).run
        { adaptor with queueMessagesFromUi := rest }) .chained
  | .chained =>
    match adaptor.queueMessagesToTt with
    | [] => adaptor.enter .newUsers
    | message :: rest => { adaptor with queueMessagesToTt := rest }.publish [.chained message]
  | .newUsers =>
    match circumstances.newUsers with
    | .ok displays => (adaptor.publish (displays.map .display)).enter .testingTool
    | .error _ => adaptor.enter .stopped
  | .stopped => adaptor

/-- `maxsize` of the queues. -/
def maxsize : Nat := 100

/-- The adaptor after an action; a listener thread waits while its queue is full. -/
def next (setup : Setup) (adaptor : Adaptor) : Action → Adaptor
  | .fromTt message =>
    if adaptor.queueMessagesFromTt.length < maxsize then
      { adaptor with queueMessagesFromTt := adaptor.queueMessagesFromTt ++ [message] }
    else adaptor
  | .fromUi reply =>
    if adaptor.queueMessagesFromUi.length < maxsize then
      { adaptor with queueMessagesFromUi := adaptor.queueMessagesFromUi ++ [reply] }
    else adaptor
  | .proceed circumstances => adaptor.proceed setup circumstances
  | .interrupt => adaptor.enter .stopped

end Adaptor

end Ioppytest.UiAdaptor
