import Ioppytest.Lib.Agreement
import Ioppytest.UiAdaptor.MainLoop

/-!
# The main loop with bounded queues

A queue with a `maxsize` makes whoever puts something into it wait while it is full. The main thread
is the only one that gets something out of the three queues that it fills, so that it would wait
forever. The parts of the loop that fill queues are repeated here with such puts; the bounds are
parameters.
-/

namespace Ioppytest.UiAdaptor

open Agreement Raising

/-- How many messages the queues that the main thread fills can hold. -/
structure Limits where
  /-- Of `queue_messages_display_to_ui`. -/
  display : Nat
  /-- Of `queue_messages_request_to_ui`. -/
  request : Nat
  /-- Of `queue_messages_to_tt`. -/
  chained : Nat
  deriving DecidableEq

/-- The queues as they are constructed. -/
def Limits.constructed : Limits := ⟨Adaptor.maxsize, Adaptor.maxsize, Adaptor.maxsize⟩

/-- How a computation can end without returning. -/
inductive Stop where
  /-- It raises. -/
  | raised (exception : PyException)
  /-- It waits in front of a full queue. -/
  | blocked

/-- A computation of the main thread that may block. -/
abbrev BlockingThread (α : Type) : Type := EStateM Stop Adaptor α

namespace BlockingThread

/-- A computation that puts nothing into a queue. -/
abbrev free {α : Type} (body : MainThread α) : BlockingThread α := raisingAs .raised body

variable (limits : Limits)

/-- `put` of a queue that can hold so many messages. -/
def put (limit : Nat) (waiting : Adaptor → Nat) (add : Adaptor → Adaptor) :
    BlockingThread Unit := do
  if waiting (← get) < limit then modify add else throw .blocked

/-- `queue_messages_display_to_ui.put`. -/
def putDisplay (message : UiMessage) : BlockingThread Unit :=
  put limits.display (·.queueMessagesDisplayToUi.length) (·.putDisplay message)

/-- `queue_messages_request_to_ui.put`. -/
def putRequest (message : UiMessage) : BlockingThread Unit :=
  put limits.request (·.queueMessagesRequestToUi.length) (·.putRequest message)

/-- `queue_messages_to_tt.put`. -/
def putChained (message : ChainedMessage) : BlockingThread Unit :=
  put limits.chained (·.queueMessagesToTt.length) (·.putChained message)

/-- The first part of `process_message_from_testing_tool`. -/
def echoMessage (circumstances : Circumstances) (messageReceived : TtMessage) :
    BlockingThread Unit := do
  if messageReceived.type ∉ messagesNotToBeEchoed then
    if let some uiDisplayMessage ← free (lift circumstances.display) then
      let addressed ← free (lift
        (Publisher.updateUiMessageRkeys (← get).mapping uiDisplayMessage messageReceived none))
      putDisplay limits addressed

/-- The second part. -/
def requestInput (setup : Setup) (circumstances : Circumstances) (messageReceived : TtMessage) :
    BlockingThread Unit := do
  let translator := (← get).translator
  let request ← free (lift
    (translator.getUiRequestActionMessage setup circumstances.correlationId messageReceived))
  if let some uiRequestMessage := request then
    let addressed ← free (lift (Publisher.updateUiMessageRkeys (← get).mapping
      (translator.tagMessage uiRequestMessage) messageReceived none))
    putRequest limits addressed
    let corrId ← free (expect .attributeError addressed.correlationId)
    modify fun adaptor => { adaptor with
      translator := adaptor.translator.addPendingResponse corrId
        ⟨getFieldKeysFromUiRequest addressed, addressed, messageReceived⟩ }

/-- `process_message_from_testing_tool`. -/
def processMessageFromTestingTool (setup : Setup) (circumstances : Circumstances)
    (messageReceived : TtMessage) : BlockingThread Unit := do
  modify fun adaptor => { adaptor with
    translator := adaptor.translator.updateState messageReceived }
  echoMessage limits circumstances messageReceived
  requestInput limits setup circumstances messageReceived

/-- `process_message_from_ui`. -/
def processMessageFromUi (setup : Setup) (circumstances : Circumstances)
    (messageReceived : UiReply) : BlockingThread Unit := do
  let _ ← free (expect .attributeError messageReceived.fields)
  putDisplay limits (Translator.transformStringToUiMarkdownDisplay setup.library
    ("User replied to request: " ++ circumstances.fieldsText))
  if (← get).translator.isPendingResponse messageReceived then
    if let some responseToTt ←
        free (MainThread.call (Translator.translateUiToTtMessage setup messageReceived)) then
      putChained limits responseToTt

end BlockingThread

namespace Adaptor

/-- Where the main thread is after a part of the loop that fills queues; nowhere if it blocks. -/
def endingWithin (result : EStateM.Result Stop Adaptor Unit) (phase : Phase) : Option Adaptor :=
  match result with
  | .ok _ adaptor => some (adaptor.enter phase)
  | .error (.raised _) adaptor => some (adaptor.enter .stopped)
  | .error .blocked _ => none

/-- The next part of the loop; the parts that are left out fill no queue. -/
def proceedWithin (limits : Limits) (setup : Setup) (circumstances : Circumstances)
    (adaptor : Adaptor) : Option Adaptor :=
  match adaptor.phase, adaptor.queueMessagesFromTt, adaptor.queueMessagesFromUi with
  | .testingTool, message :: rest, _ =>
    endingWithin ((BlockingThread.processMessageFromTestingTool limits setup circumstances
      message).run { adaptor with queueMessagesFromTt := rest }) .displays
  | .reply, _, reply :: rest =>
    endingWithin ((BlockingThread.processMessageFromUi limits setup circumstances reply).run
      { adaptor with queueMessagesFromUi := rest }) .chained
  | _, _, _ => some (adaptor.proceed setup circumstances)

/-- The adaptor after an action; `none` if the main thread blocks. -/
def nextWithin (limits : Limits) (setup : Setup) (adaptor : Adaptor) (action : Action) :
    Option Adaptor :=
  match action with
  | .proceed circumstances => adaptor.proceedWithin limits setup circumstances
  | _ => some (adaptor.next setup action)

end Adaptor

end Ioppytest.UiAdaptor
