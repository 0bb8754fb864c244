import Ioppytest.UiAdaptor.Messages
import Ioppytest.Exceptions
import Ioppytest.Lib.Raising

/-!
# The message translator

`message_translators.GenericBidirectonalTranslator` and its subclasses: which requests are made of a
user on messages of the testing tool, the table of the requests that are still to be answered, and
which message for the testing tool a reply is turned into. The subclass for CoAP has all handlers,
and the ones for other protocols inherit them; the dummy one has none.
-/

namespace Ioppytest.UiAdaptor

open PyString Raising

/-- Whose handlers a translator has. -/
inductive TranslatorClass where
  | coap
  | dummy
  deriving DecidableEq

/-- What does not change while the UI adaptor is running. -/
structure Setup where
  /-- The class of the translator. -/
  translatorClass : TranslatorClass
  /-- `str.lower`. -/
  lower : String → String
  /-- The library of messages. -/
  library : MessageLibrary

/-- A setup in which strings are in lower case already. -/
def Setup.plain : Setup where
  translatorClass := .coap
  lower := id
  library :=
    ⟨{ routingKey := "ui.user.all.request", replyTo := "ui.user.all.reply" },
      { routingKey := "ui.user.all.display" }, { routingKey := "ui.user.all.display" }⟩

/-- An entry of `_pending_responses`. -/
structure PendingResponse where
  /-- `ui_requested_field_name_list`. -/
  uiRequestedFieldNameList : List String
  /-- `ui_request_message`. -/
  uiRequestMessage : UiMessage
  /-- `tt_request_originator`. -/
  ttRequestOriginator : TtMessage
  deriving DecidableEq

/-- A message translator. -/
structure Translator where
  /-- `_current_tc`. -/
  currentTc : Option String := none
  /-- `_current_step`. -/
  currentStep : Option String := none
  /-- `_pending_responses`. -/
  pendingResponses : OrderedDict String PendingResponse := .empty

/-- A method of the translator: it may raise, and keeps its mutations when it does. -/
abbrev Translation (α : Type) : Type := EStateM PyException Translator α

/-- `get_field_keys_from_ui_request`. -/
def getFieldKeysFromUiRequest (uiMessage : UiMessage) : List String :=
  uiMessage.fields.filterMap (·.name)

/-- The keys of an entry of a reply. -/
def ReplyItem.keys : ReplyItem → Except PyException (List String)
  | .dict entries => .ok (entries.items.map Prod.fst)
  | .other => .error .attributeError

/-- The value of an entry of a reply at a key. -/
def ReplyItem.get? (item : ReplyItem) (key : String) : Option UserInput :=
  match item with
  | .dict entries => entries.get? key
  | .other => none

/-- `get_field_keys_from_ui_reply`: a set, in some order. -/
def getFieldKeysFromUiReply (uiMessage : UiReply) : Except PyException (List String) :=
  match uiMessage.fields with
  | none => .error .attributeError
  | some none => .error .typeError
  | some (some items) => (items.mapM ReplyItem.keys).map (·.flatten.dedup)

/-- `get_field_value_from_ui_reply`: the first value at the key. -/
def getFieldValueFromUiReply (uiMessage : UiReply) (field : String) : UserInput :=
  ((uiMessage.fields.join.getD []).findSome? (·.get? field)).getD .other

namespace Translator

/-- `update_state`, apart from the history of messages, which is only logged. -/
def updateState (translator : Translator) (message : TtMessage) : Translator :=
  { translator with
    currentTc := (truthy message.testcaseId.join).or translator.currentTc
    currentStep := (truthy message.stepId.join).or translator.currentStep }

/-- `tag_message`. -/
def tagMessage (translator : Translator) (msg : UiMessage) : UiMessage :=
  if msg.tags = [] then
    match translator.currentTc with
    | some testcaseId => { msg with tags := [("testcase", testcaseId)] }
    | none => { msg with tags := [("logs", "")] }
  else msg

/-- `transform_string_to_ui_markdown_display`. -/
def transformStringToUiMarkdownDisplay (library : MessageLibrary) (text : String) : UiMessage :=
  { library.uiDisplayMarkdownText with fields := [{ type := "p", value := .text text }] }

/-- `add_pending_response`: an entry with the same id is overwritten. -/
def addPendingResponse (translator : Translator) (corrId : String) (entry : PendingResponse) :
    Translator :=
  { translator with pendingResponses := translator.pendingResponses.insert corrId entry }

/-- `is_pending_response`. -/
def isPendingResponse (translator : Translator) (message : UiReply) : Bool :=
  (message.correlationId.join.bind translator.pendingResponses.get?).isSome

/-- `pop_pending_response`. -/
def popPendingResponse (correlationId : Option String) : Translation (Option PendingResponse) := do
  let translator ← get
  match correlationId with
  | none => return none
  | some id =>
    set { translator with pendingResponses := translator.pendingResponses.erase id }
    return translator.pendingResponses.get? id

/-- A button. -/
def button (name : String) (value : UserInput) : Field := { type := "button", name, value }

/-- A paragraph. -/
def paragraph (text : String) : Field := { type := "p", value := .text text }

/-- The value that shows an id. -/
def shown (id : Option String) : UserInput := id.elim .other .text

variable (translator : Translator) (request : UiMessage)

/-- `_ui_request_testcase_start`, on a request as it is constructed. -/
def uiRequestTestcaseStart : UiMessage :=
  { request with
    title := some ("Do you want to start the TEST CASE <" ++ translator.currentTc.getD "None" ++ ">?")
    fields := [button "tc_start" (.boolean true), button "tc_skip" (.boolean true)] }

/-- `_ui_request_step_stimuli_executed`. -/
def uiRequestStepStimuliExecuted : UiMessage :=
  { request with
    fields :=
      [paragraph ("Confirm executing " ++ translator.currentStep.getD "None" ++
          " (see description below)"),
        button "stimuli_executed" (.boolean true)] }

/-- `_ui_request_step_verification`. -/
def uiRequestStepVerification : UiMessage :=
  { request with
    fields :=
      [paragraph ("Please verify " ++ translator.currentStep.getD "None" ++
          " (see description below)"),
        { type := "radio", name := "verify_executed", label := "OK", value := .boolean true },
        { type := "radio", name := "verify_executed", label := "Not OK", value := .boolean false }] }

/-- `_ui_request_testcase_restart`. -/
def uiRequestTestcaseRestart : UiMessage :=
  { request with
    fields :=
      [paragraph "Would you like to run again the test case?",
        button "restart_testcase" (shown translator.currentTc)] }

/-- `tt_to_ui_message_translation`. -/
def ttToUiMessageTranslation : TtMessageType → Option (Translator → UiMessage → UiMessage)
  | .testCaseReady => some uiRequestTestcaseStart
  | .stepStimuliExecute => some uiRequestStepStimuliExecuted
  | .stepVerifyExecute => some uiRequestStepVerification
  | .testCaseVerdict => some uiRequestTestcaseRestart
  | _ => none

variable {translator request}

/-- `get_ui_request_action_message`; the request is constructed with a new correlation id. -/
def getUiRequestActionMessage (setup : Setup) (translator : Translator) (correlationId : String)
    (messageFromTt : TtMessage) : Except PyException (Option UiMessage) :=
  match ttToUiMessageTranslation messageFromTt.type, setup.translatorClass with
  | none, _ => .ok none
  | some _, .dummy => .error .notImplementedError
  | some action, .coap =>
    .ok (some (action translator { setup.library.uiRequestConfirmationButton with
      correlationId := some correlationId }))

/-- Tags leave the correlation id. -/
@[simp] theorem tagMessage_correlationId (translator : Translator) (msg : UiMessage) :
    (translator.tagMessage msg).correlationId = msg.correlationId := by
  unfold tagMessage
  split
  · split <;> rfl
  · rfl

/-- A request keeps the correlation id that it is constructed with. -/
theorem getUiRequestActionMessage_correlationId {setup : Setup} {correlationId : String}
    {messageFromTt : TtMessage} (asked : getUiRequestActionMessage setup translator correlationId
      messageFromTt = .ok (some request)) : request.correlationId = some correlationId := by
  unfold getUiRequestActionMessage at asked
  split at asked
  · cases asked
  · cases asked
  · rename_i action found _
    cases asked
    unfold ttToUiMessageTranslation at found
    split at found <;> cases found <;> rfl

/-- The answer to a verify step that a value stands for. -/
def verifyAnswer (lower : String → String) : UserInput → Option Bool
  | .text value =>
    if lower value = "true" then some true else if lower value = "false" then some false else none
  | .boolean value => some value
  | .other => none

/-- `get_tt_message_step_verify_executed`. -/
def getTtMessageStepVerifyExecuted (lower : String → String) (userInput : UserInput) :
    Option ChainedMessage :=
  (verifyAnswer lower userInput).map (.stepVerifyExecuted "bool")

/-- `get_tt_message_testcase_restart_last_executed`. -/
def getTtMessageTestcaseRestartLastExecuted : UserInput → Option ChainedMessage
  | .text testcaseId => some (.testCaseSelect testcaseId)
  | _ => none

/-- `get_tt_message_testcase_skip`. -/
def getTtMessageTestcaseSkip (originTtMessage : TtMessage) :
    Except PyException (Option ChainedMessage) :=
  match originTtMessage.testcaseId with
  | none => .error .attributeError
  | some testcaseId => .ok (some (.testCaseSkip testcaseId))

/-- The handlers in `ui_to_tt_message_translation`, as the subclass for CoAP implements them. -/
def uiToTtMessageTranslation (lower : String → String) (translator : Translator) (action : String)
    (userInput : UserInput) (originTtMessage : TtMessage) :
    Except PyException (Option ChainedMessage) :=
  match action with
  | "ts_start" => .ok (some .testSuiteStart)
  | "ts_abort" => .ok (some .testSuiteAbort)
  | "tc_start" => .ok (some (.testCaseStart translator.currentTc))
  | "tc_restart" => .ok (some .testCaseRestart)
  | "tc_skip" => getTtMessageTestcaseSkip originTtMessage
  | "restart_testcase" => .ok (getTtMessageTestcaseRestartLastExecuted userInput)
  | "verify_executed" => .ok (getTtMessageStepVerifyExecuted lower userInput)
  | "stimuli_executed" => .ok (some (.stepStimuliExecuted "coap_client" "user_assisted"))
  | _ => .error .keyError

/-- A handler is looked up and called; the dummy translator implements none of them. -/
def runHandler (setup : Setup) (translator : Translator) (action : String) (userInput : UserInput)
    (originTtMessage : TtMessage) : Except PyException (Option ChainedMessage) :=
  match uiToTtMessageTranslation setup.lower translator action userInput originTtMessage,
    setup.translatorClass with
  | .error .keyError, _ => .error .keyError
  | _, .dummy => .error .notImplementedError
  | result, .coap => result

/-- The message that a reply to a pending request leads to. -/
def chainedMessage (setup : Setup) (translator : Translator) (entry : PendingResponse)
    (reply : UiReply) : Except PyException (Option ChainedMessage) := do
  let responseFieldsNames ← getFieldKeysFromUiReply reply
  if 1 < responseFieldsNames.length then
    throw (.exception "UI returned a reply with two or more fields")
  match responseFieldsNames.head? with
  | none => throw .indexError
  | some userInputAction =>
    if userInputAction ∉ entry.uiRequestedFieldNameList then throw .assertionError
    let userInputValue := getFieldValueFromUiReply reply userInputAction
    match runHandler setup translator userInputAction userInputValue entry.ttRequestOriginator with
    | .error .keyError => return none
    | result => result

/-- `translate_ui_to_tt_message`: the entry is popped before the reply is looked at. -/
def translateUiToTtMessage (setup : Setup) (reply : UiReply) :
    Translation (Option ChainedMessage) := do
  let correlationId ← expect .attributeError reply.correlationId
  let entry ← expect .typeError (← popPendingResponse correlationId)
  lift (chainedMessage setup (← get) entry reply)

/-- The table without an entry. -/
def without (translator : Translator) (id : String) : Translator :=
  { translator with pendingResponses := translator.pendingResponses.erase id }

variable {setup : Setup} {translator : Translator} {reply : UiReply} {id : String}

/-- A pending reply is translated after its entry has been dropped. -/
theorem translateUiToTtMessage_run {entry : PendingResponse}
    (named : reply.correlationId = some (some id))
    (pending : translator.pendingResponses.get? id = some entry) :
    (translateUiToTtMessage setup reply).run translator =
      (lift (chainedMessage setup (translator.without id) entry reply)).run
        (translator.without id) := by
  simp [translateUiToTtMessage, popPendingResponse, named, pending, without]

/-- A reply is pending exactly when the table has an entry for its correlation id. -/
theorem isPendingResponse_iff : translator.isPendingResponse reply = true ↔
    ∃ id entry, reply.correlationId = some (some id) ∧
      translator.pendingResponses.get? id = some entry := by
  unfold isPendingResponse
  match reply.correlationId with
  | none => simp
  | some none => simp
  | some (some id) => simp [Option.isSome_iff_exists]

end Translator

end Ioppytest.UiAdaptor
