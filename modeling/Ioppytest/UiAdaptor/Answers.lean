import Ioppytest.UiAdaptor.Books
import Ioppytest.EventBus.Starts

/-!
# Answers to the messages of the coordinator

The models of the event bus give a user's reply with one field to a request of the coordinator
directly as an event for the coordinator. The translator does the same with the entry that its main
loop prepared for the request.
-/

namespace Ioppytest.UiAdaptor

/-- The event that a message for the testing tool is for the coordinator, which does not listen for
the abort of a test suite; `node` is the one of a message that is constructed without. -/
def ChainedMessage.event? (node : Option String) : ChainedMessage → Option Event
  | .testSuiteStart => some .testSuiteStart
  | .testSuiteAbort => none
  | .testCaseStart testcaseId => some (.testCaseStart (some testcaseId))
  | .testCaseRestart => some .testCaseRestart
  | .testCaseSkip testcaseId => some (.testCaseSkip (some testcaseId))
  | .stepVerifyExecuted _ verifyResponse =>
    some (.stepVerifyExecuted (some (some verifyResponse)) node)
  | .testCaseSelect testcaseId => some (.testCaseSelect (some testcaseId))
  | .stepStimuliExecuted node _ => some (.stepStimuliExecuted (some node))

/-- What the UI adaptor reads from a message of the coordinator on which it asks users. -/
def TtMessage.ofMessage? : Message → Option TtMessage
  | .testCaseReady _ tc =>
    some { type := .testCaseReady, testcaseId := some (some tc.testcaseId) }
  | .stepStimuliExecute _ step tc _ =>
    some
      { type := .stepStimuliExecute
        testcaseId := some (some tc.testcaseId)
        stepId := some (some step.stepId)
        node := step.iut.map (some ·.node) }
  | .stepVerifyExecute _ step tc =>
    some
      { type := .stepVerifyExecute
        testcaseId := some (some tc.testcaseId)
        stepId := some (some step.stepId)
        node := step.iut.map (some ·.node) }
  | .testCaseVerdict _ tc =>
    some { type := .testCaseVerdict, testcaseId := some (some tc.testcaseId) }
  | _ => none

/-- A reply with one field. -/
def UiReply.ofField (correlationId action : String) (userInput : UserInput) : UiReply where
  correlationId := some (some correlationId)
  fields := some (some [.dict (OrderedDict.empty.insert action userInput)])

variable {setup : Setup} {translator : Translator} {request : UiMessage} {entry : PendingResponse}
  {correlationId action : String} {userInput : UserInput}

/-- The names that a user is asked for are the ones that the request shows. -/
theorem requestedNames {messageFromTt : TtMessage}
    (asked : translator.getUiRequestActionMessage setup correlationId messageFromTt =
      .ok (some request)) :
    getFieldKeysFromUiRequest request =
      match messageFromTt.type with
      | .testCaseReady => ["tc_start", "tc_skip"]
      | .stepStimuliExecute => ["stimuli_executed"]
      | .stepVerifyExecute => ["verify_executed", "verify_executed"]
      | .testCaseVerdict => ["restart_testcase"]
      | _ => [] := by
  unfold Translator.getUiRequestActionMessage at asked
  split at asked
  · cases asked
  · cases asked
  · rename_i found _
    cases asked
    cases type : messageFromTt.type <;> rw [type] at found <;> cases found <;> rfl

namespace Translator

/-- A reply with one field is translated by the handler for it, if the field was requested. -/
theorem chainedMessage_ofField :
    chainedMessage setup translator entry (.ofField correlationId action userInput) =
      if action ∈ entry.uiRequestedFieldNameList then
        match runHandler setup translator action userInput entry.ttRequestOriginator with
        | .error .keyError => .ok none
        | result => result
      else .error .assertionError := by
  have keys : getFieldKeysFromUiReply (.ofField correlationId action userInput) =
      .ok [action] := rfl
  have value : getFieldValueFromUiReply (.ofField correlationId action userInput) action =
      userInput := by
    simp [getFieldValueFromUiReply, UiReply.ofField, ReplyItem.get?, OrderedDict.get?_insert]
  unfold chainedMessage
  rw [keys]
  by_cases requested : action ∈ entry.uiRequestedFieldNameList
  · simp only [bind, Except.bind, List.length_singleton, lt_irrefl, ↓reduceIte, List.head?_cons,
      if_neg (not_not_intro requested), if_pos requested, value]
    rfl
  · simp only [bind, Except.bind, List.length_singleton, lt_irrefl, ↓reduceIte, List.head?_cons,
      if_pos requested, if_neg requested]
    rfl

/-- The event that a translated reply is for the coordinator. -/
def eventOf (node : Option String) (translated : Except PyException (Option ChainedMessage)) :
    Except PyException (Option Event) :=
  translated.map (·.bind (·.event? node))

/-- The translator for CoAP has all handlers. -/
theorem runHandler_coap (coap : setup.translatorClass = .coap) (originator : TtMessage) :
    runHandler setup translator action userInput originator =
      uiToTtMessageTranslation setup.lower translator action userInput originator := by
  unfold runHandler
  rw [coap]
  split
  · rename_i failed
    exact failed.symm
  · rename_i wrong _
    cases wrong
  · rfl

/-- A reply for a field that the request does not have is refused by both. -/
theorem chainedMessage_unrequested {message : Message} {node : Option String}
    {originator : TtMessage} (absent : action ∉ getFieldKeysFromUiRequest request)
    (other : MessageTranslator.requestedField message ≠ some action) :
    eventOf node (chainedMessage setup translator (MainThread.entryOf request originator)
        (.ofField correlationId action userInput)) =
      MessageTranslator.translateUiToTtMessage setup.lower node message action userInput := by
  rw [chainedMessage_ofField, MainThread.entryOf, if_neg absent,
    MessageTranslator.translateUiToTtMessage, if_neg other]
  rfl

/-- A reply to the request for the execution of a stimuli step. -/
theorem chainedMessage_stimuli {description : List String} {step : StepInfo} {tc : TestCaseInfo}
    {targetAddress node : Option String} {originator : TtMessage}
    (coap : setup.translatorClass = .coap)
    (observed : TtMessage.ofMessage? (.stepStimuliExecute description step tc targetAddress) =
      some originator)
    (asked : translator.getUiRequestActionMessage setup correlationId originator =
      .ok (some request)) :
    eventOf node (chainedMessage setup translator (MainThread.entryOf request originator)
        (.ofField correlationId action userInput)) =
      MessageTranslator.translateUiToTtMessage setup.lower node
        (.stepStimuliExecute description step tc targetAddress) action userInput := by
  cases observed
  have names := requestedNames asked
  by_cases here : action = "stimuli_executed"
  · subst here
    rw [chainedMessage_ofField, runHandler_coap coap, MainThread.entryOf, names]
    rfl
  · have absent : action ∉ getFieldKeysFromUiRequest request := by
      rw [names]
      simpa using here
    exact chainedMessage_unrequested absent fun same => here (Option.some.inj same).symm

/-- A reply to the request for the execution of a verify step. -/
theorem chainedMessage_verify {description : List String} {step : StepInfo} {tc : TestCaseInfo}
    {node : Option String} {originator : TtMessage} (coap : setup.translatorClass = .coap)
    (observed : TtMessage.ofMessage? (.stepVerifyExecute description step tc) = some originator)
    (asked : translator.getUiRequestActionMessage setup correlationId originator =
      .ok (some request)) :
    eventOf node (chainedMessage setup translator (MainThread.entryOf request originator)
        (.ofField correlationId action userInput)) =
      MessageTranslator.translateUiToTtMessage setup.lower node
        (.stepVerifyExecute description step tc) action userInput := by
  cases observed
  have names := requestedNames asked
  by_cases here : action = "verify_executed"
  · subst here
    rw [chainedMessage_ofField, runHandler_coap coap, MainThread.entryOf, names]
    have answer : (getTtMessageStepVerifyExecuted setup.lower userInput).bind (·.event? node) =
        MessageTranslator.getTtMessageStepVerifyExecuted setup.lower node userInput := by
      unfold getTtMessageStepVerifyExecuted MessageTranslator.getTtMessageStepVerifyExecuted
      cases userInput with
      | boolean value => rfl
      | other => rfl
      | text value =>
        simp only [verifyAnswer]
        split
        · rfl
        · split <;> rfl
    exact congrArg Except.ok answer
  · have absent : action ∉ getFieldKeysFromUiRequest request := by
      rw [names]
      simpa using here
    exact chainedMessage_unrequested absent fun same => here (Option.some.inj same).symm

/-- A reply to the announcement of a test case. -/
theorem chainedMessage_ready {configuration : ConfigurationInfo} {tc : VerboseTestCaseInfo}
    {node : Option String} {originator : TtMessage} (coap : setup.translatorClass = .coap)
    (observed : TtMessage.ofMessage? (.testCaseReady configuration tc) = some originator)
    (asked : translator.getUiRequestActionMessage setup correlationId originator =
      .ok (some request)) :
    eventOf node (chainedMessage setup translator (MainThread.entryOf request originator)
        (.ofField correlationId action userInput)) =
      (MessageTranslator.translateReadyReply translator.currentTc tc.testcaseId action).map
        some := by
  cases observed
  have names := requestedNames asked
  rw [chainedMessage_ofField, runHandler_coap coap, MainThread.entryOf, names]
  unfold MessageTranslator.translateReadyReply
  by_cases requested : action ∈ MessageTranslator.uiRequestTestcaseStart
  · rcases List.mem_pair.mp requested with rfl | rfl <;> rfl
  · have absent : action ∉ ["tc_start", "tc_skip"] := requested
    rw [if_neg requested]
    exact congrArg (eventOf node) (if_neg absent)

end Translator

end Ioppytest.UiAdaptor
