import Ioppytest.TestCoordinator.Messages

/-!
# Who answers the execution requests

The two components that answer a request for the execution of a step: the message translator of the
UI adaptor, which asks a user and keeps the request in its table of pending responses, and an
automated IUT, which acts on the requests for its own node. Neither answer says which step or which
test case it is about.
-/

namespace Ioppytest

/-- The step that a message asks an IUT to execute. -/
def Message.stepRequest? : Message → Option StepInfo
  | .stepStimuliExecute _ step _ _ => some step
  | .stepVerifyExecute _ step _ => some step
  | _ => none

/-- The node that is to execute it. -/
def Message.node? (message : Message) : Option String :=
  (message.stepRequest?.bind (·.iut)).map (·.node)

/-- The value of the field of a user's reply. -/
inductive UserInput where
  | boolean (value : Bool)
  | text (value : String)
  | other
  deriving DecidableEq

namespace MessageTranslator

/-- The field that the UI is asked for, by `_ui_request_step_stimuli_executed` and
`_ui_request_step_verification`. -/
def requestedField : Message → Option String
  | .stepStimuliExecute .. => some "stimuli_executed"
  | .stepVerifyExecute .. => some "verify_executed"
  | _ => none

/-- `get_tt_message_step_verify_executed`; `lower` is `str.lower`, and `node` the one of a message
that is constructed without. -/
def getTtMessageStepVerifyExecuted (lower : String → String) (node : Option String)
    (userInput : UserInput) : Option Event :=
  match userInput with
  | .text value =>
    if lower value = "true" then some (.stepVerifyExecuted (some (some true)) node)
    else if lower value = "false" then some (.stepVerifyExecuted (some (some false)) node)
    else none
  | .boolean value => some (.stepVerifyExecuted (some (some value)) node)
  | .other => none

/-- `get_tt_message_step_stimuli_executed`. -/
def getTtMessageStepStimuliExecuted (_userInput : UserInput) : Option Event :=
  some (.stepStimuliExecuted (some "coap_client"))

/-- The entries of `ui_to_tt_message_translation` for steps. -/
def uiToTtMessageTranslation (lower : String → String) (node : Option String) (action : String)
    (userInput : UserInput) : Option Event :=
  if action = "verify_executed" then getTtMessageStepVerifyExecuted lower node userInput
  else if action = "stimuli_executed" then getTtMessageStepStimuliExecuted userInput
  else none

/-- `translate_ui_to_tt_message` for a reply with one field to a pending request; a field that was
not requested fails an assertion. -/
def translateUiToTtMessage (lower : String → String) (node : Option String) (request : Message)
    (action : String) (userInput : UserInput) : Except PyException (Option Event) :=
  if requestedField request = some action then
    .ok (uiToTtMessageTranslation lower node action userInput)
  else .error .assertionError

end MessageTranslator

namespace AutomatedIut

/-- `handle_stimuli_execute` of the IUT for a node; a stimuli that is not implemented is answered
like any other. -/
def handleStimuliExecute (node : String) (event : Message) : Option Event :=
  if event.node? = some node then some (.stepStimuliExecuted (some node)) else none

/-- `handle_test_case_verify_execute`. -/
def handleTestCaseVerifyExecute (node : String) (event : Message) : Option Event :=
  if event.node? = some node then some (.stepVerifyExecuted (some (some true)) (some node))
  else none

/-- `on_request` for execution requests. -/
def onRequest (node : String) (event : Message) : Option Event :=
  match event with
  | .stepStimuliExecute .. => handleStimuliExecute node event
  | .stepVerifyExecute .. => handleTestCaseVerifyExecute node event
  | _ => none

end AutomatedIut

/-- An answer to a stimuli or a verify step that carries all that the coordinator reads. -/
def Event.IsAnswer : Event → Prop
  | .stepStimuliExecuted _ => True
  | .stepVerifyExecuted (some (some _)) _ => True
  | _ => False

/-- Users answer with answers to steps. -/
theorem MessageTranslator.isAnswer {lower : String → String} {node : Option String}
    {request : Message} {action : String} {userInput : UserInput} {event : Event}
    (translated : translateUiToTtMessage lower node request action userInput = .ok (some event)) :
    event.IsAnswer := by
  unfold translateUiToTtMessage at translated
  split at translated
  · have answer := Except.ok.inj translated
    unfold uiToTtMessageTranslation at answer
    split at answer
    · unfold getTtMessageStepVerifyExecuted at answer
      split at answer
      · split at answer
        · cases answer
          trivial
        · split at answer <;> cases answer
          trivial
      · cases answer
        trivial
      · cases answer
    · split at answer <;> cases answer
      trivial
  · cases translated

/-- So do automated IUTs, and they answer only requests for their own node. -/
theorem AutomatedIut.onRequest_eq_some {node : String} {request : Message} {event : Event}
    (answer : onRequest node request = some event) :
    event.IsAnswer ∧ request.node? = some node := by
  unfold onRequest at answer
  split at answer
  · unfold handleStimuliExecute at answer
    split at answer
    · rename_i here
      cases answer
      exact ⟨trivial, here⟩
    · cases answer
  · unfold handleTestCaseVerifyExecute at answer
    split at answer
    · rename_i here
      cases answer
      exact ⟨trivial, here⟩
    · cases answer
  · cases answer

end Ioppytest
