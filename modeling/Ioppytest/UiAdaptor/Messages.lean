import Ioppytest.EventBus.Responders
import Ioppytest.Lib.OrderedDict
import Ioppytest.Lib.PyString

/-!
# Messages of the UI adaptor

What the UI adaptor receives from the testing tool and from the UI, and what it sends to both. The
classes of these messages come from a library: what it fixes about them is a parameter, and a
received message may lack an attribute.
-/

namespace Ioppytest.UiAdaptor

open PyString

/-- The classes that the UI adaptor tells apart among the messages of the testing tool. -/
inductive TtMessageType where
  | testCaseReady
  | stepStimuliExecute
  | stepVerifyExecute
  | testCaseVerdict
  | sniffingGetCaptureReply
  | sniffingGetCapture
  | testSuiteStart
  | testCaseStarted
  | sessionLog
  | testingToolComponentReady
  | uiRequestSessionConfiguration
  | uiSessionConfigurationReply
  | agentTunStart
  | testingToolConfigured
  | testSuiteGetTestCases
  | other (name : String)
  deriving DecidableEq

/-- `MESSAGES_NOT_TO_BE_ECHOED`. -/
def messagesNotToBeEchoed : List TtMessageType :=
  [.sniffingGetCaptureReply, .sniffingGetCapture, .testSuiteStart, .testCaseStarted, .sessionLog,
    .testingToolComponentReady, .uiRequestSessionConfiguration, .uiSessionConfigurationReply,
    .agentTunStart, .testingToolConfigured, .testSuiteGetTestCases]

/-- A message of the testing tool, as far as the UI adaptor reads it; the rendering of displays
apart. -/
structure TtMessage where
  /-- Its class. -/
  type : TtMessageType
  testcaseId : Attribute := none
  stepId : Attribute := none
  node : Attribute := none
  deriving DecidableEq

/-- One entry of `fields` of a message for the UI. -/
structure Field where
  type : String
  name : Option String := none
  label : Option String := none
  value : UserInput
  deriving DecidableEq

/-- A message for the UI; only requests have a correlation id and a topic for the reply. -/
structure UiMessage where
  /-- `routing_key`. -/
  routingKey : String
  /-- `reply_to`. -/
  replyTo : Option String := none
  /-- `correlation_id`. -/
  correlationId : Option String := none
  /-- `title`. -/
  title : Option String := none
  /-- `tags`; none at all count as false. -/
  tags : List (String × String) := []
  /-- `fields`. -/
  fields : List Field := []
  deriving DecidableEq

/-- What the library of messages fixes about the classes that the UI adaptor instantiates. -/
structure MessageLibrary where
  /-- `MsgUiRequestConfirmationButton()`. -/
  uiRequestConfirmationButton : UiMessage
  /-- `MsgUiDisplay()`. -/
  uiDisplay : UiMessage
  /-- `MsgUiDisplayMarkdownText()`. -/
  uiDisplayMarkdownText : UiMessage
  deriving DecidableEq

/-- One entry of `fields` of a reply; anything but a dictionary has no keys. -/
inductive ReplyItem where
  | dict (entries : OrderedDict String UserInput)
  | other

/-- A reply of a user, from whatever topic. -/
structure UiReply where
  /-- `correlation_id`. -/
  correlationId : Attribute
  /-- `fields`: the outer `none` is a missing attribute, the inner one is `None`. -/
  fields : Option (Option (List ReplyItem))

/-- A message for the testing tool that a reply leads to. -/
inductive ChainedMessage where
  | testSuiteStart
  | testSuiteAbort
  | testCaseStart (testcaseId : Option String)
  | testCaseRestart
  | testCaseSkip (testcaseId : Option String)
  | stepVerifyExecuted (responseType : String) (verifyResponse : Bool)
  | testCaseSelect (testcaseId : String)
  | stepStimuliExecuted (node nodeExecutionMode : String)
  deriving DecidableEq

end Ioppytest.UiAdaptor
