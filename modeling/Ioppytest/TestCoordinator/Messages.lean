import Ioppytest.TestSuite.Suite

/-!
# Messages

The events that the coordinator receives from the bus, the messages it publishes and the replies
of the services it calls. A message keeps the fields that the coordinator reads or fills in. An
attribute of a received message is missing, and reading it raises `AttributeError`, or it is `None`,
as the message library leaves the fields that did not come with the message, or it has a value.
-/

namespace Ioppytest

open PyString

/-- The address fields of `MsgAgentTunStarted`. -/
structure AgentTunStarted where
  /-- Name of the agent. -/
  name : Option String
  reRoutePacketsPrefix : Attribute := some none
  reRoutePacketsHost : Attribute := some none
  ipv6Prefix : Attribute := some none
  ipv6Host : Attribute := some none
  ipv4Network : Attribute := some none
  ipv4Host : Attribute := some none
  deriving DecidableEq

/-- A received event. `MsgTestCaseAbort` is not dispatched from the bus. -/
inductive Event where
  | sessionConfiguration (sessionId : Option String) (users : Option (List String))
      (configuration : Option SessionConfiguration)
  | configurationExecuted (node : Option String) (ipv6Address : Attribute)
  | agentTunStarted (message : AgentTunStarted)
  | testCaseStart (testcaseId : Attribute)
  | stepStimuliExecuted (node : Option String)
  | stepVerifyExecuted (verifyResponse : Attribute Bool) (node : Option String)
  | stepCheckExecuted (partialVerdict description : Attribute)
  | testCaseSelect (testcaseId : Attribute)
  | testSuiteStart
  | testCaseRestart
  | testCaseSkip (testcaseId : Attribute)
  | testCaseAbort
  deriving DecidableEq

/-- `TestCase.to_dict(verbose=False)`. -/
structure TestCaseInfo where
  testcaseId : String
  testcaseRef : String
  objective : String
  state : Option TestCaseState
  deriving DecidableEq

/-- `TestCase.to_dict(verbose=True)`. -/
structure VerboseTestCaseInfo extends TestCaseInfo where
  preConditions : String
  notes : String
  deriving DecidableEq

/-- `TestConfig.to_dict(verbose=True)`. -/
structure ConfigurationInfo where
  configurationId : String
  configurationRef : String
  nodes : List String
  topology : List Link
  nodesDescription : List NodeDescription
  deriving DecidableEq

/-- `Step.to_dict(verbose=True)`. -/
structure StepInfo where
  stepId : String
  stepType : StepType
  stepInfo : String
  stepState : Option StepState
  iut : Option Iut
  deriving DecidableEq

/-- `get_testsuite_configuration`. -/
structure TestsuiteConfiguration where
  sessionId : Option String
  users : Option (List String)
  configuration : Option SessionConfiguration
  tcList : List TestCaseInfo
  deriving DecidableEq

/-- A message published by the coordinator, requests to services included. -/
inductive Message where
  | testingToolConfigured (configuration : TestsuiteConfiguration)
  | testSuiteStarted
  | agentTunStart (name ipv6Prefix ipv6Host : String)
  | configurationExecute (configurationId node description : String) (tc : TestCaseInfo)
  | testCaseReady (configuration : ConfigurationInfo) (tc : VerboseTestCaseInfo)
  | testCaseStarted (tc : TestCaseInfo)
  | stepStimuliExecute (description : List String) (step : StepInfo) (tc : TestCaseInfo)
      (targetAddress : Option String)
  | stepVerifyExecute (description : List String) (step : StepInfo) (tc : TestCaseInfo)
  | testCaseFinished (tc : TestCaseInfo)
  | testCaseVerdict (report : Report) (tc : TestCaseInfo)
  | testSuiteReport (tcResults : Option (List ReportItem))
  | sniffingStart (captureId : Option String) (filterProto filterIf linkId : String)
  | sniffingStop
  | sniffingGetCapture (captureId : String)
  | interopTestCaseAnalyze (protocol testcaseId testcaseRef filename value : String)
  | routingStartLossyLink (numberOfPacketsToDrop : Nat)
  deriving DecidableEq

/-- Reply of the sniffer to `MsgSniffingGetCapture`, with its rendering. -/
structure SnifferReply where
  ok : Attribute Bool
  value : Attribute
  filename : Attribute
  repr : String
  deriving DecidableEq

/-- Reply of the test analysis tool, with its rendering. Each partial verdict is a verdict string
and a description. -/
structure AnalysisReply where
  ok : Attribute Bool
  partialVerdicts : Attribute (List (String × String))
  errorMessage : Attribute
  errorCode : Attribute
  repr : String
  deriving DecidableEq

/-- What the services answer while one event is handled; none is a request that timed out. The
replies to sniffer start and stop requests are only logged. -/
structure Services where
  /-- Answer to the request for the capture. -/
  getCapture : Option SnifferReply
  /-- Answer of the test analysis tool. -/
  analysis : Option AnalysisReply
  deriving DecidableEq

end Ioppytest
