import Ioppytest.Lib.Base64
import Ioppytest.Lib.OrderedDict
import Ioppytest.Lib.Raising
import Ioppytest.TestCoordinator.Messages

/-!
# Who saves the results

Two components listen to the bus and keep what the session comes to: `ResultsLogToFile`, which writes
files, and the adaptor of the results store, which forwards verdicts and reports to it. Opening and
writing a file is assumed to succeed.
-/

namespace Ioppytest

open PyString Raising

/-- What a message written as JSON, or a capture, leaves in a file. -/
inductive SavedFile where
  | report (tcResults : Option (List ReportItem))
  | verdict (report : Report) (tc : TestCaseInfo)
  | pcap (bytes : List UInt8)
  deriving DecidableEq

/-- A message on the bus, by what `ResultsLogToFile` makes of it. -/
inductive BusMessage where
  /-- The coordinator publishes it. -/
  | published (message : Message)
  /-- `MsgSniffingGetCaptureReply`. -/
  | captureReply (reply : SnifferReply)
  /-- `MsgTestingToolTerminate`. -/
  | terminate
  /-- Anything else. -/
  | other
  deriving DecidableEq

/-- The message of the coordinator, if it is one. -/
def BusMessage.message? : BusMessage → Option Message
  | .published message => some message
  | _ => none

/-- `ResultsLogToFile`. -/
structure ResultsLogToFile where
  /-- The files that it has written, by their paths. -/
  files : OrderedDict String SavedFile := .empty
  /-- `stop` was called. -/
  stopped : Bool := false

namespace ResultsLogToFile

/-- Write a file in place of any earlier one. -/
def write (path : String) (content : SavedFile) : EStateM PyException ResultsLogToFile Unit :=
  modify fun log => { log with files := log.files.insert path content }

/-- The file of a verdict. -/
def verdictPath (resultsDir testcaseId : String) : String :=
  joinPath resultsDir (testcaseId ++ "_verdict.json")

/-- The file of the report. -/
def reportPath (resultsDir : String) : String := joinPath resultsDir "final_report.json"

/-- `process_message`. A capture that cannot be decoded leaves an empty file. -/
def processMessage (resultsDir : String) :
    BusMessage → EStateM PyException ResultsLogToFile Unit
  | .published (.testSuiteReport tcResults) => write (reportPath resultsDir) (.report tcResults)
  | .captureReply reply => do
    if (← expect .attributeError reply.ok) = some true then
      let filename ← expect .typeError (← expect .attributeError reply.filename)
      let path := joinPath resultsDir filename
      write path (.pcap [])
      let value ← expect .typeError (← expect .attributeError reply.value)
      write path (.pcap (← expect .valueError (b64decode value)))
  | .published (.testCaseVerdict report tc) =>
    write (verdictPath resultsDir tc.testcaseId) (.verdict report tc)
  | .terminate => modify fun log => { log with stopped := true }
  | .published _ | .other => return ()

/-- A message is delivered; once stopped, nothing is. -/
def hear (resultsDir : String) (log : ResultsLogToFile) (message : BusMessage) :
    ResultsLogToFile :=
  if log.stopped then log else finalState ((processMessage resultsDir message).run log)

/-- The report in the verdict file of a test case. -/
def savedVerdict (resultsDir : String) (log : ResultsLogToFile) (testcaseId : String) :
    Option Report :=
  match log.files.get? (verdictPath resultsDir testcaseId) with
  | some (.verdict report _) => some report
  | _ => none

/-- The bytes in the capture file of a test case. -/
def savedPcap (resultsDir : String) (log : ResultsLogToFile) (testcaseId : String) :
    Option (List UInt8) :=
  match log.files.get? (joinPath resultsDir (testcaseId ++ ".pcap")) with
  | some (.pcap bytes) => some bytes
  | _ => none

end ResultsLogToFile

/-- `MsgReportSaveRequest`. -/
inductive SaveRequest where
  /-- `type="intermediate"`, with the verdict as its data. -/
  | intermediate (report : Report) (tc : TestCaseInfo)
  /-- `type="final"`, with the results as its data. -/
  | final (tcResults : Option (List ReportItem))
  deriving DecidableEq

/-- The request that `save_result_into_RS_db` makes. -/
def saveResultIntoRsDb : Message → Except PyException SaveRequest
  | .testSuiteReport tcResults => .ok (.final tcResults)
  | .testCaseVerdict report tc => .ok (.intermediate report tc)
  | _ => .error .typeError

/-- `TESTING_TOOL_TOPIC_SUBSCRIPTIONS` of the adaptor of the results store. -/
def Message.forResultsStore : Message → Bool
  | .testSuiteReport _ => true
  | .testCaseVerdict .. => true
  | _ => false

end Ioppytest
