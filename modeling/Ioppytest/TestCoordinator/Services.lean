import Ioppytest.TestCoordinator.AmqpConnector

/-!
# Services

The requests that the coordinator answers: `request_reply_handlers` and `handle_service`. They are
handled between the events of the session, by the same thread, and each of those it knows gets one reply.
-/

namespace Ioppytest

open Raising

variable {td : TestDescriptions}

/-- A request for a service; the queue may hold messages that the coordinator does not handle. -/
inductive ServiceRequest where
  /-- `MsgTestSuiteGetTestCases`. -/
  | getTestCases
  /-- `MsgTestSuiteGetStatus`. -/
  | getStatus
  /-- Any other message. -/
  | other
  deriving DecidableEq

/-- `get_states_summary`: `states_summary`, updated with the configuration of the session. The keys
about a test case hold `None` without a current one, and `step_id` is missing without a current step. -/
structure StatesSummary where
  started : Bool
  testcaseId : Option String
  testcaseState : Option TestCaseState
  stepId : Option String
  configuration : TestsuiteConfiguration
  deriving DecidableEq

/-- The fields of a `MsgReply` of the coordinator. -/
inductive ServiceReply where
  /-- The test cases of the suite. -/
  | testCases (tcList : List TestCaseInfo)
  /-- The status of the session. -/
  | status (summary : StatesSummary)
  /-- The request failed: `error_message` is the text of the exception, `error_code` is `TBD`. -/
  | failed (exception : PyException)
  deriving DecidableEq

namespace Handler

/-- `TestSuite.get_testcases_basic`, as `Coordinator.get_testcases_basic` calls it. -/
def getTestcasesBasic (ts : TestSuite td) : Except PyException (List TestCaseInfo) :=
  let tcList := (List.finRange td.size).map (testcaseInfo ts)
  if tcList.length = 0 then .error (.testSuiteError "No test cases found") else .ok tcList

/-- `Coordinator.get_states_summary`. -/
def getStatesSummary (ts : TestSuite td) : Except PyException StatesSummary := do
  let configuration ← getTestsuiteConfiguration ts
  return {
    started := ts.currentTc.isSome
    testcaseId := ts.currentTc.map td.id
    testcaseState := ts.currentTc.bind fun i => (ts.testcase i).state
    stepId := ts.getCurrentStep.map (·.id)
    configuration }

/-- The callbacks in `request_reply_handlers`. -/
def requestReplyHandlers (ts : TestSuite td) :
    ServiceRequest → Option (Except PyException ServiceReply)
  | .getTestCases => some ((getTestcasesBasic ts).map .testCases)
  | .getStatus => some ((getStatesSummary ts).map .status)
  | .other => none

/-- `handle_service`: any exception of a callback becomes an error reply. -/
def handleService (request : ServiceRequest) : Handler td (Option ServiceReply) := do
  match requestReplyHandlers (← testsuite) request with
  | none => return none
  | some callback =>
    tryCatch (do return some (← lift callback))
      fun exception => return some (.failed exception)

variable {c : Coordinator td} {request : ServiceRequest}

/-- What a callback returns is the reply. -/
theorem handleService_ok {reply : ServiceReply}
    (served : requestReplyHandlers c.testsuite request = some (.ok reply)) :
    (handleService request).run c = .ok (some reply) c := by
  have asked : testsuite.run c = .ok c.testsuite c := rfl
  unfold handleService
  simp only [EStateM.run_bind, asked, served]
  rfl

/-- A callback that raises is answered with an error. -/
theorem handleService_error {exception : PyException}
    (fails : requestReplyHandlers c.testsuite request = some (.error exception)) :
    (handleService request).run c = .ok (some (.failed exception)) c := by
  have asked : testsuite.run c = .ok c.testsuite c := rfl
  unfold handleService
  simp only [EStateM.run_bind, asked, fails]
  rfl

end Handler

end Ioppytest
