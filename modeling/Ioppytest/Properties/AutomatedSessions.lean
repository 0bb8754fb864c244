import Ioppytest.EventBus.AutomatedSession
import Ioppytest.Lib.Inevitability
import Ioppytest.Properties.Scripts
import Ioppytest.Properties.StepEvents
import Ioppytest.Properties.Survival
import Ioppytest.TestCoordinator.Sending
import Ioppytest.TestSuite.Selection

/-!
# Automated sessions come to their end

In a deployment that fits the test description, a timely session without users cannot get stuck and
cannot go on for ever. Each message of the coordinator draws the replies that its state waits for,
and no others: the phases say which replies are under way in which state. They also say which test
cases are done and which steps were requested until then.
-/

namespace Ioppytest

open Raising Coordinator AutomatedSession

variable {td : TestDescriptions} {crew : Crew}

/-- The step that a message requests, and the test case that it belongs to. -/
def Message.request? : Message → Option (String × StepScript)
  | .stepStimuliExecute _ step tc _ =>
    some (tc.testcaseId, ⟨step.stepId, step.stepType, step.stepInfo, step.iut⟩)
  | .stepVerifyExecute _ step tc =>
    some (tc.testcaseId, ⟨step.stepId, step.stepType, step.stepInfo, step.iut⟩)
  | _ => none

/-- The steps that messages request, in order. -/
def requestedSteps (messages : List Message) : List (String × StepScript) :=
  messages.filterMap Message.request?

/-- The steps that two parts of the bus request. -/
theorem requestedSteps_append (before after : List Message) :
    requestedSteps (before ++ after) = requestedSteps before ++ requestedSteps after :=
  List.filterMap_append

/-- The message asks nothing of anybody in an automated session. -/
def Message.Quiet : Message → Prop
  | .testingToolConfigured _ => False
  | .configurationExecute .. => False
  | .testCaseReady .. => False
  | .stepStimuliExecute .. => False
  | .stepVerifyExecute .. => False
  | _ => True

section Replies

/-- Replies of the user mock come first. -/
theorem replies_eq (crew : Crew) (message : Message) :
    replies crew message =
      (if UserMock.listens message then (crew.userMock.onRequest crew.startId message).toList
        else []) ++
      if AutomatedIut.listens message then crew.iuts.filterMap (·.handle message) else [] := by
  have iuts (iuts : List AutomatedIut) :
      ((iuts.map Party.automatedIut).filter (·.listens message)).filterMap
        (·.onRequest crew.startId message) =
      if AutomatedIut.listens message then iuts.filterMap (·.handle message) else [] := by
    have heard : ((Party.listens · message) ∘ Party.automatedIut) =
        fun _ => AutomatedIut.listens message := rfl
    rw [List.filter_map, heard, List.filterMap_map]
    by_cases listens : AutomatedIut.listens message = true
    · rw [if_pos listens, listens, List.filter_true]
      rfl
    · rw [if_neg listens, Bool.eq_false_iff.mpr listens, List.filter_false]
      rfl
  have mock : Party.listens (.userMock crew.userMock) message = UserMock.listens message := rfl
  have replied : Party.onRequest crew.startId (.userMock crew.userMock) message =
      crew.userMock.onRequest crew.startId message := rfl
  rw [replies, Crew.parties, List.filter_cons, mock]
  by_cases listens : UserMock.listens message = true
  · rw [if_pos listens, if_pos listens, List.filterMap_cons, replied, iuts]
    cases crew.userMock.onRequest crew.startId message <;> rfl
  · rw [if_neg listens, if_neg listens, iuts, List.nil_append]

/-- Quiet messages draw no replies. -/
theorem replies_quiet {message : Message} (quiet : message.Quiet) : replies crew message = [] := by
  rw [replies_eq]
  cases message with
  | testingToolConfigured _ | configurationExecute _ _ _ _ | testCaseReady _ _
  | stepStimuliExecute _ _ _ _ | stepVerifyExecute _ _ _ => exact quiet.elim
  | _ => simp [UserMock.listens, AutomatedIut.listens, UserMock.onRequest, AutomatedIut.handle,
      AutomatedIut.onRequest]

/-- They request no step either. -/
theorem request_quiet {message : Message} (quiet : message.Quiet) : message.request? = none := by
  cases message with
  | stepStimuliExecute _ _ _ _ | stepVerifyExecute _ _ _ => exact quiet.elim
  | _ => rfl

/-- The configured session is started. -/
theorem replies_configured (configuration : TestsuiteConfiguration) :
    replies crew (.testingToolConfigured configuration) = [.testSuiteStart] := by
  rw [replies_eq]
  rfl

/-- Requests for configuring a node draw reports of configured nodes. -/
theorem replies_configuration {message : Message} (asks : message.IsConfigurationExecute) :
    ∀ event ∈ replies crew message, IsConfiguration event := by
  obtain ⟨configurationId, node, description, tc, rfl⟩ := asks
  intro event member
  rw [replies_eq] at member
  obtain ⟨iut, -, handled⟩ := List.mem_filterMap.mp member
  simp only [AutomatedIut.handle, AutomatedIut.handleConfigurationExecute] at handled
  split at handled
  · split at handled
    · rename_i address
      cases handled
      exact ⟨_, _, address, rfl⟩
    · cases handled
  · cases handled

/-- The user mock alone replies to the announcement of a test case that all IUTs implement. -/
theorem replies_ready (staffed : Staffed crew td) (configuration : ConfigurationInfo)
    {tc : VerboseTestCaseInfo} {i : Fin td.size} (about : tc.testcaseId = td.id i) :
    replies crew (.testCaseReady configuration tc) = [UserMock.handleTestCaseReady crew.startId
      crew.userMock.implementedTestcasesList (td.id i)] := by
  have nobody : crew.iuts.filterMap (·.handle (.testCaseReady configuration tc)) = [] := by
    refine List.filterMap_eq_nil_iff.mpr fun iut member => ?_
    simp [AutomatedIut.handle, AutomatedIut.handleTestCaseReady, about,
      staffed.implemented iut member i]
  rw [replies_eq, nobody, ← about]
  simp [UserMock.listens, UserMock.onRequest]

/-- Components that react with the same reply, counted. -/
theorem filterMap_same {α β : Type} {reaction : α → Option β} {answers : α → Bool} {reply : β}
    (same : ∀ one, reaction one = if answers one then some reply else none) (all : List α) :
    all.filterMap reaction = List.replicate (all.countP answers) reply := by
  induction all with
  | nil => rfl
  | cons one rest ih =>
    rw [List.filterMap_cons, ih, same, List.countP_cons]
    cases answers one <;> rfl

/-- The answer that a component gives to a step. -/
def answerOf (step : Step) (iut : Iut) : Event :=
  match step.type with
  | .verify => .stepVerifyExecuted (some (some true)) (some iut.node)
  | _ => .stepStimuliExecuted (some iut.node)

/-- An answer is about the type of the step, and complete. -/
theorem answerOf_fits {step : Step} (iut : Iut) (executable : step.type.isExecutable = true) :
    controlEventsTriggers (answerOf step iut) = some .stepExecuted ∧
      stepKind (answerOf step iut) = some step.type ∧ malformed (answerOf step iut) = false ∧
      blank step.type (answerOf step iut) = false := by
  unfold answerOf
  cases type : step.type with
  | stimuli | verify => exact ⟨rfl, rfl, rfl, rfl⟩
  | check | feature =>
    rw [type] at executable
    cases executable

/-- An IUT answers a request for a stimuli of its node. -/
theorem handle_stimuli (one : AutomatedIut) {description : List String} {step : StepInfo}
    {tc : TestCaseInfo} {target : Option String} {node : String}
    (asked : (Message.stepStimuliExecute description step tc target).node? = some node) :
    one.handle (.stepStimuliExecute description step tc target) =
      if decide (one.node = node) then some (.stepStimuliExecuted (some node)) else none := by
  have compared : (some node = some one.node) = (one.node = node) :=
    propext ⟨fun same => (Option.some.inj same).symm, fun same => congrArg some same.symm⟩
  simp only [AutomatedIut.handle, AutomatedIut.onRequest, AutomatedIut.handleStimuliExecute, asked,
    compared, decide_eq_true_eq]
  split
  · rename_i same
    rw [same]
  · rfl

/-- It answers a request for a verification of its node. -/
theorem handle_verify (one : AutomatedIut) {description : List String} {step : StepInfo}
    {tc : TestCaseInfo} {node : String}
    (asked : (Message.stepVerifyExecute description step tc).node? = some node) :
    one.handle (.stepVerifyExecute description step tc) =
      if decide (one.node = node) then some (.stepVerifyExecuted (some (some true)) (some node))
      else none := by
  have compared : (some node = some one.node) = (one.node = node) :=
    propext ⟨fun same => (Option.some.inj same).symm, fun same => congrArg some same.symm⟩
  simp only [AutomatedIut.handle, AutomatedIut.onRequest,
    AutomatedIut.handleTestCaseVerifyExecute, asked, compared, decide_eq_true_eq]
  split
  · rename_i same
    rw [same]
  · rfl

/-- The request for a step draws as many answers as there are components that respond. -/
theorem replies_step {step : Step} {iut : Iut} (executable : step.type.isExecutable = true)
    (executed : step.iut = some iut) (tc : TestCaseInfo) (target : Option String) :
    (Handler.stepExecuteMessage step tc target).flatMap (replies crew) =
      List.replicate (crew.responders step) (answerOf step iut) := by
  unfold Handler.stepExecuteMessage Crew.responders answerOf
  rw [executed]
  cases type : step.type with
  | stimuli =>
    have asked (description : List String) : (Message.stepStimuliExecute description (stepInfo step)
        tc target).node? = some iut.node := by
      simp [Message.node?, Message.stepRequest?, stepInfo, executed]
    simp [replies_eq, UserMock.listens, AutomatedIut.listens,
      filterMap_same fun one => handle_stimuli one (asked _)]
  | verify =>
    have asked (description : List String) :
        (Message.stepVerifyExecute description (stepInfo step) tc).node? = some iut.node := by
      simp [Message.node?, Message.stepRequest?, stepInfo, executed]
    by_cases mocked : iut.node ∈ crew.userMock.iutToMockVerificationsFor
    · simp [replies_eq, UserMock.listens, AutomatedIut.listens, UserMock.onRequest,
        UserMock.handleVerifStepExecute, asked, mocked, List.replicate_succ,
        filterMap_same fun one => handle_verify one (asked _)]
    · simp [replies_eq, UserMock.listens, AutomatedIut.listens, UserMock.onRequest,
        UserMock.handleVerifStepExecute, asked, mocked,
        filterMap_same fun one => handle_verify one (asked _)]
  | check | feature =>
    rw [type] at executable
    cases executable

end Replies

/-- The steps of a script that an IUT executes, with the test case that they belong to. -/
def executedSteps (id : String) (script : List StepScript) : List (String × StepScript) :=
  (script.filter (·.type.isExecutable)).map (id, ·)

/-- The steps of two parts of a script. -/
theorem executedSteps_append (id : String) (early late : List StepScript) :
    executedSteps id (early ++ late) = executedSteps id early ++ executedSteps id late := by
  simp [executedSteps]

/-- Steps that no IUT executes are not requested. -/
theorem executedSteps_nil {id : String} {script : List StepScript}
    (blocked : ∀ step ∈ script, step.type.isExecutable = false) : executedSteps id script = [] := by
  have nothing : script.filter (·.type.isExecutable) = [] :=
    List.filter_eq_nil_iff.mpr fun step member => by simp [blocked step member]
  rw [executedSteps, nothing]
  rfl

namespace TestCase

/-- The steps of a test case that were requested, by its id. -/
def requested (id : String) (tc : TestCase) : List (String × StepScript) :=
  executedSteps id (tc.script.take tc.stepIt)

/-- Nothing was requested of a test case at its start. -/
theorem requested_start {tc : TestCase} (start : tc.AtStart) (id : String) :
    tc.requested id = [] := by
  simp [requested, start.stepIt, executedSteps]

/-- Steps of the script that no IUT executes come of such steps. -/
theorem script_blocked {tc : TestCase} {low high : Nat}
    (blocked : ∀ j step, tc.sequence[j]? = some step → low ≤ j → j < high →
      step.type.isExecutable = false) :
    ∀ step ∈ (tc.script.take high).drop low, step.type.isExecutable = false := by
  intro step member
  obtain ⟨j, found⟩ := List.getElem?_of_mem member
  rw [List.getElem?_drop, List.getElem?_take] at found
  split at found
  · rename_i inside
    obtain ⟨described, position, rfl⟩ :=
      Option.map_eq_some_iff.mp (List.getElem?_map.symm.trans found)
    exact blocked _ described position (by omega) inside
  · cases found

/-- Fetching a step requests it. -/
theorem Ongoing.requested_execute {tc after : TestCase} {k : Nat} (id : String)
    (ongoing : tc.Ongoing) (fetched : tc.nextStep = (some k, after)) :
    ∃ step, after.sequence[k]? = some step ∧
      (after.changeState .executing).requested id = tc.requested id ++ [(id, step.script)] := by
  obtain ⟨step, found, -, executable, low, between, rfl⟩ := ongoing.nextStep_some fetched
  have script : (({ tc with currentStep := some k, stepIt := k + 1 }.modifyStep k
      (·.changeState (some .executing))).changeState .executing).script = tc.script := by
    rw [script_changeState]
    exact script_modifyStep { tc with currentStep := some k, stepIt := k + 1 } k fun _ => rfl
  refine ⟨step.changeState (some .executing), ?_, ?_⟩
  · rw [modifyStep_getElem?]
    simp [found]
  have here : tc.script[k]? = some step.script := by
    rw [TestCase.script, List.getElem?_map, found]
    rfl
  have split : tc.script.take k = tc.script.take tc.stepIt ++ (tc.script.take k).drop tc.stepIt := by
    conv_lhs => rw [← List.take_append_drop tc.stepIt (tc.script.take k)]
    rw [List.take_take, Nat.min_eq_left low]
  have requests : requested id (({ tc with currentStep := some k, stepIt := k + 1 }.modifyStep k
      (·.changeState (some .executing))).changeState .executing) =
        executedSteps id (tc.script.take (k + 1)) := by
    rw [requested, script]
    rfl
  have last : executedSteps id [step.script] = [(id, step.script)] := by
    simp [executedSteps, Step.script, executable]
  rw [requests, List.take_add_one, here, executedSteps_append, split, executedSteps_append,
    executedSteps_nil (script_blocked between), List.append_nil, Option.toList_some, last,
    Step.script_changeState]
  rfl

/-- At the end of a test case all its steps were requested. -/
theorem Ongoing.requested_end {tc after : TestCase} (id : String) (ongoing : tc.Ongoing)
    (fetched : tc.nextStep = (none, after)) : tc.requested id = executedSteps id tc.script := by
  obtain ⟨blocked, -⟩ := ongoing.nextStep_none fetched
  have past : ∀ step ∈ (tc.script.take tc.script.length).drop tc.stepIt,
      step.type.isExecutable = false :=
    script_blocked fun j step found late _ => blocked j step found late
  have nothing : executedSteps id ((tc.script.take tc.script.length).drop tc.stepIt) = [] :=
    executedSteps_nil past
  rw [List.take_length] at nothing
  conv_rhs => rw [← List.take_append_drop tc.stepIt tc.script]
  rw [executedSteps_append, nothing, List.append_nil, requested]

end TestCase

namespace Crew

/-- The steps of a test case that are to be requested. -/
def script (crew : Crew) (i : Fin td.size) : List (String × StepScript) :=
  if Omitted crew i then [] else executedSteps (td.id i) ((td.description i).sequence.map Step.script)

/-- The steps of the first test cases that are to be requested. -/
def scriptUpTo (crew : Crew) (td : TestDescriptions) (n : Nat) : List (String × StepScript) :=
  ((List.finRange td.size).take n).flatMap crew.script

/-- The script of one test case more. -/
theorem scriptUpTo_succ (crew : Crew) (i : Fin td.size) :
    crew.scriptUpTo td (i.val + 1) = crew.scriptUpTo td i ++ crew.script i := by
  simp [scriptUpTo, List.take_add_one]

/-- Test cases that are omitted add nothing. -/
theorem scriptUpTo_omitted {n m : Nat} (later : n ≤ m) (inside : m ≤ td.size)
    (omitted : ∀ j : Fin td.size, n ≤ j.val → j.val < m → Omitted crew j) :
    crew.scriptUpTo td m = crew.scriptUpTo td n := by
  induction later with
  | refl => rfl
  | @step m later ih =>
    have nothing : crew.script (⟨m, inside⟩ : Fin td.size) = [] :=
      if_pos (omitted ⟨m, inside⟩ later (Nat.lt_succ_self m))
    rw [scriptUpTo_succ (i := ⟨m, inside⟩), nothing, List.append_nil]
    exact ih (Nat.le_of_succ_le inside) fun j low high =>
      omitted j low (Nat.lt_succ_of_lt high)

/-- What is requested first is a beginning of the whole. -/
theorem scriptUpTo_prefix (crew : Crew) (n : Nat) :
    crew.scriptUpTo td n <+: crew.scriptUpTo td td.size := by
  have whole : (List.finRange td.size).take td.size = List.finRange td.size :=
    List.take_of_length_le (List.length_finRange).le
  obtain ⟨rest, split⟩ := List.take_prefix n (List.finRange td.size)
  refine ⟨rest.flatMap crew.script, ?_⟩
  rw [scriptUpTo, scriptUpTo, whole, ← List.flatMap_append, split]

end Crew

/-- What becomes of a test case: it is skipped if it is omitted, and finished otherwise. -/
inductive Done (crew : Crew) (i : Fin td.size) (tc : TestCase) : Prop
  | omitted : Omitted crew i → tc.state = some .skipped → Done crew i tc
  | executed : ¬ Omitted crew i → tc.state = some .finished → tc.Complete → Done crew i tc

/-- A test case whose turn has not come. -/
inductive Ahead (crew : Crew) (i : Fin td.size) (tc : TestCase) : Prop
  | pristine : ¬ Deselected crew i → tc.Pristine → Ahead crew i tc
  | skipped : Deselected crew i → tc.state = some .skipped → Ahead crew i tc

/-- A test case that is done has a state. -/
theorem Done.past {i : Fin td.size} {tc : TestCase} (done : Done crew i tc) : tc.state ≠ none := by
  cases done with
  | omitted _ state | executed _ state _ => simp [state]

/-- The report of a test case has no part in it being done. -/
theorem Done.withReport {i : Fin td.size} {tc : TestCase} (done : Done crew i tc)
    (report : Option Report) : Done crew i { tc with report } := by
  cases done with
  | omitted absent state => exact .omitted absent state
  | executed present state complete => exact .executed present state complete

/-- A test case that is ahead and has a state is done. -/
theorem Ahead.done {i : Fin td.size} {tc : TestCase} (ahead : Ahead crew i tc)
    (past : tc.state ≠ none) : Omitted crew i ∧ Done crew i tc := by
  cases ahead with
  | pristine _ pristine => exact absurd pristine.state past
  | skipped deselected state => exact ⟨.inl deselected, .omitted (.inl deselected) state⟩

namespace Coordinator

variable {c between after : Coordinator td} {i : Fin td.size}

/-- What is published between two states draws the replies and requests the steps. -/
def Draws (crew : Crew) (replied : List Event) (steps : List (String × StepScript))
    (before after : Coordinator td) : Prop :=
  ∃ sent, after.bus = before.bus ++ sent ∧ sent.flatMap (replies crew) = replied ∧
    requestedSteps sent = steps

/-- What is drawn one after the other. -/
theorem Draws.trans {first second : List Event} {early late : List (String × StepScript)}
    (before : c.Draws crew first early between) (later : between.Draws crew second late after) :
    c.Draws crew (first ++ second) (early ++ late) after := by
  obtain ⟨sent, bus, rfl, rfl⟩ := before
  obtain ⟨further, bus', rfl, rfl⟩ := later
  exact ⟨sent ++ further, by rw [bus', bus, List.append_assoc], List.flatMap_append,
    List.filterMap_append⟩

/-- What is drawn by sending. -/
theorem Draws.send (sent : List Message) :
    c.Draws crew (sent.flatMap (replies crew)) (requestedSteps sent) (c.send sent) :=
  ⟨sent, rfl, rfl, rfl⟩

/-- Quiet messages draw nothing. -/
theorem Sends.quiet (sends : c.Sends Message.Quiet after) : c.Draws crew [] [] after := by
  obtain ⟨sent, bus, quiet⟩ := sends
  refine ⟨sent, bus, List.flatMap_eq_nil_iff.mpr fun message member => ?_,
    List.filterMap_eq_nil_iff.mpr fun message member => ?_⟩
  · exact replies_quiet (quiet message member)
  · exact request_quiet (quiet message member)

/-- They request no steps. -/
theorem Sends.requests (sends : c.Sends Message.Quiet after) :
    requestedSteps after.bus = requestedSteps c.bus := by
  obtain ⟨sent, bus, quiet⟩ := sends
  have nothing : requestedSteps sent = [] :=
    List.filterMap_eq_nil_iff.mpr fun message member => request_quiet (quiet message member)
  rw [bus, requestedSteps_append, nothing, List.append_nil]

/-- Quiet messages that are sent first draw nothing. -/
theorem Draws.after_quiet {replied : List Event} {steps : List (String × StepScript)}
    (sends : c.Sends Message.Quiet between) (draws : between.Draws crew replied steps after) :
    c.Draws crew replied steps after := by
  simpa using sends.quiet.trans draws

/-- Configuring a test case draws reports of configured nodes. -/
theorem configure_draws (crew : Crew) (c : Coordinator td) (i : Fin td.size) :
    ∃ reports, c.Draws crew reports [] (c.configure i) ∧ ∀ event ∈ reports, IsConfiguration event := by
  obtain ⟨sent, bus, asks⟩ := configure_sends c i
  refine ⟨_, ⟨sent, bus, rfl, List.filterMap_eq_nil_iff.mpr fun message member => ?_⟩,
    fun event member => ?_⟩
  · obtain ⟨_, _, _, _, rfl⟩ := asks message member
    rfl
  · obtain ⟨message, inside, replied⟩ := List.mem_flatMap.mp member
    exact replies_configuration (asks message inside) event replied

/-- Steps that are requested are requested after those before. -/
theorem Draws.requests {replied : List Event} {steps : List (String × StepScript)}
    (draws : c.Draws crew replied steps after) :
    requestedSteps after.bus = requestedSteps c.bus ++ steps := by
  obtain ⟨sent, bus, -, rfl⟩ := draws
  rw [bus, requestedSteps, List.filterMap_append]
  rfl

/-- The first test cases are done and the others are ahead. -/
structure Reckoned (crew : Crew) (c : Coordinator td) (n : Nat) : Prop where
  /-- The first ones are done. -/
  past : ∀ j : Fin td.size, j.val < n → Done crew j (c.testsuite.testcase j)
  /-- The others are ahead. -/
  ahead : ∀ j : Fin td.size, n ≤ j.val → Ahead crew j (c.testsuite.testcase j)
  /-- The steps of the first ones were requested. -/
  requests : requestedSteps c.bus = crew.scriptUpTo td n

/-- It is the turn of a test case. -/
structure Turn (crew : Crew) (c : Coordinator td) (i : Fin td.size) : Prop where
  /-- It is the current one. -/
  current : c.testsuite.currentTc = some i
  /-- It is not deselected. -/
  selected : ¬ Deselected crew i
  /-- The ones before it are done. -/
  past : ∀ j : Fin td.size, j < i → Done crew j (c.testsuite.testcase j)
  /-- The ones after it are ahead. -/
  ahead : ∀ j : Fin td.size, i < j → Ahead crew j (c.testsuite.testcase j)
  /-- The steps that were requested are those of the ones before it and its own so far. -/
  requests : requestedSteps c.bus =
    crew.scriptUpTo td i ++ (c.testsuite.testcase i).requested (td.id i)

/-- The session is over. -/
structure Closed (crew : Crew) (c : Coordinator td) : Prop where
  /-- The machine has finished. -/
  state : c.state = .testsuiteFinished
  /-- Every test case is done. -/
  done : ∀ j, Done crew j (c.testsuite.testcase j)
  /-- All steps were requested. -/
  requests : requestedSteps c.bus = crew.scriptUpTo td td.size

/-- The next test case is configured. -/
theorem Reckoned.configure {n : Nat} (reckoned : Reckoned crew c n)
    (pending : c.testsuite.pending = some i) :
    n ≤ i.val ∧ Turn crew (c.configure i) i ∧
      ((c.configure i).testsuite.testcase i).Configuring := by
  obtain ⟨blank, before⟩ := TestSuite.pending_eq_some.mp pending
  have late : n ≤ i.val := by
    by_contra early
    exact (reckoned.past i (by omega)).past blank
  have passed (j : Fin td.size) (low : n ≤ j.val) (high : j.val < i.val) :
      Omitted crew j ∧ Done crew j (c.testsuite.testcase j) :=
    (reckoned.ahead j low).done (before j high)
  have same {j : Fin td.size} (apart : j ≠ i) :
      (c.configure i).testsuite.testcase j = c.testsuite.testcase j := by
    simp [Coordinator.configure, apart]
  have here : (c.configure i).testsuite.testcase i =
      (c.testsuite.testcase i).changeState .configuring := by
    simp [Coordinator.configure]
  obtain ⟨selected, pristine⟩ : ¬ Deselected crew i ∧ (c.testsuite.testcase i).Pristine := by
    cases reckoned.ahead i late with
    | pristine selected pristine => exact ⟨selected, pristine⟩
    | skipped _ state => cases blank.symm.trans state
  have configuring : ((c.configure i).testsuite.testcase i).Configuring := by
    rw [here]
    exact pristine.configuring
  obtain ⟨reports, draws, -⟩ := configure_draws crew c i
  refine ⟨late, ⟨rfl, selected, fun j earlier => ?_, fun j later => ?_, ?_⟩, configuring⟩
  · rw [same (ne_of_lt earlier)]
    by_cases old : j.val < n
    · exact reckoned.past j old
    · exact (passed j (by omega) earlier).2
  · rw [same (ne_of_gt later)]
    exact reckoned.ahead j (late.trans (Nat.le_of_lt later))
  · rw [draws.requests, reckoned.requests, List.append_nil,
      TestCase.requested_start configuring.toAtStart, List.append_nil]
    exact (Crew.scriptUpTo_omitted late i.isLt.le fun j low high => (passed j low high).1).symm

/-- Without a pending test case the session is over. -/
theorem Reckoned.conclude {n : Nat} (reckoned : Reckoned crew c n) (inside : n ≤ td.size)
    (pending : c.testsuite.pending = none) :
    Closed crew (c.withTestsuite { c.testsuite with currentTc := none }).conclude := by
  have past := TestSuite.pending_eq_none.mp pending
  have passed (j : Fin td.size) (low : n ≤ j.val) :
      Omitted crew j ∧ Done crew j (c.testsuite.testcase j) :=
    (reckoned.ahead j low).done (past j)
  refine ⟨rfl, fun j => Done.withReport ?_ _, ?_⟩
  · by_cases old : j.val < n
    · exact reckoned.past j old
    · exact (passed j (by omega)).2
  · rw [Crew.scriptUpTo_omitted inside le_rfl fun j low _ => (passed j low).1, ← reckoned.requests]
    exact (requestedSteps_append _ _).trans (List.append_nil _)

/-- The replies that are under way in each phase of a session. -/
inductive Phase (crew : Crew) : Coordinator td → List Event → Prop
  /-- The session is to be configured. -/
  | configuring {c : Coordinator td} : c.state = .waitingForTestsuiteConfig →
      c.testsuite.currentTc = none → requestedSteps c.bus = [] →
      Phase crew c [.sessionConfiguration crew.sessionId crew.users (some defaultConfiguration)]
  /-- The suite is to be started. -/
  | starting {c : Coordinator td} : c.state = .waitingForTestsuiteStart →
      c.testsuite.currentTc = none →
      c.testsuite.settings.selection = some (((List.finRange td.size).map td.id).map crew.upper) →
      requestedSteps c.bus = [] → Phase crew c [.testSuiteStart]
  /-- Nodes are being configured. -/
  | waiting {c : Coordinator td} {i : Fin td.size} {upcoming : List Event} :
      c.state = .waitingForIutConfigurationExecuted → Turn crew c i →
      (c.testsuite.testcase i).Configuring → (∀ event ∈ upcoming, IsConfiguration event) →
      Phase crew c upcoming
  /-- The user mock replies to the announcement of a test case. -/
  | ready {c : Coordinator td} {i : Fin td.size} {upcoming reports : List Event} :
      c.state = .waitingForTestcaseStart → Turn crew c i →
      (c.testsuite.testcase i).Configuring → (∀ event ∈ reports, IsConfiguration event) →
      upcoming.Perm (UserMock.handleTestCaseReady crew.startId
        crew.userMock.implementedTestcasesList (td.id i) :: reports) → Phase crew c upcoming
  /-- A step is being executed. -/
  | executing {c : Coordinator td} {i : Fin td.size} {k : Nat} {step : Step} {iut : Iut} :
      c.state = .waitingForStepExecuted → Turn crew c i → ¬ Omitted crew i →
      (c.testsuite.testcase i).Executing → (c.testsuite.testcase i).NothingPassed →
      (c.testsuite.testcase i).currentStep = some k →
      (c.testsuite.testcase i).sequence[k]? = some step →
      Phase crew c [answerOf step iut]
  /-- The session is over. -/
  | closed {c : Coordinator td} : Closed crew c → Phase crew c []

/-- What is left of a session: the test cases from the current one on, and what is left of it. -/
def remaining (c : Coordinator td) : Nat × Nat :=
  match c.state, c.testsuite.currentTc with
  | .waitingForTestsuiteConfig, _ => (td.size + 2, 0)
  | .waitingForTestsuiteStart, _ => (td.size + 1, 0)
  | .waitingForIutConfigurationExecuted, some i =>
    (td.size - i, (c.testsuite.testcase i).script.length + 2)
  | .waitingForTestcaseStart, some i => (td.size - i, (c.testsuite.testcase i).script.length + 1)
  | .waitingForStepExecuted, some i =>
    (td.size - i, (c.testsuite.testcase i).script.length - (c.testsuite.testcase i).stepIt)
  | _, _ => (0, 0)

/-- Fewer test cases are left, or less of the current one. -/
abbrev Less : Nat × Nat → Nat × Nat → Prop := Prod.Lex (· < ·) (· < ·)

/-- Fewer answers are less. -/
theorem less_of_fst {small large : Nat × Nat} (fewer : small.1 < large.1) : Less small large :=
  Prod.lex_def.mpr (.inl fewer)

/-- Turns are about the test cases and the requests. -/
theorem Turn.of_same (turn : Turn crew c i)
    (testcase : after.testsuite.testcase = c.testsuite.testcase)
    (currentTc : after.testsuite.currentTc = c.testsuite.currentTc)
    (requests : requestedSteps after.bus = requestedSteps c.bus) : Turn crew after i := by
  refine ⟨currentTc.trans turn.current, turn.selected, fun j early => ?_, fun j late => ?_, ?_⟩
  · rw [testcase]
    exact turn.past j early
  · rw [testcase]
    exact turn.ahead j late
  · rw [requests, testcase, turn.requests]

/-- Phases are about the state, the test cases and the requests. -/
theorem Phase.of_same {upcoming : List Event} (phase : Phase crew c upcoming)
    (state : after.state = c.state) (testsuite : after.testsuite = c.testsuite)
    (requests : requestedSteps after.bus = requestedSteps c.bus) : Phase crew after upcoming := by
  have turns {i : Fin td.size} (turn : Turn crew c i) : Turn crew after i :=
    turn.of_same (by rw [testsuite]) (by rw [testsuite]) requests
  cases phase with
  | configuring here idle silent =>
    exact .configuring (state.trans here) (by rw [testsuite, idle]) (requests.trans silent)
  | starting here idle selection silent =>
    exact .starting (state.trans here) (by rw [testsuite, idle]) (by rw [testsuite, selection])
      (requests.trans silent)
  | waiting here turn configuring reports =>
    exact .waiting (state.trans here) (turns turn) (by rwa [testsuite]) reports
  | ready here turn configuring reports upcoming =>
    exact .ready (state.trans here) (turns turn) (by rwa [testsuite]) reports upcoming
  | executing here turn present executing nothing at_step found =>
    exact .executing (state.trans here) (turns turn) present (by rwa [testsuite])
      (by rwa [testsuite]) (by rwa [testsuite]) (by rwa [testsuite])
  | closed closed =>
    exact .closed ⟨state.trans closed.state, fun j => by rw [testsuite]; exact closed.done j,
      requests.trans closed.requests⟩

/-- Going on with the next test case enters the phase of its configuration, or ends the session. -/
theorem Reckoned.proceed {n : Nat} (reckoned : Reckoned crew c n) (inside : n ≤ td.size) :
    ∃ replied, c.Draws crew replied [] c.proceed ∧ Phase crew c.proceed replied ∧
      c.proceed.remaining.1 ≤ td.size - n := by
  unfold Coordinator.proceed
  cases pending : c.testsuite.pending with
  | some i =>
    obtain ⟨late, turn, configuring⟩ := reckoned.configure pending
    obtain ⟨reports, draws, about⟩ := configure_draws crew c i
    refine ⟨reports, draws, .waiting rfl turn configuring about, ?_⟩
    have left : (c.configure i).remaining.1 = td.size - i := rfl
    rw [left]
    omega
  | none =>
    have report : (c.withTestsuite { c.testsuite with currentTc := none }).Sends Message.Quiet
        (c.withTestsuite { c.testsuite with currentTc := none }).conclude :=
      ⟨_, rfl, fun message member => by rw [List.mem_singleton.mp member]; trivial⟩
    exact ⟨[], report.quiet, .closed (reckoned.conclude inside pending), Nat.zero_le _⟩

/-- Handling an input leads from a phase to a phase: it is survived, less of the session is left or
nothing is published, and the replies that are drawn are those of the new phase. -/
structure Leads (crew : Crew) (c : Coordinator td) (upcoming : List Event) (input : Input) : Prop where
  /-- The coordinator survives. -/
  survives : Survives crew.upper c input
  /-- The new phase. -/
  phase : ∃ replied steps, c.Draws crew replied steps (next crew.upper c input) ∧
    Phase crew (next crew.upper c input) (upcoming ++ replied)
  /-- Less is left, or nothing is published. -/
  progress : Less (next crew.upper c input).remaining c.remaining ∨
    ((next crew.upper c input).remaining = c.remaining ∧ (next crew.upper c input).bus = c.bus)

/-- An input whose handling completes is survived. -/
theorem survives_of_ok {input : Input} {upper : String → String} {value : Bool}
    (handled : c.handle upper input = .ok value after) :
    Survives upper c input ∧ next upper c input = after := by
  refine ⟨?_, by rw [next, handled, finalState_ok]⟩
  cases input with
  | event event services =>
    intro exception raises
    rw [handled] at raises
    cases raises
  | abortTestcase | timeout => trivial

/-- An input whose handling completes and that leaves less leads to the new phase. -/
theorem leads_of_ok {input : Input} {upcoming replied : List Event}
    {steps : List (String × StepScript)} {value : Bool}
    (handled : c.handle crew.upper input = .ok value after)
    (draws : c.Draws crew replied steps after) (phase : Phase crew after (upcoming ++ replied))
    (less : Less after.remaining c.remaining) : Leads crew c upcoming input := by
  obtain ⟨survives, same⟩ := survives_of_ok handled
  rw [← same] at draws phase less
  exact ⟨survives, ⟨replied, steps, draws, phase⟩, .inl less⟩

section Transitions

variable {services : Services}

/-- Messages that are sent first may be followed by quiet ones. -/
theorem Draws.then_quiet {replied : List Event} {steps : List (String × StepScript)}
    (draws : c.Draws crew replied steps between) (sends : between.Sends Message.Quiet after) :
    c.Draws crew replied steps after := by
  simpa using draws.trans sends.quiet

/-- The configuration of the session is accepted, and draws the start of the suite. -/
theorem leads_configured (staffed : Staffed crew td)
    (state : c.state = .waitingForTestsuiteConfig) (idle : c.testsuite.currentTc = none)
    (silent : requestedSteps c.bus = []) :
    Leads crew c [] (.event (.sessionConfiguration crew.sessionId crew.users
      (some defaultConfiguration)) services) := by
  have listed : Handler.sessionTcList (some defaultConfiguration) = .ok [] := rfl
  obtain ⟨ts, configured, skipped, handled⟩ := handle_configured crew.upper services crew.sessionId
    crew.users state idle staffed.nonempty listed
  have nonempty : (List.finRange td.size).map td.id ≠ [] := by
    simp [Nat.ne_of_gt staffed.nonempty]
  have selection : ts.settings.selection =
      some (((List.finRange td.size).map td.id).map crew.upper) := by
    rw [(TestSuite.configureTestsuite_selects configured).1]
    exact Settings.selection_configure nonempty
  have message : (c.withTestsuite ts).setupMessage =
      .testingToolConfigured (testsuiteConfiguration ts) := if_pos state
  have draws : c.Draws crew [.testSuiteStart] [] (((c.withTestsuite ts).send
      [(c.withTestsuite ts).setupMessage]).withState .waitingForTestsuiteStart) := by
    rw [message]
    exact ⟨_, rfl, by simp [replies_configured], rfl⟩
  refine leads_of_ok handled draws
    (.starting rfl skipped.currentTc selection (by rw [draws.requests, silent]; rfl)) ?_
  have before : c.remaining = (td.size + 2, 0) := by rw [remaining, state]
  have later : (((c.withTestsuite ts).send [(c.withTestsuite ts).setupMessage]).withState
      .waitingForTestsuiteStart).remaining = (td.size + 1, 0) := rfl
  rw [before, later]
  exact .left _ _ (Nat.lt_succ_self _)

/-- Starting the suite begins with its first test case. -/
theorem leads_started (staffed : Staffed crew td) (state : c.state = .waitingForTestsuiteStart)
    (idle : c.testsuite.currentTc = none)
    (selection : c.testsuite.settings.selection =
      some (((List.finRange td.size).map td.id).map crew.upper))
    (silent : requestedSteps c.bus = []) :
    Leads crew c [] (.event .testSuiteStart services) := by
  obtain ⟨ts, reset, skipped, handled⟩ :=
    handle_started crew.upper services (.inr state) idle staffed.nonempty
  have deselected (j : Fin td.size) : ts.Skipped j ↔ Deselected crew j := by
    rw [(TestSuite.reinit_selects reset).2, selection]
    constructor
    · rintro ⟨other, same, absent⟩
      rw [← Option.some.inj same] at absent
      exact absent
    · exact fun absent => ⟨_, rfl, absent⟩
  have quiet : c.Sends Message.Quiet (((c.withTestsuite ts).send (tunnels ts)).send
      [(c.withTestsuite ts).setupMessage]) := by
    have message : (c.withTestsuite ts).setupMessage = .testSuiteStarted :=
      if_neg (by rw [withTestsuite_state, state]; decide)
    rw [message]
    refine ⟨tunnels ts ++ [.testSuiteStarted], by simp, fun sent member => ?_⟩
    rcases List.mem_append.mp member with member | member
    · obtain ⟨_, _, _, rfl⟩ := tunnels_mem member
      trivial
    · rw [List.mem_singleton.mp member]
      trivial
  have reckoned : Reckoned crew (((c.withTestsuite ts).send (tunnels ts)).send
      [(c.withTestsuite ts).setupMessage]) 0 := by
    refine ⟨fun j early => absurd early (Nat.not_lt_zero _), fun j _ => ?_, ?_⟩
    · rw [send_testsuite, send_testsuite, withTestsuite_testsuite]
      by_cases absent : Deselected crew j
      · exact .skipped absent ((deselected j).mpr absent)
      · refine .pristine absent ?_
        rcases skipped.testcase j with same | same
        · rw [same]
          exact TestCase.reinit_pristine _
        · exact absurd ((deselected j).mp (by simp [TestSuite.Skipped, same])) absent
    · rw [quiet.requests, silent]
      rfl
  obtain ⟨replied, draws, phase, left⟩ := reckoned.proceed (Nat.zero_le _)
  refine leads_of_ok handled (Draws.after_quiet quiet draws) phase ?_
  have before : c.remaining = (td.size + 1, 0) := by rw [remaining, state]
  refine less_of_fst ?_
  rw [before]
  omega

/-- The end of the configuration is announced, which draws the reply of the user mock. -/
theorem announceReady_phase (staffed : Staffed crew td) {upcoming : List Event}
    (turn : Turn crew c i) (configuring : (c.testsuite.testcase i).Configuring)
    (reports : ∀ event ∈ upcoming, IsConfiguration event) :
    ∃ ready, c.announceReady = .ok () ready ∧
      (∃ replied, c.Draws crew replied [] ready ∧ Phase crew ready (upcoming ++ replied)) ∧
      ready.remaining = (td.size - i, (c.testsuite.testcase i).script.length + 1) := by
  have announced : c.announceReady = .ok () ((c.withState .waitingForTestcaseStart).send
      [.testCaseReady (configurationInfo (td.config i)) (verboseTestcaseInfo c.testsuite i)]) := by
    rw [announceReady]
    simp only [turn.current]
  refine ⟨_, announced, ⟨[UserMock.handleTestCaseReady crew.startId
    crew.userMock.implementedTestcasesList (td.id i)], ⟨_, rfl, ?_, rfl⟩, ?_⟩, ?_⟩
  · have about : (verboseTestcaseInfo c.testsuite i).testcaseId = td.id i := rfl
    rw [List.flatMap_singleton, replies_ready staffed _ about]
  · refine .ready rfl ⟨turn.current, turn.selected, turn.past, turn.ahead, ?_⟩ configuring reports
      (List.perm_append_singleton _ _)
    rw [send_bus, requestedSteps_append, withState_bus, turn.requests]
    exact List.append_nil _
  · simp [remaining, turn.current]

/-- The timer of the configuration expires. -/
theorem leads_timeout (staffed : Staffed crew td) {upcoming : List Event}
    (state : c.state = .waitingForIutConfigurationExecuted) (turn : Turn crew c i)
    (configuring : (c.testsuite.testcase i).Configuring)
    (reports : ∀ event ∈ upcoming, IsConfiguration event) :
    Leads crew c upcoming .timeout ∧ Less (next crew.upper c .timeout).remaining c.remaining := by
  obtain ⟨ready, announced, ⟨replied, draws, phase⟩, left⟩ :=
    announceReady_phase staffed turn configuring reports
  have handled : c.handle crew.upper .timeout = .ok true ready := by
    rw [handle_timeout state, announced, andThen_ok]
  have less : Less ready.remaining c.remaining := by
    have before : c.remaining = (td.size - i, (c.testsuite.testcase i).script.length + 2) := by
      simp [remaining, state, turn.current]
    rw [before, left]
    exact .right _ (Nat.lt_succ_self _)
  refine ⟨leads_of_ok handled draws phase less, ?_⟩
  rwa [(survives_of_ok handled).2]

/-- What the report of a configured node updates, unless it is refused. -/
theorem nodeUpdate_report {event : Event} (report : IsConfiguration event) :
    (∃ node address, Handler.nodeUpdate (some event) = .ok (node, address)) ∨
      ∃ message, Handler.nodeUpdate (some event) = .error (.coordinatorError message) := by
  obtain ⟨node, address, nonempty, rfl⟩ := report
  have read : Handler.agentAndAddress (some (.configurationExecuted (some node)
      (some (some address)))) = .ok (some node, PyString.split address "::") := by
    simp [Handler.agentAndAddress, PyString.truthy_some nonempty]
  unfold Handler.nodeUpdate
  rw [read]
  simp only [bind, Except.bind]
  split
  · split
    · exact .inl ⟨_, _, rfl⟩
    · exact .inr ⟨_, rfl⟩
  · exact .inr ⟨_, rfl⟩

/-- A node is reported as configured. -/
theorem handle_report {upper : String → String} {event : Event} (report : IsConfiguration event)
    (waits : c.Waiting) : c.handle upper (.event event services) =
      andThen (c.recordNode (some event)) (.ok true) := by
  obtain ⟨node, address, -, rfl⟩ := report
  have entered : rests c.state = true ∧ c.reenter services = .ok () c := by
    rcases waits with state | state <;> simp [reenter, state, rests]
  rw [handle_configuration rfl entered.1, entered.2, andThen_ok]

/-- The report of a configured node may end the configuration; otherwise nothing is published. -/
theorem leads_report (staffed : Staffed crew td) {event : Event} {upcoming : List Event}
    (report : IsConfiguration event) (waits : c.Waiting) (turn : Turn crew c i)
    (configuring : (c.testsuite.testcase i).Configuring)
    (reports : c.state = .waitingForIutConfigurationExecuted →
      ∀ other ∈ upcoming, IsConfiguration other)
    (phase : ∀ after : Coordinator td, after.state = c.state → Turn crew after i →
      (after.testsuite.testcase i).Configuring → Phase crew after upcoming) :
    Leads crew c upcoming (.event event services) := by
  have handled : c.handle crew.upper (.event event services) =
      andThen (c.recordNode (some event)) (.ok true) := handle_report report waits
  -- Nothing but the addresses changes, and nothing is published.
  have silent {after : Coordinator td} (survives : Survives crew.upper c (.event event services))
      (same : next crew.upper c (.event event services) = after) (state : after.state = c.state)
      (bus : after.bus = c.bus) (testcase : after.testsuite.testcase = c.testsuite.testcase)
      (currentTc : after.testsuite.currentTc = c.testsuite.currentTc) :
      Leads crew c upcoming (.event event services) := by
    have kept : Phase crew after upcoming :=
      phase after state (turn.of_same testcase currentTc (by rw [bus])) (by rwa [testcase])
    refine ⟨survives, ⟨[], [], ?_, ?_⟩, .inr ⟨?_, by rw [same, bus]⟩⟩
    · rw [same]
      exact ⟨[], by rw [bus, List.append_nil], rfl, rfl⟩
    · rwa [same, List.append_nil]
    · rw [same, remaining, remaining, state, testcase, currentTc]
  rw [recordNode] at handled
  rcases nodeUpdate_report report with ⟨node, address, updated⟩ | ⟨message, refused⟩
  · let recorded := c.withTestsuite (c.testsuite.updateNodeAddress node address)
    simp only [updated] at handled
    by_cases complete : (c.testsuite.updateNodeAddress node address).checkAllIutNodesConfigured
    · rcases waits with state | state
      · simp only [withTestsuite_testsuite, complete, ↓reduceIte, state] at handled
        have moved : Turn crew recorded i := turn.of_same rfl rfl rfl
        obtain ⟨ready, announced, ⟨replied, draws, later⟩, left⟩ :=
          announceReady_phase staffed (c := recorded) moved configuring (reports state)
        have announced' : (c.withTestsuite (c.testsuite.updateNodeAddress node
            address)).announceReady = .ok () ready := announced
        rw [announced', andThen_ok] at handled
        have drawn : c.Draws crew replied [] ready := draws
        refine leads_of_ok handled drawn later ?_
        have before : c.remaining = (td.size - i, (c.testsuite.testcase i).script.length + 2) := by
          simp [remaining, state, turn.current]
        rw [before, left]
        exact .right _ (Nat.lt_succ_self _)
      · have elsewhere : ¬ FsmState.waitingForTestcaseStart =
          .waitingForIutConfigurationExecuted := by decide
        simp only [withTestsuite_testsuite, complete, ↓reduceIte, state, elsewhere,
          andThen_ok] at handled
        obtain ⟨survives, same⟩ := survives_of_ok handled
        exact silent survives same rfl rfl rfl rfl
    · simp only [withTestsuite_testsuite, complete, Bool.false_eq_true, ↓reduceIte,
        andThen_ok] at handled
      obtain ⟨survives, same⟩ := survives_of_ok handled
      exact silent survives same rfl rfl rfl rfl
  · simp only [refused, andThen_error] at handled
    have survives : Survives crew.upper c (.event event services) := by
      intro exception raises
      rw [handled] at raises
      cases raises
      rfl
    have same : next crew.upper c (.event event services) = c := by
      rw [next, handled, finalState_error]
    exact silent survives same rfl rfl rfl rfl

/-- The number of components that respond to a step depends on its script only. -/
theorem responders_of_script {step other : Step} (same : step.script = other.script) :
    crew.responders step = crew.responders other := by
  rw [Crew.responders, Crew.responders, Step.type_of_script same, Step.iut_of_script same]

/-- Requesting a step of the current test case draws its answer. -/
theorem fetch_phase (staffed : Staffed crew td) (scripted : c.Scripted) (turn : Turn crew c i)
    (present : ¬ Omitted crew i) (ongoing : (c.testsuite.testcase i).Ongoing)
    (behind : (c.testsuite.testcase i).Behind) {k : Nat} {tc : TestCase} {step : Step}
    (fetched : (c.testsuite.testcase i).nextStep = (some k, tc))
    (found : tc.sequence[k]? = some step) (executable : step.type.isExecutable = true)
    (executing : (tc.changeState .executing).Executing) :
    ∃ replied steps,
      c.Draws crew replied steps ((c.fetch i tc).send ((c.fetch i tc).announceStep i step)) ∧
      Phase crew ((c.fetch i tc).send ((c.fetch i tc).announceStep i step)) replied ∧
      Less ((c.fetch i tc).send ((c.fetch i tc).announceStep i step)).remaining
        (td.size - i, (c.testsuite.testcase i).script.length -
          (c.testsuite.testcase i).stepIt) := by
  have here : (c.fetch i tc).testsuite.testcase i = tc.changeState .executing := by
    simp [fetch, modify]
  have others {j : Fin td.size} (apart : j ≠ i) :
      (c.fetch i tc).testsuite.testcase j = c.testsuite.testcase j := by
    simp [fetch, modify, apart]
  have script : tc.script = (c.testsuite.testcase i).script := by
    rw [← (c.testsuite.testcase i).script_nextStep, fetched]
  obtain ⟨same, found', requested⟩ :=
    TestCase.Ongoing.requested_execute (td.id i) ongoing fetched
  obtain rfl : same = step := Option.some.inj (found'.symm.trans found)
  obtain ⟨described, member, like⟩ : ∃ described ∈ (td.description i).sequence,
      described.script = same.script := by
    have listed : same.script ∈ tc.script := List.mem_map_of_mem (List.mem_of_getElem? found)
    rw [script, scripted i] at listed
    exact List.mem_map.mp listed
  have one : crew.responders same = 1 := by
    rw [← responders_of_script like]
    exact staffed.answered i described member (by rwa [Step.type_of_script like])
  obtain ⟨iut, executed⟩ : ∃ iut, same.iut = some iut := by
    cases nobody : same.iut with
    | none => simp [Crew.responders, nobody] at one
    | some iut => exact ⟨iut, rfl⟩
  have drawn : ((c.fetch i tc).announceStep i same).flatMap (replies crew) =
      [answerOf same iut] := by
    rw [announceStep, replies_step executable executed, one, List.replicate_one]
  have asked : requestedSteps ((c.fetch i tc).announceStep i same) =
      [(td.id i, same.script)] := by
    rw [announceStep, Handler.stepExecuteMessage]
    cases type : same.type with
    | stimuli | verify => simp [requestedSteps, Message.request?, stepInfo, testcaseInfo,
        Step.script, type]
    | check | feature =>
      rw [type] at executable
      cases executable
  have inside : k < (c.testsuite.testcase i).script.length := by
    rw [← script, TestCase.script, List.length_map]
    exact (List.getElem?_eq_some_iff.mp found).1
  obtain ⟨-, -, -, -, low, -, shape⟩ := ongoing.nextStep_some fetched
  have position : tc.currentStep = some k ∧ tc.stepIt = k + 1 := by
    rw [shape]
    exact ⟨rfl, rfl⟩
  refine ⟨[answerOf same iut], [(td.id i, same.script)], ⟨_, rfl, drawn, asked⟩, ?_, ?_⟩
  · have turned : Turn crew ((c.fetch i tc).send ((c.fetch i tc).announceStep i same)) i := by
      refine ⟨turn.current, turn.selected, fun j early => ?_, fun j late => ?_, ?_⟩
      · rw [send_testsuite, others (ne_of_lt early)]
        exact turn.past j early
      · rw [send_testsuite, others (ne_of_gt late)]
        exact turn.ahead j late
      · have bus : (c.fetch i tc).bus = c.bus := rfl
        rw [send_bus, requestedSteps_append, asked, send_testsuite, here, requested, bus,
          turn.requests, List.append_assoc]
    have nothing := behind.execute ongoing fetched
    have at_step : (tc.changeState .executing).currentStep = some k := position.1
    have there : (tc.changeState .executing).sequence[k]? = some same := found
    rw [← here] at executing nothing at_step there
    exact .executing rfl turned present executing nothing at_step there
  · have left : ((c.fetch i tc).send ((c.fetch i tc).announceStep i same)).remaining =
        (td.size - i, (c.testsuite.testcase i).script.length - (k + 1)) := by
      have current : (c.fetch i tc).testsuite.currentTc = some i := turn.current
      have state : (c.fetch i tc).state = .waitingForStepExecuted := rfl
      have length : (tc.changeState .executing).script = tc.script :=
        TestCase.script_changeState _ _
      simp only [remaining, send_state, state, send_testsuite, current, here, length, script]
      rw [← position.2]
      rfl
    rw [left]
    exact .right _ (by omega)

/-- A completed test case is followed by the next one. -/
theorem complete_phase (turn : Turn crew c i) (scripted : c.Scripted) (present : ¬ Omitted crew i)
    (ongoing : (c.testsuite.testcase i).Ongoing) {tc : TestCase} {report : Report}
    {requests : List Message} (fetched : (c.testsuite.testcase i).nextStep = (none, tc))
    (outcome : finishOutcome services (td.id i) (c.analyzeRequest i)
      (tc.changeState .readyForAnalysis) = .completed report requests)
    (complete : (tc.changeState .readyForAnalysis).Complete) (tail : List Message)
    (quiet : ∀ message ∈ tail, message.Quiet) :
    ∃ replied, c.Draws crew replied [] (((c.exhaust i tc).consulted services i (·.reported report)
        requests).send tail).proceed ∧
      Phase crew (((c.exhaust i tc).consulted services i (·.reported report) requests).send
        tail).proceed replied ∧
      (((c.exhaust i tc).consulted services i (·.reported report) requests).send
        tail).proceed.remaining.1 ≤ td.size - (i + 1) := by
  have asked : ∀ message ∈ requests, message.Quiet := by
    intro message member
    have inside : message ∈ (finishOutcome services (td.id i) (c.analyzeRequest i)
        (tc.changeState .readyForAnalysis)).requests := by
      rw [outcome]
      exact member
    rcases requests_mem inside with rfl | rfl | ⟨pcap, rfl⟩ <;> trivial
  have silent : c.Sends Message.Quiet (((c.exhaust i tc).consulted services i (·.reported report)
      requests).send tail) := by
    refine ⟨requests ++ tail, List.append_assoc _ _ _, fun message member => ?_⟩
    rcases List.mem_append.mp member with member | member
    · exact asked message member
    · exact quiet message member
  have here : (((c.exhaust i tc).consulted services i (·.reported report) requests).send
      tail).testsuite.testcase i = (tc.changeState .readyForAnalysis).reported report := by
    simp [exhaust, modify]
  have others {j : Fin td.size} (apart : j ≠ i) :
      (((c.exhaust i tc).consulted services i (·.reported report) requests).send
        tail).testsuite.testcase j = c.testsuite.testcase j := by
    simp [exhaust, modify, apart]
  have reckoned : Reckoned crew (((c.exhaust i tc).consulted services i (·.reported report)
      requests).send tail) (i + 1) := by
    refine ⟨fun j early => ?_, fun j late => ?_, ?_⟩
    · by_cases same : j = i
      · subst same
        rw [here]
        exact .executed present rfl complete
      · rw [others same]
        exact turn.past j (lt_of_le_of_ne (Nat.lt_succ_iff.mp early) same)
    · have apart : j ≠ i := fun same => by
        rw [same] at late
        omega
      rw [others apart]
      exact turn.ahead j late
    · have whole : crew.script i = executedSteps (td.id i) (c.testsuite.testcase i).script := by
        rw [Crew.script, if_neg present, scripted i]
      rw [silent.requests, turn.requests,
        Crew.scriptUpTo_succ, whole, ongoing.requested_end (td.id i) fetched]
  obtain ⟨replied, draws, phase, left⟩ := reckoned.proceed i.isLt
  exact ⟨replied, Draws.after_quiet silent draws, phase, left⟩

/-- A test case whose steps are closed has no step at its end that is still being executed. -/
theorem not_open_of_behind {tc : TestCase} (exhausted : tc.Exhausted) (behind : tc.Behind) :
    ¬ tc.Open := by
  rintro ⟨step, member, executing⟩
  obtain ⟨k, inside, rfl⟩ := List.getElem_of_mem member
  have before : k < tc.stepIt := Nat.lt_of_lt_of_le inside exhausted.past
  have found := List.getElem?_eq_getElem inside
  by_cases executable : (tc.sequence[k]).type.isExecutable = true
  · rcases behind k _ found before executable with closed | closed <;>
      cases closed.symm.trans executing
  · have visited := exhausted.visited k _ found before
    rw [TestCase.Visited, if_neg executable] at visited
    cases visited.symm.trans executing

/-- With readable answers of the services, the next step of a test case whose steps are closed is
executed, or the test case is completed. -/
theorem Advance.succeeds {result : EStateM.Result PyException (Coordinator td) Unit}
    (advance : Advance services c i result) (readable : ¬ services.Unreadable)
    (steps : (c.testsuite.testcase i).sequence ≠ []) (ongoing : (c.testsuite.testcase i).Ongoing)
    (behind : (c.testsuite.testcase i).Behind) :
    (∃ k tc step, (c.testsuite.testcase i).nextStep = (some k, tc) ∧
      tc.sequence[k]? = some step ∧ step.type.isExecutable = true ∧
      (tc.changeState .executing).Executing ∧
      result = .ok () ((c.fetch i tc).send ((c.fetch i tc).announceStep i step))) ∨
    ∃ tc report requests, (c.testsuite.testcase i).nextStep = (none, tc) ∧
      finishOutcome services (td.id i) (c.analyzeRequest i) (tc.changeState .readyForAnalysis) =
        .completed report requests ∧ (tc.changeState .readyForAnalysis).Complete ∧
      result = .ok () ((((c.exhaust i tc).consulted services i (·.reported report) requests).send
        [.testCaseFinished
          (testcaseInfo ((c.exhaust i tc).modify i (·.reported report)).testsuite i),
        .testCaseVerdict report
          (testcaseInfo ((c.exhaust i tc).modify i (·.reported report)).testsuite i)]).proceed) := by
  have kept {tc : TestCase} (fetched : (c.testsuite.testcase i).nextStep = (none, tc)) :
      (tc.changeState .readyForAnalysis).sequence ≠ [] ∧
        ¬ (tc.changeState .readyForAnalysis).Open := by
    obtain ⟨-, currentStep, stepIt, rfl, -⟩ := ongoing.nextStep_none fetched
    have past := behind.exhaust ongoing fetched
    exact ⟨steps, not_open_of_behind (ongoing.exhaust fetched) past⟩
  cases advance with
  | execute fetched found executable executing =>
    exact .inl ⟨_, _, _, fetched, found, executable, executing, rfl⟩
  | refuse fetched exhausted outcome =>
    have ending := finishOutcome_ending services (td.id i) (c.analyzeRequest i) exhausted
    rw [outcome] at ending
    cases ending with
    | empty nothing => exact absurd nothing (kept fetched).1
    | pending blocked => exact absurd blocked (kept fetched).2
  | interrupt fetched exhausted outcome =>
    have ending := finishOutcome_ending services (td.id i) (c.analyzeRequest i) exhausted
    rw [outcome] at ending
    cases ending with
    | unreadable _ _ garbled _ => exact absurd garbled readable
  | complete fetched exhausted outcome =>
    have ending := finishOutcome_ending services (td.id i) (c.analyzeRequest i) exhausted
    rw [outcome] at ending
    cases ending with
    | completed done _ _ => exact .inr ⟨_, _, _, fetched, outcome, done, rfl⟩

/-- Executing the next step of a test case whose steps are closed succeeds, with readable answers of
the services. -/
theorem Advance.leads {result : EStateM.Result PyException (Coordinator td) Unit}
    (advance : Advance services c i result) (readable : ¬ services.Unreadable)
    (staffed : Staffed crew td) (scripted : c.Scripted) (turn : Turn crew c i)
    (present : ¬ Omitted crew i) (ongoing : (c.testsuite.testcase i).Ongoing)
    (behind : (c.testsuite.testcase i).Behind) :
    ∃ after replied steps, result = .ok () after ∧ c.Draws crew replied steps after ∧
      Phase crew after replied ∧
      Less after.remaining
        (td.size - i, (c.testsuite.testcase i).script.length -
          (c.testsuite.testcase i).stepIt) := by
  have steps : (c.testsuite.testcase i).sequence ≠ [] := by
    obtain ⟨step, member, -⟩ := staffed.executable i
    obtain ⟨there, inside, -⟩ := scripted.described member
    exact List.ne_nil_of_mem inside
  obtain ⟨k, tc, step, fetched, found, executable, executing, rfl⟩ |
      ⟨tc, report, requests, fetched, outcome, complete, rfl⟩ :=
    advance.succeeds readable steps ongoing behind
  · obtain ⟨replied, steps, draws, phase, less⟩ := fetch_phase staffed scripted turn present ongoing
      behind fetched found executable executing
    exact ⟨_, replied, steps, rfl, draws, phase, less⟩
  · obtain ⟨replied, draws, phase, left⟩ := complete_phase turn scripted present ongoing fetched
      outcome complete [.testCaseFinished (testcaseInfo ((c.exhaust i tc).modify i
        (·.reported report)).testsuite i), .testCaseVerdict report (testcaseInfo
        ((c.exhaust i tc).modify i (·.reported report)).testsuite i)] (by simp [Message.Quiet])
    refine ⟨_, replied, [], rfl, draws, phase, less_of_fst ?_⟩
    have inside := i.isLt
    exact lt_of_le_of_lt left (by omega)

/-- The test case that is announced is started, and requests its first step. -/
theorem leads_start (staffed : Staffed crew td) (readable : ¬ services.Unreadable)
    (scripted : c.Scripted) (state : c.state = .waitingForTestcaseStart) (turn : Turn crew c i)
    (configuring : (c.testsuite.testcase i).Configuring) (present : ¬ Omitted crew i)
    (id : PyString.Attribute) : Leads crew c [] (.event (.testCaseStart id) services) := by
  obtain ⟨result, advance, handled⟩ :=
    handle_execution crew.upper services id (.inr state) turn.current configuring
  let begun := (c.modify i (·.changeState .executing)).send (sniffingMessages i)
  have here : begun.testsuite.testcase i = (c.testsuite.testcase i).changeState .executing := by
    simp [begun, modify]
  have others {j : Fin td.size} (apart : j ≠ i) :
      begun.testsuite.testcase j = c.testsuite.testcase j := by
    simp [begun, modify, apart]
  have sniffs : c.Sends Message.Quiet begun := by
    refine ⟨sniffingMessages i, rfl, fun message member => ?_⟩
    rcases sniffingMessages_mem member with ⟨_, _, _, _, rfl⟩ | ⟨_, rfl⟩ <;> trivial
  have turned : Turn crew begun i := by
    refine ⟨turn.current, turn.selected, fun j early => ?_, fun j late => ?_, ?_⟩
    · rw [others (ne_of_lt early)]
      exact turn.past j early
    · rw [others (ne_of_gt late)]
      exact turn.ahead j late
    · rw [sniffs.requests, turn.requests, here]
      rfl
  have scripts : begun.Scripted := scripted.modify fun tc => tc.script_changeState _
  have ongoing : (begun.testsuite.testcase i).Ongoing := by
    rw [here]
    exact configuring.start
  have behind : (begun.testsuite.testcase i).Behind := by
    rw [here]
    exact configuring.toAtStart.behind
  have possible : ∃ step ∈ (c.testsuite.testcase i).sequence, step.type.isExecutable = true := by
    obtain ⟨described, member, executable⟩ := staffed.executable i
    obtain ⟨step, inside, like⟩ := scripted.described member
    exact ⟨step, inside, by rwa [Step.type_of_script like]⟩
  obtain ⟨after, replied, steps, rfl, draws, phase, less⟩ :=
    advance.leads readable staffed scripts turned present ongoing behind
  -- A test case with a step to execute stays the current one, so its start can be announced.
  have current : after.testsuite.currentTc = some i := by
    rcases executed_cases configuring advance with ⟨-, same, result, kept⟩ | ⟨blocked, -⟩ |
      ⟨blocked, -⟩
    · cases result
      rw [kept, turn.current]
    all_goals
      obtain ⟨step, member, executable⟩ := possible
      rw [blocked step member] at executable
      cases executable
  have announced : after.announceStarted =
      .ok () (after.send [.testCaseStarted (testcaseInfo after.testsuite i)]) := by
    rw [announceStarted]
    simp only [current]
  have quiet : after.Sends Message.Quiet
      (after.send [.testCaseStarted (testcaseInfo after.testsuite i)]) :=
    .send fun message member => by rw [List.mem_singleton.mp member]; trivial
  rw [andThen_ok, announced, andThen_ok] at handled
  refine leads_of_ok handled ((Draws.after_quiet sniffs draws).then_quiet quiet)
    (phase.of_same rfl rfl quiet.requests) ?_
  have before : c.remaining = (td.size - i, (c.testsuite.testcase i).script.length + 1) := by
    simp [remaining, state, turn.current]
  have bound : Less after.remaining (td.size - i, (c.testsuite.testcase i).script.length -
      (c.testsuite.testcase i).stepIt) := by
    have length : (begun.testsuite.testcase i).script = (c.testsuite.testcase i).script := by
      rw [here, TestCase.script_changeState]
    have iterator : (begun.testsuite.testcase i).stepIt = (c.testsuite.testcase i).stepIt := by
      rw [here]
      rfl
    rw [length, iterator] at less
    exact less
  rw [before]
  rcases Prod.lex_def.mp bound with fewer | ⟨same, shorter⟩
  · exact less_of_fst fewer
  · exact Prod.lex_def.mpr (.inr ⟨same, lt_of_lt_of_le shorter (by omega)⟩)

/-- The test case that is announced is skipped, and the session goes on with the next one. -/
theorem leads_skip (state : c.state = .waitingForTestcaseStart) (turn : Turn crew c i)
    (configuring : (c.testsuite.testcase i).Configuring) (absent : Omitted crew i) :
    Leads crew c [] (.event (.testCaseSkip (some (some (td.id i)))) services) := by
  have accepted : ongoing c.state = true := by rw [state]; rfl
  have unskipped : (c.testsuite.testcase i).state ≠ some .skipped := by
    rw [configuring.state]
    decide
  have idle : ¬ (c.testsuite.testcase i).state = some .executing := by
    rw [configuring.state]
    decide
  have skipped : c.skipTestcase services (some (some (td.id i))) =
      .ok () (c.withTestsuite (c.testsuite.skip i)).proceed := by
    simp [skipTestcase, turn.current, Option.filter, skipCurrent, idle]
  have handled : c.handle crew.upper (.event (.testCaseSkip (some (some (td.id i)))) services) =
      .ok true (c.withTestsuite (c.testsuite.skip i)).proceed := by
    rw [handle_testCaseSkip accepted, skipped, andThen_ok]
  have reckoned : Reckoned crew (c.withTestsuite (c.testsuite.skip i)) (i + 1) := by
    refine ⟨fun j early => ?_, fun j late => ?_, ?_⟩
    · rw [withTestsuite_testsuite, TestSuite.skip_testcase]
      by_cases same : j = i
      · rw [if_pos ⟨same, unskipped⟩, same]
        exact .omitted absent (TestCase.changeState_state _ _)
      · rw [if_neg fun both => same both.1]
        exact turn.past j (lt_of_le_of_ne (Nat.lt_succ_iff.mp early) same)
    · have apart : j ≠ i := fun same => by
        rw [same] at late
        omega
      rw [withTestsuite_testsuite, TestSuite.skip_testcase_of_ne apart]
      exact turn.ahead j late
    · rw [withTestsuite_bus, turn.requests, Crew.scriptUpTo_succ, Crew.script, if_pos absent,
        TestCase.requested_start configuring.toAtStart]
  obtain ⟨replied, draws, phase, left⟩ := reckoned.proceed i.isLt
  refine leads_of_ok handled (Draws.after_quiet (.of_bus rfl) draws) phase (less_of_fst ?_)
  have before : c.remaining = (td.size - i, (c.testsuite.testcase i).script.length + 1) := by
    simp [remaining, state, turn.current]
  have inside := i.isLt
  rw [before]
  exact lt_of_le_of_lt left (by simp only; omega)

/-- The answer to the current step is followed by the next step or the next test case. -/
theorem leads_answer (staffed : Staffed crew td) (readable : ¬ services.Unreadable)
    (scripted : c.Scripted) (state : c.state = .waitingForStepExecuted) (turn : Turn crew c i)
    (present : ¬ Omitted crew i) (executing : (c.testsuite.testcase i).Executing)
    (nothing : (c.testsuite.testcase i).NothingPassed) {k : Nat} {step : Step} (iut : Iut)
    (at_step : (c.testsuite.testcase i).currentStep = some k)
    (found : (c.testsuite.testcase i).sequence[k]? = some step) :
    Leads crew c [] (.event (answerOf step iut) services) := by
  obtain ⟨l, other, located, -, found', -, executable⟩ := executing.current
  obtain rfl : l = k := Option.some.inj (located.symm.trans at_step)
  obtain rfl : other = step := Option.some.inj (found'.symm.trans found)
  obtain ⟨kind, about, complete, filled⟩ := answerOf_fits iut executable
  obtain ⟨result, handled, advance⟩ := handle_answered crew.upper services state turn.current
    executing at_step found kind complete filled
  have answered : c.answered i l other (answerOf other iut) =
      c.modify i (·.modifyStep l (answerTo (answerOf other iut))) := if_pos about
  have ongoing := answered_current (answerOf other iut) executing at_step found
  rw [answered] at advance ongoing
  have here : (c.modify i (·.modifyStep l (answerTo (answerOf other iut)))).testsuite.testcase i =
      (c.testsuite.testcase i).modifyStep l (answerTo (answerOf other iut)) := by
    simp [modify]
  have others {j : Fin td.size} (apart : j ≠ i) :
      (c.modify i (·.modifyStep l (answerTo (answerOf other iut)))).testsuite.testcase j =
        c.testsuite.testcase j := by
    simp [modify, apart]
  have script : ((c.testsuite.testcase i).modifyStep l (answerTo (answerOf other iut))).script =
      (c.testsuite.testcase i).script :=
    TestCase.script_modifyStep _ l (script_answerTo _)
  have turned : Turn crew (c.modify i (·.modifyStep l (answerTo (answerOf other iut)))) i := by
    refine ⟨turn.current, turn.selected, fun j early => ?_, fun j late => ?_, ?_⟩
    · rw [others (ne_of_lt early)]
      exact turn.past j early
    · rw [others (ne_of_gt late)]
      exact turn.ahead j late
    · have bus : (c.modify i (·.modifyStep l (answerTo (answerOf other iut)))).bus = c.bus := rfl
      rw [bus, turn.requests, here, TestCase.requested, TestCase.requested, script]
      rfl
  have scripts : (c.modify i (·.modifyStep l (answerTo (answerOf other iut)))).Scripted :=
    scripted.modify fun tc => tc.script_modifyStep l (script_answerTo _)
  have behind : ((c.modify i (·.modifyStep l
      (answerTo (answerOf other iut)))).testsuite.testcase i).Behind := by
    rw [here]
    exact nothing.answered at_step (answerTo_state _)
  obtain ⟨after, replied, steps, rfl, draws, phase, less⟩ :=
    advance.leads readable staffed scripts turned present ongoing behind
  rw [andThen_ok] at handled
  refine leads_of_ok handled (Draws.after_quiet (.of_bus rfl) draws) phase ?_
  have before : c.remaining = (td.size - i, (c.testsuite.testcase i).script.length -
      (c.testsuite.testcase i).stepIt) := by
    simp [remaining, state, turn.current]
  rw [here, script] at less
  rw [before]
  exact less

end Transitions

/-- A reply is no report of a configured node. -/
theorem not_configuration_of_ready (id : String) :
    ¬ IsConfiguration (UserMock.handleTestCaseReady crew.startId
      crew.userMock.implementedTestcasesList id) := by
  rintro ⟨node, address, -, same⟩
  rw [UserMock.handleTestCaseReady] at same
  split at same <;> cases same

/-- **Whatever reply arrives next leads on**, if it is not overtaken by reports of configured
nodes. -/
theorem Phase.leads {services : Services} (staffed : Staffed crew td)
    (readable : ¬ services.Unreadable) (scripted : c.Scripted) {before after : List Event}
    {event : Event} (phase : Phase crew c (before ++ event :: after))
    (prompt : ¬ IsConfiguration event → ∀ other ∈ before ++ after, ¬ IsConfiguration other) :
    Leads crew c (before ++ after) (.event event services) := by
  have middle : (before ++ event :: after).Perm (event :: (before ++ after)) := List.perm_middle
  have inside {other : Event} (member : other ∈ before ++ after) :
      other ∈ before ++ event :: after := middle.mem_iff.mpr (List.mem_cons_of_mem _ member)
  generalize upcoming : before ++ event :: after = events at phase inside middle
  -- Where one reply is under way, it is the one that arrives.
  have alone {reply : Event} (single : events = [reply]) :
      event = reply ∧ before ++ after = [] := by
    rw [single] at middle
    have same := List.singleton_perm.mp middle
    exact ⟨(List.cons.inj same).1.symm, (List.cons.inj same).2.symm⟩
  cases phase with
  | configuring state idle silent =>
    obtain ⟨rfl, rest⟩ := alone rfl
    rw [rest]
    exact leads_configured staffed state idle silent
  | starting state idle selection silent =>
    obtain ⟨rfl, rest⟩ := alone rfl
    rw [rest]
    exact leads_started staffed state idle selection silent
  | waiting state turn configuring reports =>
    have others : ∀ other ∈ before ++ after, IsConfiguration other :=
      fun other member => reports other (inside member)
    have report : IsConfiguration event := reports event (middle.mem_iff.mpr List.mem_cons_self)
    exact leads_report staffed report (.inl state) turn configuring (fun _ => others)
      fun later same turned configured => .waiting (same.trans state) turned configured others
  | @ready i _ pending state turn configuring reports shape =>
    have shaped := middle.symm.trans shape
    by_cases report : IsConfiguration event
    · have listed : event ∈ pending :=
        (List.mem_cons.mp (shaped.mem_iff.mp List.mem_cons_self)).resolve_left fun same =>
          not_configuration_of_ready _ (same ▸ report)
      have rest : (before ++ after).Perm (UserMock.handleTestCaseReady crew.startId
          crew.userMock.implementedTestcasesList (td.id i) :: pending.erase event) :=
        (shaped.trans (((List.perm_cons_erase listed).cons _).trans (.swap _ _ _))).cons_inv
      have fewer : ∀ other ∈ pending.erase event, IsConfiguration other :=
        fun other member => reports other (List.mem_of_mem_erase member)
      exact leads_report staffed report (.inr state) turn configuring
        (fun wrong => by cases state.symm.trans wrong) fun later same turned configured =>
          .ready (same.trans state) turned configured fewer rest
    · have same : event = UserMock.handleTestCaseReady crew.startId
          crew.userMock.implementedTestcasesList (td.id i) :=
        (List.mem_cons.mp (shaped.mem_iff.mp List.mem_cons_self)).resolve_right fun listed =>
          report (reports event listed)
      rw [same] at shaped
      have rest : before ++ after = [] := by
        refine List.eq_nil_iff_forall_not_mem.mpr fun other member => ?_
        exact prompt report other member (reports other (shaped.cons_inv.mem_iff.mp member))
      rw [rest, same, UserMock.handleTestCaseReady]
      split
      · rename_i declined
        exact leads_skip state turn configuring (.inr declined)
      · rename_i implemented
        exact leads_start staffed readable scripted state turn configuring
          (fun absent => absent.elim turn.selected implemented) _
  | executing state turn present executing nothing at_step found =>
    obtain ⟨rfl, rest⟩ := alone rfl
    rw [rest]
    exact leads_answer staffed readable scripted state turn present executing nothing _ at_step found
  | closed closed => exact absurd middle.symm (List.not_perm_cons_nil)

end Coordinator

namespace AutomatedSession

variable {session : AutomatedSession td} {action : Action}

/-- How many deliveries something is away from the coordinator. -/
def deliveries : Mail → Nat
  | .sent .. => 2
  | .reply _ => 1

/-- What is left of a session: what is left for the coordinator, and what is under way. -/
def outlook (session : AutomatedSession td) : (Nat × Nat) × Nat :=
  (session.coordinator.remaining, InFlight.load deliveries session.underWay)

/-- Less is left for the coordinator, or less is under way. -/
abbrev Nearer : (Nat × Nat) × Nat → (Nat × Nat) × Nat → Prop := Prod.Lex Less (· < ·)

/-- A session cannot come nearer to its end forever. -/
theorem nearer_wellFounded : WellFounded Nearer :=
  WellFounded.prod_lex (WellFounded.prod_lex Nat.lt_wfRel.wf Nat.lt_wfRel.wf) Nat.lt_wfRel.wf

/-- The replies under way are those of the phase, and the coordinator has survived so far. -/
structure Proper (crew : Crew) (session : AutomatedSession td) : Prop where
  /-- The phase. -/
  phase : Phase crew session.coordinator (session.upcoming crew)
  /-- The coordinator has survived. -/
  reached : Coordinator.Reached crew.upper crew.testsuiteName (Survives crew.upper)
    session.coordinator

/-- What is published brings the replies that it draws under way. -/
theorem event_publish (crew : Crew) (messages : List Message) :
    (publish crew messages).filterMap (Mail.event? crew) = messages.flatMap (replies crew) := by
  induction messages with
  | nil => rfl
  | cons message rest ih =>
    have here : ((crew.parties.filter (·.listens message)).map (Mail.sent · message)).filterMap
        (Mail.event? crew) = replies crew message := by
      rw [List.filterMap_map]
      rfl
    rw [publish, List.flatMap_cons, List.filterMap_append, here, List.flatMap_cons]
    exact congrArg _ ih

/-- Where the handling of an input leads to. -/
theorem Proper.handle {input : Input} {upcoming : List Event} (proper : Proper crew session)
    (leads : Leads crew session.coordinator upcoming input) {underWay : List Mail}
    (under : underWay.filterMap (Mail.event? crew) = upcoming)
    (lighter : InFlight.load deliveries underWay < InFlight.load deliveries session.underWay ∨
      Less (Coordinator.next crew.upper session.coordinator input).remaining
        session.coordinator.remaining) :
    Proper crew ({ session with underWay }.handle crew input) ∧
      Nearer ({ session with underWay }.handle crew input).outlook session.outlook := by
  obtain ⟨replied, steps, ⟨sent, bus, replied_eq, -⟩, phase⟩ := leads.phase
  have published : (Coordinator.next crew.upper session.coordinator input).bus.drop
      session.coordinator.bus.length = sent := by
    rw [bus, List.drop_left]
  constructor
  · refine ⟨?_, .step proper.reached leads.survives⟩
    have upcoming_eq : ({ session with underWay }.handle crew input).upcoming crew =
        upcoming ++ replied := by
      simp only [AutomatedSession.upcoming, AutomatedSession.handle, published]
      rw [List.filterMap_append, under, event_publish, replied_eq]
    rw [upcoming_eq]
    exact phase
  · rcases leads.progress with less | ⟨same, silent⟩
    · exact .left _ _ less
    · have nothing : sent = [] := by
        rw [silent] at bus
        exact List.append_right_eq_self.mp bus.symm
      rcases lighter with lighter | less
      · have outlook_eq : ({ session with underWay }.handle crew input).outlook =
            (session.coordinator.remaining, InFlight.load deliveries underWay) := by
          simp only [outlook, AutomatedSession.handle, published, nothing, same]
          rw [publish, List.flatMap_nil, List.append_nil]
        rw [outlook_eq]
        exact .right _ lighter
      · exact .left _ _ less

/-- A session begins with its configuration under way. -/
theorem initial_proper (crew : Crew) (td : TestDescriptions) : Proper crew (initial crew td) := by
  have coordinator : (initial crew td).coordinator =
      (Coordinator.new td crew.testsuiteName).withState .waitingForTestsuiteConfig :=
    Coordinator.initial_eq
  refine ⟨?_, .init⟩
  rw [coordinator]
  exact .configuring rfl rfl rfl

/-- The coordinator of a proper session has the steps of the description. -/
theorem Proper.scripted (proper : Proper crew session) : session.coordinator.Scripted :=
  reached_scripted (fun _ _ survives => .inr survives) proper.reached

/-- **Each action of a timely session leads on.** -/
theorem Proper.next (staffed : Staffed crew td) (proper : Proper crew session)
    (allowed : session.Allowed crew action) :
    Proper crew (session.next crew action) ∧
      Nearer (session.next crew action).outlook session.outlook := by
  cases action with
  | receive n =>
    obtain ⟨recipient, message, there⟩ := allowed.possible
    have unseen (mail : Mail) :
        (mail.received crew).bind (Mail.event? crew) = mail.event? crew := by
      cases mail with
      | sent recipient message =>
        rw [Mail.received, Mail.event?]
        cases recipient.onRequest crew.startId message <;> rfl
      | reply event => rfl
    have same : (session.next crew (.receive n)).upcoming crew = session.upcoming crew :=
      InFlight.filterMap_alter unseen
    have lighter : InFlight.load deliveries (session.next crew (.receive n)).underWay <
        InFlight.load deliveries session.underWay := by
      have weighed := InFlight.load_alter deliveries (Mail.received crew) there
      have left : ((Mail.sent recipient message).received crew).elim 0 deliveries ≤ 1 := by
        rw [Mail.received]
        cases recipient.onRequest crew.startId message <;> simp [deliveries]
      have two : deliveries (.sent recipient message) = 2 := rfl
      change InFlight.load deliveries (InFlight.alter session.underWay n (Mail.received crew)) < _
      omega
    refine ⟨⟨?_, proper.reached⟩, .right _ lighter⟩
    rw [same]
    exact proper.phase
  | deliver n services =>
    obtain ⟨event, found⟩ := Option.isSome_iff_exists.mp allowed.possible
    have there : session.underWay[n]? = some (.reply event) := by
      obtain ⟨mail, inside, reply⟩ := Option.bind_eq_some_iff.mp found
      cases mail with
      | sent => cases reply
      | reply other =>
        cases reply
        exact inside
    obtain ⟨before, after, upcoming, remaining⟩ :=
      InFlight.filterMap_remove (Mail.event? crew) there rfl
    have phase := proper.phase
    rw [AutomatedSession.upcoming, upcoming] at phase
    have prompt : ¬ IsConfiguration event → ∀ other ∈ before ++ after, ¬ IsConfiguration other := by
      intro other_kind other member
      refine allowed.prompt event found other_kind other ?_
      rw [AutomatedSession.upcoming, upcoming]
      rcases List.mem_append.mp member with early | late
      · exact List.mem_append_left _ early
      · exact List.mem_append_right _ (List.mem_cons_of_mem _ late)
    have leads := phase.leads staffed allowed.readable proper.scripted prompt
    have weighed := InFlight.load_alter deliveries (fun _ => none) there
    have lighter : InFlight.load deliveries (InFlight.alter session.underWay n fun _ => none) <
        InFlight.load deliveries session.underWay := by
      have one : deliveries (.reply event) = 1 := rfl
      simp only [Option.elim_none] at weighed
      omega
    have handled : session.next crew (.deliver n services) =
        (session.alter n fun _ => none).handle crew (.event event services) := by
      rw [AutomatedSession.next, found]
    rw [handled]
    exact proper.handle leads remaining (.inl lighter)
  | timeout =>
    have state : session.coordinator.state = .waitingForIutConfigurationExecuted := allowed.possible
    have phase := proper.phase
    generalize upcoming : session.upcoming crew = events at phase
    cases phase with
    | waiting _ turn configuring reports =>
      obtain ⟨leads, less⟩ := leads_timeout staffed state turn configuring reports
      exact proper.handle leads upcoming (.inr less)
    | configuring wrong _ _ | starting wrong _ _ _ => cases state.symm.trans wrong
    | ready wrong _ _ _ _ => cases state.symm.trans wrong
    | executing wrong _ _ _ _ _ _ => cases state.symm.trans wrong
    | closed closed => cases state.symm.trans closed.state

/-- Services that do not answer give nothing that cannot be read. -/
theorem noServices_readable : ¬ noServices.Unreadable := by
  rintro (⟨_, _, _, none_eq, _⟩ | ⟨⟨_, _, _, none_eq, _⟩, _⟩) <;> cases none_eq

/-- **A session that is not over can go on.** -/
theorem Proper.progress (proper : Proper crew session) :
    session.Completed ∨ ∃ action, session.Allowed crew action := by
  by_cases sent : ∃ n : Nat, ∃ recipient message,
      session.underWay[n]? = some (.sent recipient message)
  · obtain ⟨n, recipient, message, there⟩ := sent
    exact .inr ⟨.receive n, ⟨recipient, message, there⟩, trivial, trivial⟩
  -- Only replies are under way.
  have replied {n : Nat} {mail : Mail} (there : session.underWay[n]? = some mail) :
      ∃ event, mail = .reply event ∧ session.reply? n = some event := by
    cases mail with
    | sent recipient message => exact absurd ⟨n, recipient, message, there⟩ sent
    | reply event => exact ⟨event, rfl, by rw [reply?, there]; rfl⟩
  have deliverable {n : Nat} {event : Event} (reply : session.reply? n = some event)
      (prompt : ¬ IsConfiguration event →
        ∀ other ∈ session.upcoming crew, ¬ IsConfiguration other) :
      ∃ action, session.Allowed crew action := by
    refine ⟨.deliver n noServices, by rw [Possible, reply]; rfl, noServices_readable, ?_⟩
    intro same found
    rw [reply] at found
    obtain rfl := Option.some.inj found
    exact prompt
  by_cases reported : ∃ n event, session.reply? n = some event ∧ IsConfiguration event
  · obtain ⟨n, event, reply, report⟩ := reported
    exact .inr (deliverable reply fun no => absurd report no)
  have unreported : ∀ other ∈ session.upcoming crew, ¬ IsConfiguration other := by
    intro other member report
    obtain ⟨mail, inside, observed⟩ := List.mem_filterMap.mp member
    obtain ⟨n, there⟩ := List.getElem?_of_mem inside
    obtain ⟨event, rfl, reply⟩ := replied there
    obtain rfl := Option.some.inj observed
    exact reported ⟨n, event, reply, report⟩
  cases first : session.underWay[0]? with
  | some mail =>
    obtain ⟨event, rfl, reply⟩ := replied first
    exact .inr (deliverable reply fun _ => unreported)
  | none =>
    have nothing : session.underWay = [] := by
      cases underWay : session.underWay with
      | nil => rfl
      | cons mail rest => simp [underWay] at first
    have phase := proper.phase
    rw [upcoming, nothing, List.filterMap_nil] at phase
    generalize quiet : ([] : List Event) = events at phase
    cases phase with
    | waiting state _ _ _ => exact .inr ⟨.timeout, state, trivial, trivial⟩
    | closed closed => exact .inl ⟨closed.state, nothing⟩
    | ready _ _ _ _ shape =>
      rw [← quiet] at shape
      exact absurd shape.symm List.not_perm_cons_nil
    | configuring _ _ _ | starting _ _ _ _ | executing _ _ _ _ _ _ _ => cases quiet

/-- The states of a timely session are proper. -/
theorem reached_proper (staffed : Staffed crew td) (reached : Reached crew td session) :
    Proper crew session :=
  reached.invariant (initial_proper crew td) fun _ _ _ proper allowed =>
    (proper.next staffed allowed).1

/-- Nothing is left to be done in a completed session. -/
theorem Completed.stopped (completed : session.Completed) : ¬ session.Allowed crew action := by
  obtain ⟨state, nothing⟩ := completed
  intro allowed
  cases action with
  | receive n =>
    obtain ⟨recipient, message, there⟩ := allowed.possible
    rw [nothing] at there
    cases there
  | deliver n services =>
    obtain ⟨event, found⟩ := Option.isSome_iff_exists.mp allowed.possible
    rw [reply?, nothing] at found
    cases found
  | timeout => cases state.symm.trans allowed.possible

section Small

/-- An IUT at each end executes the small suite. -/
def smallCrew : Crew where
  upper := id
  testsuiteName := "coap"
  startId := none
  sessionId := none
  users := none
  userMock := ⟨none, []⟩
  iuts := [⟨"coap_client", none, fun _ => "bbbb::1"⟩, ⟨"coap_server", none, fun _ => "bbbb::2"⟩]

/-- The small crew is staffed. -/
theorem smallCrew_staffed : Staffed smallCrew smallSuite where
  nonempty := by decide
  executable := by decide
  answered := by decide
  implemented := by decide

/-- The actions of a session in which whatever is under way arrives at once, and the services do not
answer. -/
def smallActions : List Action :=
  let setup := [.deliver 0 noServices, .receive 0, .deliver 0 noServices]
  let testcase := [.receive 0, .receive 0, .deliver 0 noServices, .timeout, .receive 0, .receive 1,
    .receive 1, .deliver 0 noServices, .receive 0, .receive 1, .deliver 0 noServices, .receive 0,
    .receive 0, .receive 1, .deliver 0 noServices]
  setup ++ testcase ++ .receive 0 :: testcase ++ [.receive 0, .receive 0, .receive 0, .receive 0]

/-- The action is allowed, and the services do not answer. -/
def Unanswered (session : AutomatedSession smallSuite) (action : Action) : Prop :=
  session.Possible action ∧ session.Prompt smallCrew action ∧
    match action with
    | .deliver _ services => services = noServices
    | _ => True

/-- Whether an action leaves a request unanswered is decided action by action. -/
instance (session : AutomatedSession smallSuite) : DecidablePred (Unanswered session)
  | .deliver _ _ | .receive _ | .timeout => inferInstanceAs (Decidable (_ ∧ _ ∧ _))

/-- The session of the small suite at its end. -/
def smallEnd : AutomatedSession smallSuite :=
  smallActions.foldl (next smallCrew) (initial smallCrew smallSuite)

/-- The end of the small session is reached. -/
theorem smallEnd_reached : Reached smallCrew smallSuite smallEnd := by
  have run : Runs.AllAllowed (next smallCrew) Unanswered (initial smallCrew smallSuite)
      smallActions := by decide +kernel
  refine run.reachable.mono fun session action allowed => ⟨allowed.1, ?_, allowed.2.1⟩
  cases action with
  | deliver n services =>
    have silent : services = noServices := allowed.2.2
    rw [silent]
    exact noServices_readable
  | receive n | timeout => trivial

end Small

end AutomatedSession

end Ioppytest
