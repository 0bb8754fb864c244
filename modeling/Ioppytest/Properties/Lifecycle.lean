import Ioppytest.Lib.Lifecycle
import Ioppytest.Properties.Survival
import Ioppytest.TestCoordinator.Sending

/-!
# The messages about a test case

A test case is configured, announced as ready, started, executed step by step, finished and judged.
The messages about these stages come in this order and name the current test case, but for the
announcement of the start: it is made once the transition is completed, which has by then sent the
first step, or finished the test case and gone on to the next one.
-/

namespace Ioppytest

open Raising Lifecycle

variable {td : TestDescriptions}

/-- The milestones in the execution of a test case. -/
inductive Milestone where
  | configuration
  | ready
  | started
  | step
  | finished
  | verdict
  deriving DecidableEq

/-- The milestone that a message announces, and the id of the test case it names. -/
def Message.milestone : Message → Option (Milestone × String)
  | .configurationExecute _ _ _ tc => some (.configuration, tc.testcaseId)
  | .testCaseReady _ tc => some (.ready, tc.testcaseId)
  | .testCaseStarted tc => some (.started, tc.testcaseId)
  | .stepStimuliExecute _ _ tc _ => some (.step, tc.testcaseId)
  | .stepVerifyExecute _ _ tc => some (.step, tc.testcaseId)
  | .testCaseFinished tc => some (.finished, tc.testcaseId)
  | .testCaseVerdict _ tc => some (.verdict, tc.testcaseId)
  | _ => none

/-- What a configured test case goes on with: its start, if that is announced at all, or else its
steps and its end. -/
def execution (strict : Bool) : List Milestone := if strict then [.started] else [.step, .finished]

/-- The stages that may come next. -/
def nextMilestones (strict : Bool) : Option Milestone → List Milestone
  | none => .configuration :: .ready :: execution strict
  | some .configuration => .configuration :: .ready :: execution strict
  | some .ready => execution strict
  | some .started => [.step, .finished]
  | some .step => [.step, .finished]
  | some .finished => [.verdict]
  | some .verdict => []

/-- The order of the stages; unless it is strict, announcements of a start are passed over. -/
def lifecycle (strict : Bool) : Protocol Message String Milestone where
  label message := message.milestone.filter fun label => strict || label.1 != .started
  stages := nextMilestones strict
  last := .verdict

namespace Coordinator

/-- The input leaves the execution of the current test case, if it is handled. -/
def leaves (c : Coordinator td) : Input → Bool
  | .event .testSuiteStart _ => true
  | .event .testCaseRestart _ => true
  | .event (.testCaseSelect _) _ => true
  | .event (.testCaseSkip (some id)) _ => namesCurrent c.testsuite id
  | .abortTestcase => true
  | _ => false

/-- What was heard after an input is handled. A test case whose execution is left is followed by the
one that is current afterwards, and so is one that has been judged. -/
def courseAfter (strict : Bool) (course : Course String Milestone) (c : Coordinator td)
    (input : Input) (result : EStateM.Result PyException (Coordinator td) Bool) :
    Course String Milestone :=
  let after := finalState result
  let next := after.testsuite.getCurrentTestcaseId
  let course :=
    if handled result && c.leaves input then { course with subject := next, stage := none }
    else course
  (lifecycle strict).hearAll next course (after.bus.drop c.bus.length)

/-- The stages that a test case can have come to in a state of the machine. -/
def Within (state : FsmState) (stage : Option Milestone) : Prop :=
  stage = none ∨ stage = some .configuration ∨
    stage = some .ready ∧ state ≠ .waitingForIutConfigurationExecuted ∨
    stage = some .step ∧ state ≠ .waitingForIutConfigurationExecuted ∧
      state ≠ .waitingForTestcaseStart

/-- What was heard is in order and fits the current test case. -/
structure OnCourse (c : Coordinator td) (course : Course String Milestone) : Prop where
  /-- Nothing was out of order. -/
  ordered : course.ordered = true
  /-- The messages name the current test case. -/
  subject : ∀ i, c.testsuite.currentTc = some i → course.subject = some (td.id i)
  /-- The last of them goes with the state. -/
  stage : ∀ i, c.testsuite.currentTc = some i → Within c.state course.stage

/-- What is published between two states is heard. -/
def Hears (strict : Bool) (next : Option String) (before : Coordinator td)
    (earlier : Course String Milestone) (after : Coordinator td)
    (later : Course String Milestone) : Prop :=
  ∃ sent, after.bus = before.bus ++ sent ∧ (lifecycle strict).hearAll next earlier sent = later

/-- What is published between two states is heard, and what was heard afterwards fits the current
test case. -/
def Continues (strict : Bool) (next : Option String) (before : Coordinator td)
    (earlier : Course String Milestone) (after : Coordinator td) : Prop :=
  ∃ later, Hears strict next before earlier after later ∧ after.OnCourse later

section Hears

variable {strict : Bool} {next : Option String} {c between after : Coordinator td}
  {course middle : Course String Milestone} {i : Fin td.size}

/-- Messages without a stage are passed over. -/
theorem Hears.quiet
    (sends : c.Sends (fun message => (lifecycle strict).label message = none) after) :
    Hears strict next c course after course := by
  obtain ⟨sent, bus, quiet⟩ := sends
  exact ⟨sent, bus, Protocol.hearAll_quiet quiet⟩

/-- A course that is heard is continued. -/
theorem Hears.continues (first : Hears strict next c course between middle)
    (second : Continues strict next between middle after) :
    Continues strict next c course after := by
  obtain ⟨early, bus, heard⟩ := first
  obtain ⟨later, ⟨late, bus', heard'⟩, fits⟩ := second
  refine ⟨later, ⟨early ++ late, by rw [bus', bus, List.append_assoc], ?_⟩, fits⟩
  rw [Protocol.hearAll_append, heard, heard']

/-- The course goes on while the test case and the state stay the same. -/
theorem OnCourse.quiet (fits : c.OnCourse course)
    (current : after.testsuite.currentTc = c.testsuite.currentTc) (state : after.state = c.state)
    (sends : c.Sends (fun message => (lifecycle strict).label message = none) after) :
    Continues strict next c course after := by
  refine ⟨course, .quiet sends, fits.ordered, ?_, ?_⟩
  · rw [current]
    exact fits.subject
  · rw [current, state]
    exact fits.stage

/-- Without a current test case, every course is fine. -/
theorem OnCourse.idle (fits : c.OnCourse course) (idle : after.testsuite.currentTc = none)
    (sends : c.Sends (fun message => (lifecycle strict).label message = none) after) :
    Continues strict next c course after := by
  refine ⟨course, .quiet sends, fits.ordered, fun i current => ?_, fun i current => ?_⟩ <;>
    cases idle.symm.trans current

/-- A message without a milestone has no label. -/
theorem unlabelled {message : Message} (quiet : message.milestone = none) :
    (lifecycle strict).label message = none := by
  simp [lifecycle, quiet]

/-- The configuration of a test case is asked for. -/
theorem hears_configure (c : Coordinator td) (i : Fin td.size) :
    Continues strict next c ⟨some (td.id i), none, true⟩ (c.configure i) := by
  have current : (c.configure i).testsuite.currentTc = some i := rfl
  have labels : ∀ message ∈ Handler.configurationExecuteMessages (td.config i)
      (testcaseInfo ({ c.testsuite with currentTc := some i }.modify i (·.changeState .configuring))
        i), (lifecycle strict).label message = some (.configuration, td.id i) := by
    intro message member
    obtain ⟨description, -, rfl⟩ := List.mem_map.mp member
    cases strict <;> rfl
  have apart : Milestone.configuration ≠ (lifecycle strict).last := Milestone.noConfusion
  have heard := @Protocol.hearAll_repeated _ _ _ _ _ (lifecycle strict) next
    ⟨some (td.id i), none, true⟩ _ _ _ apart labels rfl rfl
    (by simp [lifecycle, nextMilestones]) (by simp [lifecycle, nextMilestones])
  refine ⟨_, ⟨_, rfl, rfl⟩, ?_⟩
  rcases heard with same | same
  · rw [same]
    refine ⟨rfl, fun j here => ?_, fun _ _ => .inl rfl⟩
    rw [← Option.some.inj (current.symm.trans here)]
  · rw [same]
    refine ⟨rfl, fun j here => ?_, fun _ _ => .inr (.inl rfl)⟩
    rw [← Option.some.inj (current.symm.trans here)]

/-- The next test case is configured, if there is one. -/
theorem hears_proceed (c : Coordinator td) :
    Continues strict next c ⟨c.proceed.testsuite.getCurrentTestcaseId, none, true⟩ c.proceed := by
  unfold proceed
  cases c.testsuite.pending with
  | some i => exact hears_configure c i
  | none =>
    refine ⟨_, .quiet ⟨[_], rfl, fun message member => ?_⟩, rfl, fun _ here => ?_, fun _ here => ?_⟩
    · rw [List.mem_singleton.mp member]
      exact unlabelled rfl
    · cases here
    · cases here

/-- The end of the configuration is announced for the current test case. -/
theorem hears_announceReady (fits : c.OnCourse course)
    (state : c.state = .waitingForIutConfigurationExecuted) :
    Continues strict next c course (finalState c.announceReady) := by
  unfold announceReady
  cases current : c.testsuite.currentTc with
  | none => exact fits.idle current (.of_bus rfl)
  | some i =>
    have early : course.stage = none ∨ course.stage = some .configuration := by
      rcases fits.stage i current with fresh | configured | ⟨-, wrong⟩ | ⟨-, wrong, -⟩
      · exact .inl fresh
      · exact .inr configured
      · exact absurd state wrong
      · exact absurd state wrong
    have timely : Milestone.ready ∈ (lifecycle strict).stages course.stage := by
      rcases early with fresh | configured
      · simp [lifecycle, nextMilestones, fresh]
      · simp [lifecycle, nextMilestones, configured]
    have label : (lifecycle strict).label (.testCaseReady (configurationInfo (td.config i))
        (verboseTestcaseInfo c.testsuite i)) = some (.ready, td.id i) := by
      cases strict <;> rfl
    have heard := Protocol.hear_ordered _ next label fits.ordered (fits.subject i current) timely
    rw [if_neg (show Milestone.ready ≠ (lifecycle strict).last from Milestone.noConfusion)] at heard
    refine ⟨_, ⟨[_], rfl, heard⟩, rfl, fun j here => ?_, fun _ _ => ?_⟩
    · have same : i = j := Option.some.inj (current.symm.trans here)
      rw [same]
    · exact .inr (.inr (.inl ⟨rfl, FsmState.noConfusion⟩))

/-- The handling of a node announces at most that the configuration is over. -/
theorem hears_recordNode (fits : c.OnCourse course) (event : Option Event) :
    Continues strict next c course (finalState (c.recordNode event)) := by
  unfold recordNode
  cases Handler.nodeUpdate event with
  | error exception => exact fits.quiet rfl rfl (.of_bus rfl)
  | ok node =>
    obtain ⟨name, address⟩ := node
    dsimp only
    split
    · split
      · rename_i state
        have kept :
            (c.withTestsuite (c.testsuite.updateNodeAddress name address)).OnCourse course :=
          ⟨fits.ordered, fits.subject, fits.stage⟩
        have same : Hears strict next c course
            (c.withTestsuite (c.testsuite.updateNodeAddress name address)) course :=
          .quiet (.of_bus rfl)
        exact same.continues (hears_announceReady kept state)
      · split <;> exact fits.quiet rfl rfl (.of_bus rfl)
    · exact fits.quiet rfl rfl (.of_bus rfl)

/-- The announcement of a step names its test case. -/
theorem announceStep_labels (strict : Bool) (c : Coordinator td) (i : Fin td.size) (step : Step) :
    ∀ message ∈ c.announceStep i step,
      (lifecycle strict).label message = some (.step, td.id i) := by
  intro message member
  unfold announceStep Handler.stepExecuteMessage at member
  dsimp only at member
  split at member
  · rw [List.mem_singleton.mp member]
    cases strict <;> rfl
  · rw [List.mem_singleton.mp member]
    cases strict <;> rfl
  · cases member
  · cases member

/-- While a test case is executed and starts are passed over, a step or the end comes next. -/
theorem Within.goes_on {state : FsmState} {stage : Option Milestone} (within : Within state stage) :
    .step ∈ nextMilestones false stage ∧ .finished ∈ nextMilestones false stage := by
  rcases within with rfl | rfl | ⟨rfl, -⟩ | ⟨rfl, -⟩ <;> decide

/-- A step is announced while its test case is executed. -/
theorem hears_announceStep {before : Coordinator td} (step : Step)
    (bus : after.bus = c.bus ++ before.announceStep i step)
    (current : after.testsuite.currentTc = some i)
    (state : after.state ≠ .waitingForIutConfigurationExecuted ∧
      after.state ≠ .waitingForTestcaseStart)
    (ordered : course.ordered = true) (subject : course.subject = some (td.id i))
    (within : Within after.state course.stage) : Continues false next c course after := by
  have apart : Milestone.step ≠ (lifecycle false).last := Milestone.noConfusion
  have labels := announceStep_labels false before i step
  have heard := Protocol.hearAll_repeated _ next apart labels ordered subject within.goes_on.1
    (by decide)
  refine ⟨_, ⟨_, bus, rfl⟩, ?_⟩
  rcases heard with same | same
  · rw [same]
    refine ⟨ordered, fun j here => ?_, fun _ _ => within⟩
    rw [subject, Option.some.inj (current.symm.trans here)]
  · rw [same]
    refine ⟨rfl, fun j here => ?_, fun _ _ => .inr (.inr (.inr ⟨rfl, state⟩))⟩
    rw [Option.some.inj (current.symm.trans here)]

/-- The end of a test case is announced with its verdict. -/
theorem hearAll_ended (info : TestCaseInfo) (report : Report) (ordered : course.ordered = true)
    (subject : course.subject = some info.testcaseId)
    (timely : .finished ∈ nextMilestones strict course.stage) :
    (lifecycle strict).hearAll next course [.testCaseFinished info, .testCaseVerdict report info] =
      ⟨next, none, true⟩ := by
  have finished : (lifecycle strict).label (.testCaseFinished info) =
      some (.finished, info.testcaseId) := by
    cases strict <;> rfl
  have judged : (lifecycle strict).label (.testCaseVerdict report info) =
      some (.verdict, info.testcaseId) := by
    cases strict <;> rfl
  have last := @Protocol.hear_ordered _ _ _ _ _ (lifecycle strict) next
    ⟨some info.testcaseId, some .finished, true⟩ _ _ _ judged rfl rfl
    (List.mem_singleton_self Milestone.verdict)
  rw [Protocol.hearAll_cons, Protocol.hear_ordered _ next finished ordered subject timely,
    if_neg (show Milestone.finished ≠ (lifecycle strict).last from Milestone.noConfusion),
    Protocol.hearAll_cons, last]
  rfl

/-- The requests to the services have no milestone. -/
theorem requests_unlabelled (strict : Bool) (services : Services) (c : Coordinator td)
    (i : Fin td.size) (tc : TestCase) :
    ∀ message ∈ (finishOutcome services (td.id i) (c.analyzeRequest i) tc).requests,
      (lifecycle strict).label message = none := by
  intro message member
  rcases requests_mem member with rfl | rfl | ⟨pcap, rfl⟩ <;> exact unlabelled rfl

/-- The next step of the current test case is announced, or its end and the next test case. -/
theorem Advance.hears {services : Services}
    {result : EStateM.Result PyException (Coordinator td) Unit}
    (advance : Advance services c i result) (current : c.testsuite.currentTc = some i)
    (ordered : course.ordered = true) (subject : course.subject = some (td.id i))
    (within : Within .waitingForStepExecuted course.stage) :
    Continues false (finalState result).testsuite.getCurrentTestcaseId c course
      (finalState result) := by
  have pending (after : Coordinator td) (same : after.testsuite.currentTc = c.testsuite.currentTc)
      (state : after.state = .preparingNextStep)
      (sends : c.Sends (fun message => (lifecycle false).label message = none) after) :
      Continues false after.testsuite.getCurrentTestcaseId c course after := by
    refine ⟨course, .quiet sends, ordered, fun j here => ?_, fun j _ => ?_⟩
    · rw [subject, Option.some.inj (current.symm.trans (same.symm.trans here))]
    · rw [state]
      exact within.imp_right (Or.imp_right (Or.imp (And.imp_right fun _ => FsmState.noConfusion)
        (And.imp_right fun _ => ⟨FsmState.noConfusion, FsmState.noConfusion⟩)))
  cases advance with
  | @execute k tc step _ _ _ _ =>
    exact hears_announceStep step rfl current ⟨FsmState.noConfusion, FsmState.noConfusion⟩ ordered
      subject within
  | refuse _ _ _ => exact pending _ rfl rfl (.of_bus rfl)
  | @interrupt tc exception sent _ _ outcome =>
    refine pending _ rfl rfl ⟨sent, rfl, ?_⟩
    have quiet := requests_unlabelled false services c i
      (tc.changeState .readyForAnalysis)
    rw [outcome] at quiet
    exact quiet
  | @complete tc report sent _ _ outcome =>
    have quiet := requests_unlabelled false services c i
      (tc.changeState .readyForAnalysis)
    rw [outcome] at quiet
    rw [finalState_ok]
    have asked : Hears false ((((c.exhaust i tc).consulted services i (·.reported report) sent).send
        [.testCaseFinished
          (testcaseInfo ((c.exhaust i tc).modify i (·.reported report)).testsuite i),
        .testCaseVerdict report
          (testcaseInfo ((c.exhaust i tc).modify i (·.reported report)).testsuite
            i)]).proceed.testsuite.getCurrentTestcaseId) c course
        ((c.exhaust i tc).consulted services i (·.reported report) sent) course :=
      .quiet ⟨sent, rfl, quiet⟩
    refine asked.continues (Hears.continues ⟨_, rfl, ?_⟩ (hears_proceed _))
    exact hearAll_ended _ report ordered subject within.goes_on.2

end Hears

/-- A start is accepted: a test case waits for it. -/
def acceptsStart (c : Coordinator td) : Input → Bool
  | .event (.testCaseStart _) _ =>
    (c.state == .waitingForIutConfigurationExecuted || c.state == .waitingForTestcaseStart) &&
      c.testsuite.currentTc.isSome
  | _ => false

/-- No test case is executed, nor is the end of one pending. -/
def Still (c : Coordinator td) : Prop :=
  c.state ≠ .waitingForStepExecuted ∧ c.state ≠ .preparingNextStep

/-- No test case is executed, nor is one started. -/
def Calm (c : Coordinator td) (input : Input) : Prop := c.Still ∧ c.acceptsStart input = false

section Moves

variable {strict : Bool} {c : Coordinator td} {input : Input} {course : Course String Milestone}
  {result : EStateM.Result PyException (Coordinator td) Bool}

/-- A current test case that waits is started. -/
theorem accepts_waiting {id : PyString.Attribute} {services : Services} {i : Fin td.size}
    (waits : c.Waiting) (current : c.testsuite.currentTc = some i) :
    c.acceptsStart (.event (.testCaseStart id) services) = true := by
  rcases waits with state | state <;> simp [acceptsStart, state, current]

/-- What is published while an input is handled is heard. -/
theorem Hears.courseAfter {later : Course String Milestone}
    (hears : Hears strict (finalState result).testsuite.getCurrentTestcaseId c course
      (finalState result) later) (kept : (handled result && c.leaves input) = false) :
    courseAfter strict course c input result = later := by
  obtain ⟨sent, bus, heard⟩ := hears
  simp only [Coordinator.courseAfter, kept, bus, List.drop_left]
  exact heard

/-- If nothing about a test case is published, nothing is heard. -/
theorem courseAfter_quiet
    (sends : c.Sends (fun message => (lifecycle strict).label message = none) (finalState result))
    (kept : (handled result && c.leaves input) = false) :
    courseAfter strict course c input result = course :=
  (Hears.quiet sends).courseAfter kept

/-- What goes on from what was heard before an input is what was heard after it. -/
theorem Continues.after (kept : (handled result && c.leaves input) = false)
    (continues : Continues strict (finalState result).testsuite.getCurrentTestcaseId c course
      (finalState result)) :
    (finalState result).OnCourse (courseAfter strict course c input result) := by
  obtain ⟨later, hears, fits⟩ := continues
  rwa [hears.courseAfter kept]

/-- When the execution of a test case is left, what was heard begins anew. -/
theorem Continues.anew (left : (handled result && c.leaves input) = true)
    (ordered : course.ordered = true)
    (continues : Continues strict (finalState result).testsuite.getCurrentTestcaseId c
      ⟨(finalState result).testsuite.getCurrentTestcaseId, none, true⟩ (finalState result)) :
    (finalState result).OnCourse (courseAfter strict course c input result) := by
  obtain ⟨later, ⟨sent, bus, heard⟩, fits⟩ := continues
  have same : courseAfter strict course c input result = later := by
    simp only [courseAfter, left, ↓reduceIte, ordered, bus, List.drop_left]
    exact heard
  rwa [same]

/-- Configuration messages and answers do not leave the execution of a test case. -/
theorem leaves_false {event : Event} {services : Services}
    (kind : controlEventsTriggers event = some .iutConfigurationExecuted ∨
      controlEventsTriggers event = some .stepExecuted) :
    c.leaves (.event event services) = false := by
  cases event <;> first | rfl | (rcases kind with kind | kind <;> cases kind)

/-- The message sent on leaving a state of the setup has no milestone. -/
theorem setupMessage_unlabelled (c : Coordinator td) :
    ∀ message ∈ [c.setupMessage], (lifecycle strict).label message = none := by
  intro message member
  rw [List.mem_singleton.mp member, setupMessage]
  split <;> exact unlabelled rfl

/-- Opening the tunnels says nothing about a test case. -/
theorem tunnels_unlabelled (ts : TestSuite td) :
    ∀ message ∈ tunnels ts, (lifecycle strict).label message = none := by
  intro message member
  obtain ⟨_, _, _, rfl⟩ := tunnels_mem member
  exact unlabelled rfl

/-- Starting the sniffer says nothing about the course of a test case. -/
theorem sniffing_unlabelled (i : Fin td.size) :
    ∀ message ∈ (sniffingMessages i : List Message), (lifecycle strict).label message = none := by
  intro message member
  rcases sniffingMessages_mem member with ⟨_, _, _, _, rfl⟩ | ⟨_, rfl⟩ <;> exact unlabelled rfl

/-- The announcement of a start is passed over. -/
theorem OnCourse.announceStarted {next : Option String} (fits : c.OnCourse course) :
    Continues false next c course (finalState c.announceStarted) := by
  unfold Coordinator.announceStarted
  cases current : c.testsuite.currentTc with
  | none => exact fits.quiet rfl rfl (.of_bus rfl)
  | some i =>
    refine fits.quiet rfl rfl (.send fun message member => ?_)
    rw [List.mem_singleton.mp member]
    rfl

/-- A computation that goes on after another one. -/
theorem Continues.andThen {α β : Type} {first : EStateM.Result PyException (Coordinator td) α}
    {rest : Coordinator td → EStateM.Result PyException (Coordinator td) β}
    (continues : Continues strict (finalState first).testsuite.getCurrentTestcaseId c course
      (finalState first))
    (further : ∀ state course next, state.OnCourse course →
      Continues strict next state course (finalState (rest state)))
    (current : ∀ state, (finalState (rest state)).testsuite.currentTc = state.testsuite.currentTc) :
    Continues strict (finalState (andThen first rest)).testsuite.getCurrentTestcaseId c course
      (finalState (andThen first rest)) := by
  cases first with
  | error exception state => exact continues
  | ok value state =>
    have same : (finalState (rest state)).testsuite.getCurrentTestcaseId =
        state.testsuite.getCurrentTestcaseId := by
      rw [TestSuite.getCurrentTestcaseId, current state, TestSuite.getCurrentTestcaseId]
    obtain ⟨later, hears, fits⟩ := continues
    rw [andThen_ok, same]
    exact hears.continues (further state later _ fits)

/-- What a test case can have come to anywhere it can have come to while it is executed. -/
theorem Within.executing {state : FsmState} {stage : Option Milestone}
    (within : Within state stage) : Within .waitingForStepExecuted stage := by
  rcases within with fresh | configured | ⟨ready, -⟩ | ⟨step, -⟩
  · exact .inl fresh
  · exact .inr (.inl configured)
  · exact .inr (.inr (.inl ⟨ready, FsmState.noConfusion⟩))
  · exact .inr (.inr (.inr ⟨step, FsmState.noConfusion, FsmState.noConfusion⟩))

/-- A test case begins to be executed with an accepted start. -/
theorem Move.still (move : Move c input result) (calm : c.Calm input) :
    (finalState result).Still := by
  have proceeded (before : Coordinator td) : before.proceed.Still := by
    rcases proceed_state before with state | state <;> simp [Still, state]
  have recorded {before : Coordinator td} (event : Option Event) (still : before.Still) :
      (finalState (before.recordNode event)).Still := by
    rcases (recordNode_recorded (c := before) event).state with same | ⟨-, state⟩
    · simpa [Still, same] using still
    · simp [Still, state]
  cases move with
  | ignored | refused => exact calm.1
  | empty _ _ same _ _ => simpa [Still, same] using calm.1
  | configured _ _ _ => exact ⟨FsmState.noConfusion, FsmState.noConfusion⟩
  | skippedEarly _ _ => exact calm.1
  | recordedEarly _ _ _ =>
    rw [finalState_andThen_ok]
    exact recorded _ calm.1
  | started _ _ _ => exact proceeded _
  | recordedWaiting _ _ =>
    rw [finalState_andThen_ok]
    exact recorded _ calm.1
  | recordedExecuting state _ _ _ _ _ => exact absurd state calm.1.1
  | recordedFinished _ _ =>
    rw [finalState_andThen_ok]
    exact recorded _ ⟨FsmState.noConfusion, FsmState.noConfusion⟩
  | retried state _ _ _ _ => exact absurd state calm.1.2
  | timedOut state =>
    rw [finalState_andThen_ok]
    rcases (announceReady_recorded state).state with same | ⟨-, state⟩
    · simpa [Still, same] using calm.1
    · simp [Still, state]
  | executed waits current _ =>
    have refused := calm.2
    rw [accepts_waiting waits current] at refused
    cases refused
  | answered state _ _ _ _ _ _ _ _ => exact absurd state calm.1.1
  | restarted _ _ => exact ⟨FsmState.noConfusion, FsmState.noConfusion⟩
  | selected _ =>
    exact selectTestcase_rule (fun _ => ⟨FsmState.noConfusion, FsmState.noConfusion⟩)
      (proceeded _)
  | skippedCurrent _ _ _ => exact proceeded _
  | skippedOther _ _ _ | skippedInstead _ _ _ => exact calm.1
  | skippedExecuting state _ _ _ _ _ _ => exact absurd state calm.1.1
  | aborted _ _ => exact proceeded _

/-- **Every move keeps the course**; the strict order, as long as no test case is executed. -/
theorem Move.onCourse (move : Move c input result) (coherent : Coherent c)
    (fits : c.OnCourse course) (calm : strict = true → c.Calm input) :
    (finalState result).OnCourse (courseAfter strict course c input result) := by
  have lax (busy : ¬ c.Calm input) : strict = false := by
    cases strict with
    | false => rfl
    | true => exact absurd (calm rfl) busy
  have recorded (state : Coordinator td) (course : Course String Milestone) (event : Option Event)
      (next : Option String) (fits : state.OnCourse course) :
      Continues strict next state course (finalState (state.recordNode event)) :=
    hears_recordNode fits event
  have unnamed {id : String} (apart : ∀ i, c.testsuite.currentTc = some i → td.id i ≠ id) :
      namesCurrent c.testsuite (some id) = false := by
    cases current : c.testsuite.currentTc with
    | none => simp [namesCurrent, current]
    | some i => simp [namesCurrent, current, apart i current]
  cases move with
  | ignored => exact Continues.after rfl (fits.quiet rfl rfl (.of_bus rfl))
  | refused => exact Continues.after rfl (fits.quiet rfl rfl (.of_bus rfl))
  | empty _ _ _ idle sent =>
    refine Continues.after rfl (fits.idle idle ?_)
    rcases sent with bus | bus
    · exact ⟨_, bus, tunnels_unlabelled _⟩
    · exact .of_bus bus
  | configured _ state skipped =>
    exact Continues.after rfl (fits.idle skipped.currentTc ⟨_, rfl, setupMessage_unlabelled _⟩)
  | @skippedEarly id _ j state found =>
    have nobody := coherent.idle (.inl state)
    have idle : (c.testsuite.skip j).currentTc = none := by
      have other : c.testsuite.currentTc ≠ some j := by simp [nobody]
      rw [TestSuite.skip_currentTc_of_ne other, nobody]
    refine Continues.after ?_ (fits.idle idle ⟨_, rfl, setupMessage_unlabelled _⟩)
    exact unnamed fun i current => by cases nobody.symm.trans current
  | recordedEarly _ _ kind =>
    refine Continues.after (by rw [leaves_false (.inl kind), Bool.and_false]) ?_
    rw [finalState_andThen_ok]
    have opened (next : Option String) :
        Hears strict next c course (c.send [c.setupMessage]) course :=
      .quiet (.send (setupMessage_unlabelled c))
    exact (opened _).continues (recorded _ _ _ _ ⟨fits.ordered, fits.subject, fits.stage⟩)
  | @started services ts _ _ _ =>
    refine Continues.anew rfl fits.ordered ?_
    have opened (next : Option String) (course : Course String Milestone) :
        Hears strict next c course (((c.withTestsuite ts).send (tunnels ts)).send
          [(c.withTestsuite ts).setupMessage]) course :=
      .quiet (Sends.trans ⟨_, rfl, tunnels_unlabelled ts⟩ (.send (setupMessage_unlabelled _)))
    exact (opened _ _).continues (hears_proceed _)
  | recordedWaiting _ kind =>
    refine Continues.after (by rw [leaves_false (.inl kind), Bool.and_false]) ?_
    rw [finalState_andThen_ok]
    exact recorded _ _ _ _ fits
  | @recordedExecuting event services i k step state current _ _ _ kind =>
    obtain rfl := lax fun calm => calm.1.1 state
    refine Continues.after (by rw [leaves_false (.inl kind), Bool.and_false]) ?_
    rw [finalState_andThen_ok]
    have again (next : Option String) :
        Continues false next c course (c.send (c.announceStep i step)) :=
      hears_announceStep step rfl current (by rw [send_state, state]; decide) fits.ordered
        (fits.subject i current) (fits.stage i current)
    obtain ⟨later, hears, fits⟩ := again _
    exact hears.continues (recorded _ _ _ _ fits)
  | recordedFinished state kind =>
    refine Continues.after (by rw [leaves_false (.inl kind), Bool.and_false]) ?_
    rw [finalState_andThen_ok]
    have idle : c.testsuite.currentTc = none := by
      cases coherent with
      | finished _ idle _ _ _ | setup _ idle _ => exact idle
      | waiting wrong _ _ _ => rcases wrong with wrong | wrong <;> cases state.symm.trans wrong
      | executing _ wrong _ _ _ | stuck _ wrong _ _ _ => cases state.symm.trans wrong
    have reported (next : Option String) : Continues strict next c course c.conclude :=
      fits.idle idle ⟨_, rfl, fun message member => by
        rw [List.mem_singleton.mp member]
        exact unlabelled rfl⟩
    obtain ⟨later, hears, fits⟩ := reported _
    exact hears.continues (recorded _ _ _ _ fits)
  | @retried event services i outcome state current _ kind advance =>
    obtain rfl := lax fun calm => calm.1.2 state
    refine Continues.after (by rw [leaves_false (.inl kind), Bool.and_false]) ?_
    rw [finalState_andThen_ok]
    have advanced := advance.hears current fits.ordered (fits.subject i current)
      (fits.stage i current).executing
    exact advanced.andThen (fun state course next fits => recorded state course _ next fits)
      fun state => (recordNode_recorded _).currentTc
  | timedOut state =>
    refine Continues.after (Bool.and_false _) ?_
    rw [finalState_andThen_ok]
    exact hears_announceReady fits state
  | @executed id services i outcome waits current advance =>
    obtain rfl := lax fun calm => by
      have refused := calm.2
      rw [accepts_waiting waits current] at refused
      cases refused
    refine Continues.after (Bool.and_false _) ?_
    rw [finalState_andThen_ok]
    have begun (next : Option String) : Hears false next c course
        ((c.modify i (·.changeState .executing)).send (sniffingMessages i)) course :=
      .quiet ⟨_, rfl, sniffing_unlabelled i⟩
    have advanced := advance.hears current fits.ordered (fits.subject i current)
      (fits.stage i current).executing
    obtain ⟨later, hears, fits⟩ := (begun _).continues advanced
    refine Continues.andThen ⟨later, hears, fits⟩
      (fun state course next fits => fits.announceStarted) fun state => ?_
    obtain ⟨messages, sent, -⟩ := announceStarted_sends state
    rw [sent]
    rfl
  | @answered event services i k step outcome state current _ _ _ kind _ _ advance =>
    obtain rfl := lax fun calm => calm.1.1 state
    refine Continues.after (by rw [leaves_false (.inr kind), Bool.and_false]) ?_
    rw [finalState_andThen_ok]
    have answered (next : Option String) :
        Hears false next c course (c.answered i k step event) course := by
      refine .quiet (.of_bus ?_)
      unfold Coordinator.answered
      split <;> rfl
    refine (answered _).continues (advance.hears ?_ fits.ordered (fits.subject i current)
      (fits.stage i current).executing)
    rw [answered_currentTc]
    exact current
  | @restarted services i _ _ =>
    have left (next : Option String) (course : Course String Milestone) :
        Hears strict next c course (c.modify i (·.reinit)) course := .quiet (.of_bus rfl)
    exact Continues.anew rfl fits.ordered ((left _ _).continues (hears_configure _ _))
  | selected _ =>
    refine Continues.anew rfl fits.ordered ?_
    rw [finalState_ok]
    have left (ts : TestSuite td) (course : Course String Milestone) (next : Option String) :
        Hears strict next c course (c.withTestsuite ts) course := .quiet (.of_bus rfl)
    refine @selectTestcase_rule td (fun after => Continues strict
      after.testsuite.getCurrentTestcaseId c ⟨after.testsuite.getCurrentTestcaseId, none, true⟩
      after) _ _ (fun i => ?_) ?_
    · exact (left _ _ _).continues (hears_configure _ i)
    · exact (left _ _ _).continues (hears_proceed _)
  | @skippedCurrent id services i named _ current same =>
    have names : namesCurrent c.testsuite id = true := by
      cases named <;> simp [same, namesCurrent, current]
    refine Continues.anew (by simp [handled, leaves, names]) fits.ordered ?_
    rw [finalState_ok]
    refine Hears.continues (.quiet ⟨_, rfl, fun message member => ?_⟩) (hears_proceed _)
    split at member
    · rw [List.mem_singleton.mp member]
      exact unlabelled rfl
    · cases member
  | @skippedOther id services j _ found apart =>
    have kept := TestSuite.skip_currentTc_of_ne apart
    refine Continues.after (unnamed fun i current same => apart ?_)
      (fits.quiet kept rfl (.of_bus rfl))
    rw [current, TestDescriptions.find_eq_some.mpr same] at *
    cases found
    rfl
  | @skippedInstead id services i waits unknown current =>
    have idle : (c.testsuite.skip i).currentTc = none := by
      rw [TestSuite.skip_currentTc _ _ fun _ => coherent.unskipped current, if_pos current]
    refine Continues.after (unnamed fun j _ => TestDescriptions.find_eq_none.mp unknown j) ?_
    exact fits.idle idle (.of_bus rfl)
  | @skippedExecuting id services i j k step state current _ _ _ found apart =>
    obtain rfl := lax fun calm => calm.1.1 state
    have other : c.testsuite.currentTc ≠ some j := fun same =>
      apart (Option.some.inj (current.symm.trans same))
    have kept : (c.testsuite.skip j).currentTc = some i := by
      rw [TestSuite.skip_currentTc_of_ne other, current]
    refine Continues.after (unnamed fun i' here same => other ?_) ?_
    · rw [here, ← found, TestDescriptions.find_eq_some.mpr same]
    · rw [finalState_ok]
      exact hears_announceStep step rfl kept
        (by rw [send_state, withTestsuite_state, state]; decide) fits.ordered
        (fits.subject i current) (fits.stage i current)
  | aborted _ _ =>
    refine Continues.anew rfl fits.ordered ?_
    have left (ts : TestSuite td) (course : Course String Milestone) (next : Option String) :
        Hears strict next c course (c.withTestsuite ts) course := .quiet (.of_bus rfl)
    exact (left _ _ _).continues (hears_proceed _)

variable {upper : String → String}

/-- Whatever is handled is in order, but for starts and executions in the strict order. -/
theorem input_onCourse (coherent : Coherent c) (fits : c.OnCourse course)
    (calm : strict = true → c.Calm input) :
    (courseAfter strict course c input (c.handle upper input)).ordered = true := by
  by_cases disorients : Disorients c input
  · obtain ⟨i, handled⟩ := handle_disorienting_eq upper coherent disorients
    rw [handled, courseAfter_quiet]
    · exact fits.ordered
    · exact .of_bus rfl
    · rfl
  · exact ((handle_move coherent disorients).onCourse coherent fits calm).ordered

/-- What was out of order stays so. -/
theorem courseAfter_disordered (wrong : course.ordered = false) :
    (courseAfter strict course c input result).ordered = false := by
  unfold courseAfter
  split <;> exact Protocol.hearAll_disordered wrong

end Moves

section Start

variable {next : Option String} {c between after : Coordinator td} {i : Fin td.size}
  {course middle : Course String Milestone} {services : Services}

/-- Something that is published between two states is out of order. -/
def Disorders (next : Option String) (before : Coordinator td) (course : Course String Milestone)
    (after : Coordinator td) : Prop :=
  ∃ later, Hears true next before course after later ∧ later.ordered = false

/-- What is published afterwards does not bring it in order. -/
theorem Disorders.sends {property : Message → Prop} (disorders : Disorders next c course between)
    (sends : between.Sends property after) : Disorders next c course after := by
  obtain ⟨later, ⟨sent, bus, heard⟩, wrong⟩ := disorders
  obtain ⟨more, further, -⟩ := sends
  refine ⟨_, ⟨sent ++ more, by rw [further, bus, List.append_assoc], rfl⟩, ?_⟩
  rw [Protocol.hearAll_append, heard]
  exact Protocol.hearAll_disordered wrong

/-- Neither does what was published before. -/
theorem Hears.disorders (first : Hears true next c course between middle)
    (second : Disorders next between middle after) : Disorders next c course after := by
  obtain ⟨early, bus, heard⟩ := first
  obtain ⟨later, ⟨late, further, heard'⟩, wrong⟩ := second
  refine ⟨later, ⟨early ++ late, by rw [further, bus, List.append_assoc], ?_⟩, wrong⟩
  rw [Protocol.hearAll_append, heard, heard']

/-- A course that is out of order stays so. -/
theorem Disorders.courseAfter {input : Input}
    {result : EStateM.Result PyException (Coordinator td) Bool}
    (disorders : Disorders (finalState result).testsuite.getCurrentTestcaseId c course
      (finalState result)) (kept : (handled result && c.leaves input) = false) :
    (courseAfter true course c input result).ordered = false := by
  obtain ⟨later, hears, wrong⟩ := disorders
  rw [hears.courseAfter kept]
  exact wrong

/-- Before the start is announced, neither a step nor the end may be. -/
theorem Within.early {state : FsmState} {stage : Option Milestone} (within : Within state stage)
    (waits : state = .waitingForIutConfigurationExecuted ∨ state = .waitingForTestcaseStart) :
    .step ∉ nextMilestones true stage ∧ .finished ∉ nextMilestones true stage := by
  rcases within with rfl | rfl | ⟨rfl, -⟩ | ⟨rfl, configured, started⟩
  · decide
  · decide
  · decide
  · rcases waits with state | state
    · exact absurd state configured
    · exact absurd state started

/-- The first step is announced before the start is, or the end of the test case. -/
theorem Advance.disorders (advance : Advance services c i (.ok () after))
    (early : .step ∉ nextMilestones true course.stage ∧
      .finished ∉ nextMilestones true course.stage) : Disorders next c course after := by
  cases advance with
  | @execute k tc step _ _ executable _ =>
    have announced : ∃ message, (c.fetch i tc).announceStep i step = [message] := by
      unfold announceStep Handler.stepExecuteMessage
      cases kind : step.type <;> simp_all [StepType.isExecutable]
    obtain ⟨message, sent⟩ := announced
    have label := announceStep_labels true (c.fetch i tc) i step message
      (by rw [sent]; exact List.mem_singleton_self message)
    refine ⟨_, ⟨_, rfl, rfl⟩, ?_⟩
    rw [sent]
    exact Protocol.hear_disordered label early.1
  | @complete tc report sent _ _ outcome =>
    have quiet := requests_unlabelled true services c i
      (tc.changeState .readyForAnalysis)
    rw [outcome] at quiet
    have asked : Hears true next c course
        ((c.exhaust i tc).consulted services i (·.reported report) sent) course :=
      .quiet ⟨sent, rfl, quiet⟩
    refine asked.disorders (Disorders.sends ⟨_, ⟨_, rfl, rfl⟩, ?_⟩
      (sends_proceed (fun _ _ => trivial) _))
    rw [Protocol.hearAll_cons]
    exact Protocol.hearAll_disordered (Protocol.hear_disordered rfl early.2)

/-- An end that raises publishes nothing about the test case. -/
theorem Advance.quiet {exception : PyException}
    (advance : Advance services c i (.error exception after)) :
    c.Sends (fun message => (lifecycle true).label message = none) after := by
  cases advance with
  | refuse _ _ _ => exact .of_bus rfl
  | @interrupt tc _ sent _ _ outcome =>
    have quiet := requests_unlabelled true services c i
      (tc.changeState .readyForAnalysis)
    rw [outcome] at quiet
    exact ⟨sent, rfl, quiet⟩

/-- The input starts the current test case, and its first step or its end is announced. -/
def Starts (c : Coordinator td) : Input → Prop
  | .event (.testCaseStart _) services => c.Waiting ∧ ∃ i, c.testsuite.currentTc = some i ∧
      ¬ ((∀ step ∈ (c.testsuite.testcase i).sequence, step.type.isExecutable = false) ∧
        EndRaises services (c.testsuite.testcase i))
  | _ => False

/-- An input that starts a test case is accepted. -/
theorem Starts.accepts {input : Input} (starts : c.Starts input) : c.acceptsStart input = true := by
  cases input with
  | event event services =>
    cases event with
    | testCaseStart id =>
      obtain ⟨waits, i, current, -⟩ := starts
      exact accepts_waiting waits current
    | _ => cases starts
  | abortTestcase | timeout => cases starts

/-- What an accepted start is. -/
theorem acceptsStart_iff {input : Input} :
    c.acceptsStart input = true ↔ ∃ id services i, input = .event (.testCaseStart id) services ∧
      c.Waiting ∧ c.testsuite.currentTc = some i := by
  constructor
  · intro accepted
    cases input with
    | event event services =>
      cases event with
      | testCaseStart id =>
        simp only [acceptsStart, Bool.and_eq_true, Bool.or_eq_true, beq_iff_eq,
          Option.isSome_iff_exists] at accepted
        obtain ⟨waits, i, current⟩ := accepted
        exact ⟨id, services, i, rfl, waits, current⟩
      | _ => cases accepted
    | abortTestcase | timeout => cases accepted
  · rintro ⟨id, services, i, rfl, waits, current⟩
    exact accepts_waiting waits current

variable {upper : String → String} {testsuiteName : String} {input : Input}

/-- A start is out of order exactly when something is announced before it. -/
theorem start_ordered_iff {id : PyString.Attribute} (coherent : Coherent c)
    (fits : c.OnCourse course) (waits : c.Waiting) (current : c.testsuite.currentTc = some i) :
    (courseAfter true course c (.event (.testCaseStart id) services)
      (c.handle upper (.event (.testCaseStart id) services))).ordered = true ↔
      ¬ c.Starts (.event (.testCaseStart id) services) := by
  have configuring := coherent.configuring waits current
  obtain ⟨result, advance, handled⟩ := handle_execution upper services id waits current configuring
  have starts : c.Starts (.event (.testCaseStart id) services) ↔
      ¬ ((∀ step ∈ (c.testsuite.testcase i).sequence, step.type.isExecutable = false) ∧
        EndRaises services (c.testsuite.testcase i)) := by
    simp only [Starts, waits, current, Option.some.injEq, exists_eq_left', true_and]
  have begun : c.Sends (fun message => (lifecycle true).label message = none)
      ((c.modify i (·.changeState .executing)).send (sniffingMessages i)) :=
    ⟨_, rfl, sniffing_unlabelled i⟩
  rw [starts, ← executed_returns configuring advance, handled]
  cases result with
  | error exception after =>
    refine iff_of_true ?_ (by simp)
    rw [courseAfter_quiet]
    · exact fits.ordered
    · exact begun.trans advance.quiet
    · exact Bool.and_false _
  | ok value after =>
    obtain ⟨messages, announced, -⟩ := announceStarted_sends after
    have started : after.Sends (fun _ => True) (finalState after.announceStarted) := by
      rw [announced]
      exact .send fun _ _ => trivial
    have first (next : Option String) : Disorders next _ course after :=
      advance.disorders ((fits.stage i current).early waits)
    refine iff_of_false ?_ fun spared => spared ⟨after, rfl⟩
    rw [Bool.not_eq_true]
    refine Disorders.courseAfter ?_ (Bool.and_false _)
    rw [finalState_andThen_ok, andThen_ok]
    exact ((Hears.quiet begun).disorders (first _)).sends started

variable (upper) in
/-- Other inputs are in order, and so are starts unless something is announced before them. -/
theorem input_ordered_iff (coherent : Coherent c) (fits : c.OnCourse course) (still : c.Still) :
    (courseAfter true course c input (c.handle upper input)).ordered = true ↔
      ¬ c.Starts input := by
  by_cases accepted : c.acceptsStart input = true
  · obtain ⟨id, services, i, rfl, waits, current⟩ := acceptsStart_iff.mp accepted
    exact start_ordered_iff coherent fits waits current
  · refine iff_of_true ?_ fun starts => accepted starts.accepts
    exact (input_onCourse coherent fits fun _ => ⟨still, Bool.eq_false_iff.mpr accepted⟩)

end Start

/-- What an observer of a session has heard. -/
structure Overheard where
  /-- The messages in their order. -/
  documented : Course String Milestone := ⟨none, none, true⟩
  /-- The messages but for the announcements of starts. -/
  rest : Course String Milestone := ⟨none, none, true⟩
  /-- A start was accepted. -/
  started : Bool := false
  deriving DecidableEq

/-- Note what is heard while an input is handled. -/
def overhear (upper : String → String) (noted : Overheard) (c : Coordinator td) (input : Input) :
    Overheard where
  documented := courseAfter true noted.documented c input (c.handle upper input)
  rest := courseAfter false noted.rest c input (c.handle upper input)
  started := noted.started || c.acceptsStart input

/-- What was heard is in order until a start is accepted, and the rest stays in order. -/
structure Overheard.Fits (noted : Overheard) (c : Coordinator td) : Prop where
  /-- The rest is in order. -/
  rest : c.OnCourse noted.rest
  /-- Without a start everything is. -/
  documented : noted.started = false → c.OnCourse noted.documented ∧ c.Still
  /-- A start is announced too late. -/
  disordered : noted.started = true → noted.documented.ordered = false

section Session

variable {upper : String → String} {testsuiteName : String} {c : Coordinator td} {input : Input}
  {noted : Overheard}

/-- A survived start announces something before it. -/
theorem starts_of_survives (coherent : Coherent c) (survives : Survives upper c input)
    (accepted : c.acceptsStart input = true) : c.Starts input := by
  obtain ⟨id, services, i, rfl, waits, current⟩ := acceptsStart_iff.mp accepted
  refine ⟨waits, i, current, fun ends => survives_iff.mp survives ?_⟩
  refine (testCaseStart_uncaught coherent).mpr ⟨waits, fun j here => ?_⟩
  obtain rfl : i = j := Option.some.inj (current.symm.trans here)
  exact ⟨ends.1, .inl ends.2⟩

/-- Every survived input keeps what is noted. -/
theorem Overheard.Fits.step (fits : noted.Fits c) (coherent : Coherent c)
    (survives : Survives upper c input) :
    (overhear upper noted c input).Fits (next upper c input) := by
  have move : Move c input (c.handle upper input) :=
    handle_move coherent (oriented coherent (.inr survives))
  refine ⟨move.onCourse coherent fits.rest Bool.noConfusion, fun fresh => ?_, fun begun => ?_⟩
  · obtain ⟨earlier, refused⟩ := Bool.or_eq_false_iff.mp fresh
    obtain ⟨documented, still⟩ := fits.documented earlier
    exact ⟨move.onCourse coherent documented fun _ => ⟨still, refused⟩, move.still ⟨still, refused⟩⟩
  · cases earlier : noted.started with
    | true => exact courseAfter_disordered (fits.disordered earlier)
    | false =>
      have accepted : c.acceptsStart input = true := by
        simpa [overhear, earlier] using begun
      obtain ⟨documented, still⟩ := fits.documented earlier
      have late := (input_ordered_iff upper coherent documented still).not.mpr
        (not_not.mpr (starts_of_survives coherent survives accepted))
      exact Bool.eq_false_iff.mpr late

/-- In every run the coordinator is one of a session, and what is noted fits. -/
theorem overheard_run {pair : Coordinator td × Overheard}
    (reached : Runs.Observed (next upper) (Survives upper) (overhear upper)
      (initial upper td testsuiteName, {}) pair) : Coherent pair.1 ∧ pair.2.Fits pair.1 := by
  have coherent {state : Coordinator td} (reached : Reached upper testsuiteName (Survives upper)
      state) : Coherent state := reached_coherent (fun _ _ survives => .inr survives) reached
  have idle : (initial upper td testsuiteName).testsuite.currentTc = none := rfl
  have quiet : (initial upper td testsuiteName).OnCourse ⟨none, none, true⟩ :=
    ⟨rfl, fun i current => (by cases idle.symm.trans current), fun _ _ => .inl rfl⟩
  refine ⟨coherent reached.unobserved, ?_⟩
  induction reached with
  | init =>
    exact ⟨quiet, fun _ => ⟨quiet, FsmState.noConfusion, FsmState.noConfusion⟩, Bool.noConfusion⟩
  | step earlier survives ih => exact ih.step (coherent earlier.unobserved) survives

/-- **The messages about the test cases are in order, and name the right one, exactly until a start
is accepted** whose test case announces its first step or its end; and all but the announcements of
starts are always in order. -/
theorem lifecycle_ordered_iff (upper : String → String) (td : TestDescriptions)
    (testsuiteName : String) (pair : Coordinator td × Overheard)
    (reached : Runs.Observed (next upper) (Survives upper) (overhear upper)
      (initial upper td testsuiteName, {}) pair) (input : Input) :
    ((overhear upper pair.2 pair.1 input).documented.ordered = true ↔
      pair.2.started = false ∧ ¬ pair.1.Starts input) ∧
      (overhear upper pair.2 pair.1 input).rest.ordered = true := by
  obtain ⟨coherent, fits⟩ := overheard_run reached
  refine ⟨?_, input_onCourse coherent fits.rest Bool.noConfusion⟩
  cases earlier : pair.2.started with
  | true =>
    have wrong : (overhear upper pair.2 pair.1 input).documented.ordered = false :=
      courseAfter_disordered (fits.disordered earlier)
    simp [wrong]
  | false =>
    obtain ⟨documented, still⟩ := fits.documented earlier
    rw [overhear, input_ordered_iff upper coherent documented still]
    simp

section Small

/-- The small suite after some inputs, with what was heard. -/
def overhearing (inputs : List Input) : Coordinator smallSuite × Overheard :=
  inputs.foldl (Runs.observed (next id) (overhear id)) (initial id smallSuite "coap", {})

/-- Inputs that are survived. -/
theorem overhearing_reached {inputs : List Input}
    (survived : Runs.AllAllowed (Runs.observed (next id) (overhear id))
      (fun pair => Survives id pair.1) (initial id smallSuite "coap", {}) inputs) :
    Runs.Observed (next id) (Survives id) (overhear id) (initial id smallSuite "coap", {})
      (overhearing inputs) := survived.reachable

/-- The first test case is configured, and ready after the timeout; it is skipped. -/
theorem lifecycle_ordered_small :
    (overhear id (overhearing [.event .testSuiteStart noServices, .timeout]).2
      (overhearing [.event .testSuiteStart noServices, .timeout]).1
      (.event (.testCaseSkip (some none)) noServices)).documented.ordered = true := by
  refine (lifecycle_ordered_iff id smallSuite "coap" _ (overhearing_reached (by decide +kernel))
    _).1.mpr ⟨by decide +kernel, fun starts => ?_⟩
  cases starts

/-- The first step of a test case is announced before its start is. -/
theorem step_before_start :
    Runs.Observed (next id) (Survives id) (overhear id) (initial id smallSuite "coap", {})
        (overhearing [.event .testSuiteStart noServices, .event (.testCaseStart none) noServices]) ∧
      (overhearing [.event .testSuiteStart noServices,
        .event (.testCaseStart none) noServices]).2.documented.ordered = false ∧
      (overhearing [.event .testSuiteStart noServices,
        .event (.testCaseStart none) noServices]).1.bus.filterMap Message.milestone =
        [(.configuration, "TD_COAP_CORE_01"), (.step, "TD_COAP_CORE_01"),
          (.started, "TD_COAP_CORE_01")] :=
  ⟨overhearing_reached (by decide +kernel), by decide +kernel, by decide +kernel⟩

end Small

end Session

end Coordinator

end Ioppytest
