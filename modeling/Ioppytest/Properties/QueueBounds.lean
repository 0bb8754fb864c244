import Ioppytest.UiAdaptor.BoundedQueues
import Ioppytest.UiAdaptor.Books

/-!
# The queues of the main loop

In every round of the loop the main thread empties the queues that it fills: never more than two
displays, one request and one message for the testing tool wait. With bounds that allow as much it
never blocks.
-/

namespace Ioppytest.UiAdaptor

open Agreement Raising Runs

/-- No more messages wait than this. -/
structure Adaptor.Fits (adaptor : Adaptor) (limits : Limits) : Prop where
  display : adaptor.queueMessagesDisplayToUi.length ≤ limits.display
  request : adaptor.queueMessagesRequestToUi.length ≤ limits.request
  chained : adaptor.queueMessagesToTt.length ≤ limits.chained

/-- More may wait. -/
theorem Adaptor.Fits.mono {adaptor : Adaptor} {limits more : Limits} (fits : adaptor.Fits limits)
    (display : limits.display ≤ more.display) (request : limits.request ≤ more.request)
    (chained : limits.chained ≤ more.chained) : adaptor.Fits more :=
  ⟨fits.display.trans display, fits.request.trans request, fits.chained.trans chained⟩

namespace BlockingThread

variable {limits : Limits} {setup : Setup} {circumstances : Circumstances} {adaptor : Adaptor}
  {display request chained : Nat}

/-- Bounds make no difference to a computation, and no more messages than this wait after it. -/
abbrev Succeeds (bounded : BlockingThread Unit) (body : MainThread Unit) (adaptor : Adaptor)
    (after : Limits) : Prop :=
  Agrees Stop.raised bounded body adaptor (·.Fits after)

/-- There is room for a message. -/
theorem put_succeeds {limit : Nat} {waiting : Adaptor → Nat} {add : Adaptor → Adaptor}
    {after : Limits} (room : waiting adaptor < limit) (fits : (add adaptor).Fits after) :
    Succeeds (put limit waiting add) (modify add) adaptor after where
  same := by
    simp only [put, EStateM.run_bind, EStateM.run_get, if_pos room]
    rfl
  ends := fits

/-- There is room for a display. -/
theorem putDisplay_succeeds (fits : adaptor.Fits ⟨display, request, chained⟩)
    (room : display < limits.display) (message : UiMessage) :
    Succeeds (putDisplay limits message) (modify (·.putDisplay message)) adaptor
      ⟨display + 1, request, chained⟩ := by
  refine put_succeeds (Nat.lt_of_le_of_lt fits.display room) ⟨?_, fits.request, fits.chained⟩
  have before := fits.display
  simpa [Adaptor.putDisplay] using before

/-- There is room for a request. -/
theorem putRequest_succeeds (fits : adaptor.Fits ⟨display, request, chained⟩)
    (room : request < limits.request) (message : UiMessage) :
    Succeeds (putRequest limits message) (modify (·.putRequest message)) adaptor
      ⟨display, request + 1, chained⟩ := by
  refine put_succeeds (Nat.lt_of_le_of_lt fits.request room) ⟨fits.display, ?_, fits.chained⟩
  have before := fits.request
  simpa [Adaptor.putRequest] using before

/-- There is room for a message for the testing tool. -/
theorem putChained_succeeds (fits : adaptor.Fits ⟨display, request, chained⟩)
    (room : chained < limits.chained) (message : ChainedMessage) :
    Succeeds (putChained limits message) (modify (·.putChained message)) adaptor
      ⟨display, request, chained + 1⟩ := by
  refine put_succeeds (Nat.lt_of_le_of_lt fits.chained room) ⟨fits.display, fits.request, ?_⟩
  have before := fits.chained
  simpa [Adaptor.putChained] using before

/-- Echoing a message puts one display at most. -/
theorem echoMessage_succeeds (fits : adaptor.Fits ⟨display, request, chained⟩)
    (room : display < limits.display) (message : TtMessage) :
    Succeeds (echoMessage limits circumstances message)
      (MainThread.echoMessage circumstances message) adaptor ⟨display + 1, request, chained⟩ := by
  have before : adaptor.Fits ⟨display + 1, request, chained⟩ := fits.mono
    (Nat.le_succ _) le_rfl le_rfl
  unfold echoMessage MainThread.echoMessage
  split
  · refine .lift before fun shown => ?_
    cases shown with
    | none => exact agrees_pure before
    | some uiDisplayMessage =>
      exact .get (.lift before fun addressed => putDisplay_succeeds fits room addressed)
  · exact agrees_pure before

/-- Requesting input puts one request at most. -/
theorem requestInput_succeeds (fits : adaptor.Fits ⟨display, request, chained⟩)
    (room : request < limits.request) (message : TtMessage) :
    Succeeds (requestInput limits setup circumstances message)
      (MainThread.requestInput setup circumstances message) adaptor
      ⟨display, request + 1, chained⟩ := by
  have before : adaptor.Fits ⟨display, request + 1, chained⟩ := fits.mono
    le_rfl (Nat.le_succ _) le_rfl
  unfold requestInput MainThread.requestInput
  refine .get (.lift before fun asked => ?_)
  cases asked with
  | none => exact agrees_pure before
  | some uiRequestMessage =>
    refine .get (.lift before fun addressed => ?_)
    refine (putRequest_succeeds fits room addressed).seq (fun _ fits => fits) fun state fits => ?_
    exact .expect fits fun corrId => ⟨rfl, fits.display, fits.request, fits.chained⟩

/-- A message of the testing tool leads to one display and one request at most. -/
theorem processMessageFromTestingTool_succeeds (fits : adaptor.Fits ⟨display, request, chained⟩)
    (display_room : display < limits.display) (request_room : request < limits.request)
    (message : TtMessage) :
    Succeeds (processMessageFromTestingTool limits setup circumstances message)
      (MainThread.processMessageFromTestingTool setup circumstances message) adaptor
      ⟨display + 1, request + 1, chained⟩ := by
  have updated : ({ adaptor with translator := adaptor.translator.updateState message } :
      Adaptor).Fits ⟨display, request, chained⟩ := ⟨fits.display, fits.request, fits.chained⟩
  unfold processMessageFromTestingTool MainThread.processMessageFromTestingTool
  refine .changed ((echoMessage_succeeds updated display_room message).seq ?_ ?_)
  · exact fun state fits => fits.mono le_rfl (Nat.le_succ _) le_rfl
  · exact fun state fits => requestInput_succeeds fits request_room message

/-- A reply leads to one display and one message for the testing tool at most. -/
theorem processMessageFromUi_succeeds (fits : adaptor.Fits ⟨display, request, chained⟩)
    (display_room : display < limits.display) (chained_room : chained < limits.chained)
    (reply : UiReply) :
    Succeeds (processMessageFromUi limits setup circumstances reply)
      (MainThread.processMessageFromUi setup circumstances reply) adaptor
      ⟨display + 1, request, chained + 1⟩ := by
  have more (state : Adaptor) (fits : state.Fits ⟨display + 1, request, chained⟩) :
      state.Fits ⟨display + 1, request, chained + 1⟩ := fits.mono le_rfl le_rfl (Nat.le_succ _)
  unfold processMessageFromUi MainThread.processMessageFromUi
  refine .expect (more _ (fits.mono (Nat.le_succ _) le_rfl le_rfl)) fun fields => ?_
  refine (putDisplay_succeeds fits display_room _).seq more fun state fits => .get ?_
  split
  · have kept (translator : Translator) : ({ state with translator } : Adaptor).Fits
        ⟨display + 1, request, chained⟩ := ⟨fits.display, fits.request, fits.chained⟩
    apply Agrees.computed
    rw [MainThread.run_call]
    cases (Translator.translateUiToTtMessage setup reply).run state.translator with
    | error exception translator => exact more _ (kept translator)
    | ok response translator =>
      cases response with
      | none => exact agrees_pure (more _ (kept translator))
      | some responseToTt =>
        exact putChained_succeeds (kept translator) chained_room responseToTt
  · exact agrees_pure (more state fits)

end BlockingThread

/-- How many messages can wait before a part of the loop. -/
def Phase.waiting : Phase → Limits
  | .testingTool => ⟨1, 0, 0⟩
  | .displays => ⟨2, 1, 0⟩
  | .request => ⟨0, 1, 0⟩
  | .reply => ⟨0, 0, 0⟩
  | .chained => ⟨1, 0, 1⟩
  | .newUsers => ⟨1, 0, 0⟩
  | .stopped => ⟨2, 1, 1⟩

namespace Adaptor

variable {limits : Limits} {setup : Setup} {circumstances : Circumstances} {adaptor : Adaptor}

/-- The most that waits at any time. -/
def most : Limits := ⟨2, 1, 1⟩

/-- No more waits than can before the part of the loop that is next. -/
def Drained (adaptor : Adaptor) : Prop := adaptor.Fits adaptor.phase.waiting

/-- Two displays, a request and a message for the testing tool are the most that waits. -/
theorem Drained.most (drained : adaptor.Drained) : adaptor.Fits most := by
  unfold Drained at drained
  cases phase : adaptor.phase <;> rw [phase] at drained <;>
    exact drained.mono (by decide) (by decide) (by decide)

/-- The part of the loop that is next may find this much. -/
theorem enter_drained {phase : Phase} (fits : adaptor.Fits phase.waiting) :
    (adaptor.enter phase).Drained :=
  ⟨fits.display, fits.request, fits.chained⟩

/-- After a part of the loop no more waits than can before the next one, or at any time if it raised. -/
theorem ending_drained {result : EStateM.Result PyException Adaptor Unit} {phase : Phase}
    (fits : (finalState result).Fits phase.waiting)
    (least : ∀ state : Adaptor, state.Fits phase.waiting → state.Fits Adaptor.most) :
    (ending result phase).Drained := by
  cases result with
  | ok value state => exact enter_drained fits
  | error exception state => exact enter_drained (least state fits)

/-- A part of the loop that succeeds does not block. -/
theorem endingWithin_drained {bounded : BlockingThread Unit} {body : MainThread Unit}
    {phase : Phase} (succeeds : BlockingThread.Succeeds bounded body adaptor phase.waiting)
    (least : ∀ state : Adaptor, state.Fits phase.waiting → state.Fits Adaptor.most) :
    endingWithin (bounded.run adaptor) phase = some (ending (body.run adaptor) phase) ∧
      (ending (body.run adaptor) phase).Drained := by
  refine ⟨?_, ending_drained succeeds.ends least⟩
  rw [succeeds.same]
  cases body.run adaptor <;> rfl

/-- Publishing a request takes nothing from the queues and puts nothing into them. -/
theorem publishUiRequest_fits {after : Limits} (fits : adaptor.Fits after) (request : UiMessage) :
    (finalState ((MainThread.publishUiRequest setup request).run adaptor)).Fits after := by
  unfold MainThread.publishUiRequest
  simp only [EStateM.run_bind, EStateM.run_get]
  cases Publisher.waitingDisplays adaptor.mapping setup.library request with
  | error exception => exact fits
  | ok displays => exact ⟨fits.display, fits.request, fits.chained⟩

/-- One message less waits after one was taken. -/
theorem waits_less {α : Type} {queue rest : List α} {message : α} {most : Nat}
    (first : queue = message :: rest) (fits : queue.length ≤ most + 1) : rest.length ≤ most := by
  rw [first, List.length_cons] at fits
  exact Nat.le_of_succ_le_succ fits

/-- With room for the most that waits, a part of the loop does not block. -/
theorem proceedWithin_drained (display : most.display ≤ limits.display)
    (request : most.request ≤ limits.request) (chained : most.chained ≤ limits.chained)
    (drained : adaptor.Drained) :
    adaptor.proceedWithin limits setup circumstances = some (adaptor.proceed setup circumstances) ∧
      (adaptor.proceed setup circumstances).Drained := by
  have anyway := drained.most
  unfold Drained at drained
  unfold proceedWithin proceed
  cases phase : adaptor.phase with
  | testingTool =>
    rw [phase] at drained
    cases adaptor.queueMessagesFromTt with
    | nil => exact ⟨rfl, enter_drained (drained.mono (by decide) (by decide) (by decide))⟩
    | cons message rest =>
      have succeeds := @BlockingThread.processMessageFromTestingTool_succeeds limits setup
        circumstances { adaptor with queueMessagesFromTt := rest, phase := .testingTool } 1 0 0
        ⟨drained.display, drained.request, drained.chained⟩ display request message
      exact endingWithin_drained succeeds fun _ fits => fits.mono le_rfl le_rfl (by decide)
  | displays =>
    rw [phase] at drained
    refine ⟨rfl, ?_⟩
    cases waiting : adaptor.queueMessagesDisplayToUi with
    | nil =>
      have none_left : adaptor.Fits Phase.request.waiting :=
        ⟨by simp [waiting], drained.request, drained.chained⟩
      exact enter_drained none_left
    | cons message rest =>
      have fewer : rest.length ≤ 1 := waits_less waiting drained.display
      exact ⟨Nat.le_succ_of_le fewer, drained.request, drained.chained⟩
  | request =>
    rw [phase] at drained
    refine ⟨rfl, ?_⟩
    cases waiting : adaptor.queueMessagesRequestToUi with
    | nil =>
      have none_left : adaptor.Fits Phase.reply.waiting :=
        ⟨drained.display, by simp [waiting], drained.chained⟩
      exact enter_drained none_left
    | cons message rest =>
      have none_left : rest.length ≤ 0 := waits_less waiting drained.request
      have published := @publishUiRequest_fits setup
        { adaptor with queueMessagesRequestToUi := rest, phase := .request } Phase.reply.waiting
        ⟨drained.display, none_left, drained.chained⟩ message
      exact ending_drained published fun _ fits =>
        fits.mono (by decide) (by decide) (by decide)
  | reply =>
    rw [phase] at drained
    cases adaptor.queueMessagesFromUi with
    | nil => exact ⟨rfl, enter_drained (drained.mono (by decide) (by decide) (by decide))⟩
    | cons reply rest =>
      have succeeds := @BlockingThread.processMessageFromUi_succeeds limits setup circumstances
        { adaptor with queueMessagesFromUi := rest, phase := .reply } 0 0 0
        ⟨drained.display, drained.request, drained.chained⟩ (Nat.lt_of_succ_lt display) chained reply
      exact endingWithin_drained succeeds fun _ fits => fits.mono (by decide) (by decide) le_rfl
  | chained =>
    rw [phase] at drained
    refine ⟨rfl, ?_⟩
    cases waiting : adaptor.queueMessagesToTt with
    | nil =>
      have none_left : adaptor.Fits Phase.newUsers.waiting :=
        ⟨drained.display, drained.request, by simp [waiting]⟩
      exact enter_drained none_left
    | cons message rest =>
      have none_left : rest.length ≤ 0 := waits_less waiting drained.chained
      exact ⟨drained.display, drained.request, Nat.le_succ_of_le none_left⟩
  | newUsers =>
    rw [phase] at drained
    refine ⟨rfl, ?_⟩
    cases circumstances.newUsers with
    | error exception => exact enter_drained anyway
    | ok displays => exact ⟨drained.display, drained.request, drained.chained⟩
  | stopped => exact ⟨rfl, drained⟩

/-- With room for the most that waits, no action blocks. -/
theorem nextWithin_drained (display : most.display ≤ limits.display)
    (request : most.request ≤ limits.request) (chained : most.chained ≤ limits.chained)
    (drained : adaptor.Drained) (action : Action) :
    adaptor.nextWithin limits setup action = some (adaptor.next setup action) ∧
      (adaptor.next setup action).Drained := by
  cases action with
  | proceed circumstances => exact proceedWithin_drained display request chained drained
  | fromTt message =>
    refine ⟨rfl, ?_⟩
    simp only [next]
    split
    · exact ⟨drained.display, drained.request, drained.chained⟩
    · exact drained
  | fromUi reply =>
    refine ⟨rfl, ?_⟩
    simp only [next]
    split
    · exact ⟨drained.display, drained.request, drained.chained⟩
    · exact drained
  | interrupt => exact ⟨rfl, enter_drained drained.most⟩

/-- **The main loop never blocks on its own queues**, whatever arrives when: with room for two
displays, one request and one message for the testing tool it does what it does with the queues as
they are constructed, and no more than these ever wait. -/
theorem never_blocks (setup : Setup) (mapping : RoleMapping) (waiting : List TtMessage)
    (actions : List Action) :
    ∃ adaptor : Adaptor,
      actions.foldlM (nextWithin .constructed setup) (initial mapping waiting) = some adaptor ∧
      actions.foldlM (nextWithin most setup) (initial mapping waiting) = some adaptor ∧
      adaptor.queueMessagesRequestToUi.length ≤ 1 ∧ adaptor.queueMessagesToTt.length ≤ 1 ∧
      adaptor.queueMessagesDisplayToUi.length ≤ 2 := by
  have drained : (initial mapping waiting).Drained :=
    ⟨Nat.zero_le _, Nat.zero_le _, Nat.zero_le _⟩
  have constructed := @foldlM_total _ _ (next setup) _ Drained (nextWithin .constructed setup)
    (fun _ action drained => nextWithin_drained (by decide) (by decide) (by decide) drained action)
    drained actions
  have tight := @foldlM_total _ _ (next setup) _ Drained (nextWithin most setup)
    (fun _ action drained => nextWithin_drained le_rfl le_rfl le_rfl drained action) drained actions
  have fits := constructed.2.most
  exact ⟨_, constructed.1, tight.1, fits.request, fits.chained, fits.display⟩

/-- Without room for a display the main thread blocks when a user replies. -/
example :
    let turn : Action := .proceed ⟨.ok none, "", "", .ok []⟩
    ([turn, turn, turn, .fromUi ⟨none, some (some [])⟩, turn].foldlM (nextWithin ⟨0, 1, 1⟩ .plain)
      (initial .empty [])).isNone = true := by
  decide +kernel

end Adaptor

end Ioppytest.UiAdaptor
