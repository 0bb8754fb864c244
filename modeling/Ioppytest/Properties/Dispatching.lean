import Ioppytest.Lib.Framing
import Ioppytest.UiAdaptor.Desk

/-!
# The main loop does what a clerk does

The handlers of the main loop read the translator and the mapping of roles, and add to the queues; what
is in the queues makes no difference to them. So the main loop, with its queues and whatever its
listener threads do meanwhile, hands out what a clerk does who finishes one thing before the next one.
-/

namespace Ioppytest.UiAdaptor

open Framing Raising Runs

/-- What waits in the queues of an adaptor, and has been published, comes before what another one
adds. -/
def Adaptor.before (adaptor added : Adaptor) : Adaptor :=
  { adaptor with
    translator := added.translator
    mapping := added.mapping
    queueMessagesDisplayToUi := adaptor.queueMessagesDisplayToUi ++ added.queueMessagesDisplayToUi
    queueMessagesRequestToUi := adaptor.queueMessagesRequestToUi ++ added.queueMessagesRequestToUi
    queueMessagesToTt := adaptor.queueMessagesToTt ++ added.queueMessagesToTt
    bus := adaptor.bus ++ added.bus }

namespace MainThread

variable {setup : Setup} {circumstances : Circumstances} {adaptor added : Adaptor}

/-- A handler does the same with more in the queues. -/
abbrev Adds (adaptor added : Adaptor) (body : MainThread Unit) : Prop :=
  Framed adaptor.before body body added

/-- A display is added at the end. -/
theorem putDisplay_adds (message : UiMessage) :
    Adds adaptor added (modify (·.putDisplay message)) :=
  framed_modify (by simp [Adaptor.before, Adaptor.putDisplay])

/-- A request is added at the end. -/
theorem putRequest_adds (message : UiMessage) :
    Adds adaptor added (modify (·.putRequest message)) :=
  framed_modify (by simp [Adaptor.before, Adaptor.putRequest])

/-- A message for the testing tool is added at the end. -/
theorem putChained_adds (message : ChainedMessage) :
    Adds adaptor added (modify (·.putChained message)) :=
  framed_modify (by simp [Adaptor.before, Adaptor.putChained])

/-- A method of the translator sees nothing of the queues. -/
theorem call_framed {α : Type} (method : Translation α) :
    Framed adaptor.before (call method) (call method) added := by
  have same : (adaptor.before added).translator = added.translator := rfl
  unfold Framed
  rw [run_call, run_call, same]
  cases method.run added.translator <;> rfl

/-- Echoing a message. -/
theorem echoMessage_adds (message : TtMessage) :
    Adds adaptor added (echoMessage circumstances message) := by
  unfold echoMessage
  split
  · refine (framed_lift _).bind fun shown state => ?_
    cases shown with
    | none => exact framed_pure ()
    | some uiDisplayMessage =>
      exact .get ((framed_lift _).bind fun addressed state => putDisplay_adds addressed)
  · exact framed_pure ()

/-- Requesting input. -/
theorem requestInput_adds (message : TtMessage) :
    Adds adaptor added (requestInput setup circumstances message) := by
  unfold requestInput
  refine .get ((framed_lift _).bind fun asked state => ?_)
  cases asked with
  | none => exact framed_pure ()
  | some uiRequestMessage =>
    refine .get ((framed_lift _).bind fun addressed state => ?_)
    refine (putRequest_adds addressed).bind fun _ state => ?_
    exact (framed_expect _ _).bind fun corrId state => framed_modify rfl

/-- Handling a message of the testing tool. -/
theorem processMessageFromTestingTool_adds (message : TtMessage) :
    Adds adaptor added (processMessageFromTestingTool setup circumstances message) := by
  unfold processMessageFromTestingTool
  refine Framed.bind (framed_modify ?_) fun _ state => ?_
  · rfl
  · exact (echoMessage_adds message).bind fun _ state => requestInput_adds message

/-- Handling a reply. -/
theorem processMessageFromUi_adds (reply : UiReply) :
    Adds adaptor added (processMessageFromUi setup circumstances reply) := by
  unfold processMessageFromUi
  refine (framed_expect _ _).bind fun fields state => ?_
  refine (putDisplay_adds _).bind fun _ state => .get ?_
  change Framed adaptor.before (if state.translator.isPendingResponse reply then _ else _) _ state
  split
  · refine (call_framed _).bind fun response state => ?_
    cases response with
    | none => exact framed_pure ()
    | some responseToTt => exact putChained_adds responseToTt
  · exact framed_pure ()

end MainThread

/-- Handling anything. -/
theorem Task.body_adds (setup : Setup) (adaptor added : Adaptor) (task : Task) :
    MainThread.Adds adaptor added (task.body setup) := by
  cases task with
  | message circumstances received =>
    exact MainThread.processMessageFromTestingTool_adds received
  | reply circumstances received => exact MainThread.processMessageFromUi_adds received

/-- What no handler touches. -/
def Adaptor.untouched (adaptor : Adaptor) : RoleMapping × List Publication :=
  (adaptor.mapping, adaptor.bus)

/-- A method of the translator touches nothing else. -/
theorem MainThread.call_leaves {α : Type} (method : Translation α) :
    Leaves Adaptor.untouched (call method) := by
  intro adaptor
  rw [run_call]
  cases method.run adaptor.translator <;> rfl

/-- Handling anything leaves the mapping of roles as it is, and publishes nothing. -/
theorem Task.body_leaves (setup : Setup) (task : Task) :
    Leaves Adaptor.untouched (task.body setup) := by
  cases task with
  | message circumstances received =>
    refine .bind (leaves_modify fun _ => rfl) fun _ => .bind ?_ fun _ => ?_
    · unfold MainThread.echoMessage
      split
      · refine (leaves_lift _).bind fun shown => ?_
        cases shown with
        | none => exact leaves_pure ()
        | some uiDisplayMessage =>
          refine leaves_get.bind fun state => (leaves_lift _).bind fun addressed => ?_
          exact leaves_modify fun _ => rfl
      · exact leaves_pure ()
    · unfold MainThread.requestInput
      refine leaves_get.bind fun state => (leaves_lift _).bind fun asked => ?_
      cases asked with
      | none => exact leaves_pure ()
      | some uiRequestMessage =>
        refine leaves_get.bind fun state => (leaves_lift _).bind fun addressed => ?_
        refine .bind (leaves_modify fun _ => rfl) fun _ => ?_
        exact (leaves_expect _ _).bind fun corrId => leaves_modify fun _ => rfl
  | reply circumstances received =>
    refine .bind (leaves_expect _ _) fun _ => .bind (leaves_modify fun _ => rfl) fun _ => ?_
    refine leaves_get.bind fun state => ?_
    split
    · refine (MainThread.call_leaves _).bind fun response => ?_
      cases response with
      | none => exact leaves_pure ()
      | some responseToTt => exact leaves_modify fun _ => rfl
    · exact leaves_pure ()

namespace Adaptor

variable {setup : Setup} {mapping : RoleMapping} {waiting : List TtMessage} {adaptor : Adaptor}
  {logbook : Logbook}

/-- An adaptor in which a task is handled does what a clerk does with the same translator. -/
theorem run_body {desk : Desk} (translator : adaptor.translator = desk.translator) (task : Task) :
    (task.body setup).run adaptor =
      within adaptor.before (desk.result setup adaptor.mapping task) := by
  have empty : adaptor.before (Desk.seat adaptor.mapping desk.translator) = adaptor := by
    simp [before, Desk.seat, ← translator]
  have same := task.body_adds setup adaptor (Desk.seat adaptor.mapping desk.translator)
  unfold MainThread.Adds Framed at same
  rwa [empty] at same

/-- The main loop has done what a clerk does who has handled the same things, and nothing was lost on
the way, came twice or came in another order. -/
structure Follows (setup : Setup) (mapping : RoleMapping) (waiting : List TtMessage)
    (adaptor : Adaptor) (logbook : Logbook) : Prop where
  /-- The mapping of roles is as it was at the start. -/
  roles : adaptor.mapping = mapping
  /-- The translator is the one of the clerk. -/
  translator : adaptor.translator = (Desk.after setup mapping logbook.tasks).translator
  /-- Messages of the testing tool are handled in the order in which they were received. -/
  messages : logbook.tasks.filterMap Task.message? ++ adaptor.queueMessagesFromTt =
    waiting ++ logbook.messages
  /-- Replies are handled in the order in which they were received. -/
  replies : logbook.tasks.filterMap Task.reply? ++ adaptor.queueMessagesFromUi = logbook.replies
  /-- The displays are those of the clerk. -/
  displays : logbook.displayed .queued ++ adaptor.queueMessagesDisplayToUi =
    (Desk.after setup mapping logbook.tasks).displays
  /-- The requests are those of the clerk. -/
  requests : logbook.asked ++ adaptor.queueMessagesRequestToUi =
    (Desk.after setup mapping logbook.tasks).requests
  /-- What was sent to the testing tool is what the clerk hands out. -/
  chained : adaptor.bus.filterMap Publication.chained? ++ adaptor.queueMessagesToTt =
    (Desk.after setup mapping logbook.tasks).chained
  /-- What was displayed was published, once and in order. -/
  shown : adaptor.bus.filterMap Publication.display? = logbook.shown.map Prod.snd
  /-- With each request, the users that are not asked were told so. -/
  waited : logbook.displayed .waiting = logbook.asked.flatMap (told setup mapping)
  /-- Each request was published, once and in order, unless telling the others raised. -/
  asked : adaptor.bus.filterMap Publication.request? = logbook.asked.filter (tellable setup mapping)
  /-- That ended the loop. -/
  lost : ∀ earlier request, earlier ++ [request] <+: logbook.asked →
    tellable setup mapping request = false →
      logbook.asked = earlier ++ [request] ∧ adaptor.phase = .stopped
  /-- What raised was the last thing, and ended the loop. -/
  last : ∀ earlier task, earlier ++ [task] <+: logbook.tasks →
    Desk.Raises setup mapping earlier task →
      logbook.tasks = earlier ++ [task] ∧ adaptor.phase = .stopped

/-- At the start nothing has been done. -/
theorem follows_initial (setup : Setup) (mapping : RoleMapping) (waiting : List TtMessage) :
    Follows setup mapping waiting (initial mapping waiting) {} where
  roles := rfl
  translator := rfl
  messages := by simp [initial]
  replies := rfl
  displays := rfl
  requests := rfl
  chained := rfl
  shown := rfl
  waited := rfl
  asked := rfl
  lost earlier request front := by simp at front
  last earlier task front := by simp at front

/-- Going on to another part of the loop. -/
theorem Follows.enter (follows : Follows setup mapping waiting adaptor logbook) {phase : Phase}
    (running : adaptor.phase ≠ .stopped) :
    Follows setup mapping waiting (adaptor.enter phase) logbook where
  __ := follows
  lost earlier request front wrong := absurd (follows.lost earlier request front wrong).2 running
  last earlier task front raises := absurd (follows.last earlier task front raises).2 running

/-- Where the main thread is after a part of the loop that it has executed on a part of the state. -/
theorem ending_within (embed : Adaptor → Adaptor)
    (result : EStateM.Result PyException Adaptor Unit) (phase : Phase) :
    ending (within embed result) phase =
      (embed (finalState result)).enter (if (raised result).isSome then .stopped else phase) := by
  cases result <;> rfl

/-- A part of the loop has handled something. -/
theorem Follows.handle (follows : Follows setup mapping waiting adaptor logbook)
    (running : adaptor.phase ≠ .stopped) (phase : Phase) {task : Task} {fromTt : List TtMessage}
    {fromUi : List UiReply}
    (messages : (logbook.tasks ++ [task]).filterMap Task.message? ++ fromTt =
      waiting ++ logbook.messages)
    (replies : (logbook.tasks ++ [task]).filterMap Task.reply? ++ fromUi = logbook.replies) :
    Follows setup mapping waiting
      (ending ((task.body setup).run
        { adaptor with queueMessagesFromTt := fromTt, queueMessagesFromUi := fromUi }) phase)
      { logbook with tasks := logbook.tasks ++ [task] } := by
  generalize rest : { adaptor with queueMessagesFromTt := fromTt, queueMessagesFromUi := fromUi } =
    base
  have translator : base.translator = (Desk.after setup mapping logbook.tasks).translator := by
    rw [← rest]
    exact follows.translator
  have roles : base.mapping = mapping := by
    rw [← rest]
    exact follows.roles
  have untouched := task.body_leaves setup base
  rw [run_body translator task, roles, finalState_within] at untouched
  obtain ⟨kept, silent⟩ := Prod.mk.inj untouched
  rw [run_body translator task, roles, ending_within]
  generalize result : (Desk.after setup mapping logbook.tasks).result setup mapping task = outcome
    at kept silent ⊢
  have bus : (finalState outcome).bus = [] := List.append_right_eq_self.mp silent
  have desk : Desk.after setup mapping (logbook.tasks ++ [task]) =
      (Desk.after setup mapping logbook.tasks).work setup mapping task := Desk.after_concat ..
  have work : (Desk.after setup mapping logbook.tasks).work setup mapping task =
      { translator := (finalState outcome).translator
        displays := (Desk.after setup mapping logbook.tasks).displays ++
          (finalState outcome).queueMessagesDisplayToUi
        requests := (Desk.after setup mapping logbook.tasks).requests ++
          (finalState outcome).queueMessagesRequestToUi
        chained := (Desk.after setup mapping logbook.tasks).chained ++
          (finalState outcome).queueMessagesToTt } := by
    rw [← result]
    rfl
  subst rest
  constructor
  · exact kept.trans roles
  · rw [desk, work]
    rfl
  · exact messages
  · exact replies
  · rw [desk, work, ← follows.displays, List.append_assoc]
    rfl
  · rw [desk, work, ← follows.requests, List.append_assoc]
    rfl
  · change (adaptor.bus ++ (finalState outcome).bus).filterMap Publication.chained? ++
      (adaptor.queueMessagesToTt ++ (finalState outcome).queueMessagesToTt) = _
    rw [bus, List.append_nil, ← List.append_assoc, follows.chained, desk, work]
  · change (adaptor.bus ++ (finalState outcome).bus).filterMap _ = _
    rw [bus, List.append_nil]
    exact follows.shown
  · exact follows.waited
  · change (adaptor.bus ++ (finalState outcome).bus).filterMap _ = _
    rw [bus, List.append_nil]
    exact follows.asked
  · exact fun earlier request front wrong =>
      absurd (follows.lost earlier request front wrong).2 running
  · intro earlier other front raises
    rcases List.prefix_concat_iff.mp front with whole | front
    · obtain ⟨rfl, single⟩ := List.append_inj' whole rfl
      obtain rfl := List.singleton_inj.mp single
      unfold Desk.Raises at raises
      rw [result] at raises
      exact ⟨rfl, if_pos raises⟩
    · exact absurd (follows.last earlier other front raises).2 running

/-- What a part of the loop notes that takes nothing out of a queue and displays nothing. -/
theorem log_proceed {circumstances : Circumstances}
    (idle : adaptor.nextTask circumstances = none ∧ adaptor.nextDisplays setup circumstances = [] ∧
      adaptor.nextRequest = none) :
    log setup logbook adaptor (.proceed circumstances) = logbook := by
  obtain ⟨unhandled, unshown, unasked⟩ := idle
  simp [log, unhandled, unshown, unasked]

/-- What was displayed earlier, and what is displayed now. -/
theorem displayed_append (logbook : Logbook) (shown : List (Occasion × UiMessage))
    (asked : List UiMessage) (occasion : Occasion) :
    Logbook.displayed
        { logbook with shown := logbook.shown ++ shown, asked := logbook.asked ++ asked } occasion =
      logbook.displayed occasion ++ Logbook.displayed { shown } occasion :=
  List.filterMap_append

/-- A part of the loop that publishes something, and puts nothing into a queue. -/
theorem Follows.publish (follows : Follows setup mapping waiting adaptor logbook)
    (running : adaptor.phase ≠ .stopped) {displays requests : List UiMessage}
    {chained : List ChainedMessage} {shown : List (Occasion × UiMessage)} {asked : List UiMessage}
    {messages : List Publication} {phase : Phase}
    (show_first : adaptor.queueMessagesDisplayToUi =
      Logbook.displayed { shown } .queued ++ displays)
    (ask_first : adaptor.queueMessagesRequestToUi = asked ++ requests)
    (send_first : adaptor.queueMessagesToTt = messages.filterMap Publication.chained? ++ chained)
    (shows : messages.filterMap Publication.display? = shown.map Prod.snd)
    (tells : Logbook.displayed { shown } .waiting = asked.flatMap (told setup mapping))
    (asks : messages.filterMap Publication.request? = asked.filter (tellable setup mapping))
    (stops : asked = [] ∨ ∃ request, asked = [request] ∧
      (tellable setup mapping request = false → phase = .stopped)) :
    Follows setup mapping waiting
      (({ adaptor with
          queueMessagesDisplayToUi := displays
          queueMessagesRequestToUi := requests
          queueMessagesToTt := chained } : Adaptor).publish messages |>.enter phase)
      { logbook with
        shown := logbook.shown ++ shown
        asked := logbook.asked ++ asked } where
  roles := follows.roles
  translator := follows.translator
  messages := follows.messages
  replies := follows.replies
  displays := by
    rw [displayed_append, ← follows.displays, show_first, ← List.append_assoc]
    rfl
  requests := by
    rw [← follows.requests, ask_first, ← List.append_assoc]
    rfl
  chained := by
    rw [← follows.chained, send_first, ← List.append_assoc, ← List.filterMap_append]
    rfl
  shown := by
    change (adaptor.bus ++ messages).filterMap _ = _
    rw [List.filterMap_append, follows.shown, shows, List.map_append]
  waited := by rw [displayed_append, follows.waited, tells, List.flatMap_append]
  asked := by
    change (adaptor.bus ++ messages).filterMap _ = _
    rw [List.filterMap_append, follows.asked, asks, List.filter_append]
  lost earlier request front wrong := by
    -- An earlier one would have ended the loop before.
    have earliest (inside : earlier ++ [request] <+: logbook.asked) : False :=
      running (follows.lost earlier request inside wrong).2
    rcases stops with rfl | ⟨only, rfl, stopped⟩
    · exact absurd (by rwa [List.append_nil] at front) earliest
    · rcases List.prefix_concat_iff.mp front with whole | inside
      · obtain ⟨rfl, single⟩ := List.append_inj' whole rfl
        obtain rfl := List.singleton_inj.mp single
        exact ⟨rfl, stopped wrong⟩
      · exact absurd inside earliest
  last earlier task front raises := absurd (follows.last earlier task front raises).2 running

/-- A part of the loop. -/
theorem Follows.proceed (follows : Follows setup mapping waiting adaptor logbook)
    (running : adaptor.phase ≠ .stopped) (circumstances : Circumstances) :
    Follows setup mapping waiting (adaptor.proceed setup circumstances)
      (log setup logbook adaptor (.proceed circumstances)) := by
  cases phase : adaptor.phase with
  | testingTool =>
    cases queue : adaptor.queueMessagesFromTt with
    | nil =>
      have turn : adaptor.proceed setup circumstances = adaptor.enter .displays := by
        simp only [Adaptor.proceed, phase, queue]
      rw [turn, log_proceed (by simp [nextTask, nextDisplays, nextRequest, phase, queue])]
      exact follows.enter running
    | cons message rest =>
      have turn : adaptor.proceed setup circumstances =
          ending (((Task.message circumstances message).body setup).run
            { adaptor with
              queueMessagesFromTt := rest
              queueMessagesFromUi := adaptor.queueMessagesFromUi }) .displays := by
        simp only [Adaptor.proceed, phase, queue, Task.body]
      have noted : log setup logbook adaptor (.proceed circumstances) =
          { logbook with tasks := logbook.tasks ++ [.message circumstances message] } := by
        simp [log, nextTask, nextDisplays, nextRequest, phase, queue]
      have messages := follows.messages
      rw [queue] at messages
      rw [turn, noted]
      refine follows.handle running .displays ?_ ?_
      · simpa [List.filterMap_cons, Task.message?] using messages
      · simpa [List.filterMap_cons, Task.reply?] using follows.replies
  | displays =>
    cases queue : adaptor.queueMessagesDisplayToUi with
    | nil =>
      have turn : adaptor.proceed setup circumstances = adaptor.enter .request := by
        simp only [Adaptor.proceed, phase, queue]
      rw [turn, log_proceed (by simp [nextTask, nextDisplays, nextRequest, phase, queue])]
      exact follows.enter running
    | cons message rest =>
      have turn : adaptor.proceed setup circumstances =
          ({ adaptor with queueMessagesDisplayToUi := rest }.publish
            [.display message]).enter adaptor.phase := by
        simp only [Adaptor.proceed, phase, queue]
        rw [← phase]
        rfl
      have noted : log setup logbook adaptor (.proceed circumstances) =
          { logbook with
            shown := logbook.shown ++ [(.queued, message)]
            asked := logbook.asked ++ [] } := by
        simp [log, nextTask, nextDisplays, nextRequest, phase, queue]
      rw [turn, noted]
      exact follows.publish running (queue : _ = [message] ++ rest) (List.nil_append _).symm
        (List.nil_append _).symm rfl rfl rfl (.inl rfl)
  | request =>
    cases queue : adaptor.queueMessagesRequestToUi with
    | nil =>
      have turn : adaptor.proceed setup circumstances = adaptor.enter .reply := by
        simp only [Adaptor.proceed, phase, queue]
      rw [turn, log_proceed (by simp [nextTask, nextDisplays, nextRequest, phase, queue])]
      exact follows.enter running
    | cons request rest =>
      have turn : adaptor.proceed setup circumstances =
          ending ((MainThread.publishUiRequest setup request).run
            { adaptor with queueMessagesRequestToUi := rest }) .reply := by
        simp only [Adaptor.proceed, phase, queue]
      have roles := follows.roles
      subst roles
      have noted : log setup logbook adaptor (.proceed circumstances) =
          { logbook with
            shown := logbook.shown ++ (told setup adaptor.mapping request).map (.waiting, ·)
            asked := logbook.asked ++ [request] } := by
        simp [log, nextTask, nextDisplays, nextRequest, phase, queue]
      rw [turn, noted]
      unfold MainThread.publishUiRequest
      simp only [EStateM.run_bind, EStateM.run_get]
      cases others : Publisher.waitingDisplays adaptor.mapping setup.library request with
      | error exception =>
        have untold : told setup adaptor.mapping request = [] := by
          simp [told, others, Except.toOption]
        have untellable : tellable setup adaptor.mapping request = false := by
          simp [tellable, others, Except.isOk, Except.toBool]
        have lost := @Follows.publish _ _ _ _ _ follows running adaptor.queueMessagesDisplayToUi rest
          adaptor.queueMessagesToTt [] [request] [] .stopped rfl queue rfl rfl
          (by simp [untold, Logbook.displayed]) (by simp [untellable])
          (.inr ⟨request, rfl, fun _ => rfl⟩)
        simpa [Adaptor.publish, ending, untold] using lost
      | ok displays =>
        have all : told setup adaptor.mapping request = displays := by
          simp [told, others, Except.toOption]
        have possible : tellable setup adaptor.mapping request = true := by
          simp [tellable, others, Except.isOk, Except.toBool]
        have told_waiting : Logbook.displayed { shown := displays.map (.waiting, ·) } .waiting =
            [request].flatMap (told setup adaptor.mapping) := by
          simp [Logbook.displayed, all]
        rw [all]
        exact @Follows.publish _ _ _ _ _ follows running adaptor.queueMessagesDisplayToUi rest
          adaptor.queueMessagesToTt (displays.map (.waiting, ·)) [request]
          (displays.map .display ++ [.request request]) .reply (by simp [Logbook.displayed]) queue
          (by simp [List.filterMap_cons, Function.comp_def, Publication.chained?])
          (by simp [List.filterMap_cons, Function.comp_def, Publication.display?]) told_waiting
          (by simp [Function.comp_def, Publication.request?, possible])
          (.inr ⟨request, rfl, fun wrong => absurd wrong (by simp [possible])⟩)
  | reply =>
    cases queue : adaptor.queueMessagesFromUi with
    | nil =>
      have turn : adaptor.proceed setup circumstances = adaptor.enter .chained := by
        simp only [Adaptor.proceed, phase, queue]
      rw [turn, log_proceed (by simp [nextTask, nextDisplays, nextRequest, phase, queue])]
      exact follows.enter running
    | cons reply rest =>
      have turn : adaptor.proceed setup circumstances =
          ending (((Task.reply circumstances reply).body setup).run
            { adaptor with
              queueMessagesFromTt := adaptor.queueMessagesFromTt
              queueMessagesFromUi := rest }) .chained := by
        simp only [Adaptor.proceed, phase, queue, Task.body]
      have noted : log setup logbook adaptor (.proceed circumstances) =
          { logbook with tasks := logbook.tasks ++ [.reply circumstances reply] } := by
        simp [log, nextTask, nextDisplays, nextRequest, phase, queue]
      have replies := follows.replies
      rw [queue] at replies
      rw [turn, noted]
      refine follows.handle running .chained ?_ ?_
      · simpa [List.filterMap_cons, Task.message?] using follows.messages
      · simpa [List.filterMap_cons, Task.reply?] using replies
  | chained =>
    rw [log_proceed (by simp [nextTask, nextDisplays, nextRequest, phase])]
    cases queue : adaptor.queueMessagesToTt with
    | nil =>
      have turn : adaptor.proceed setup circumstances = adaptor.enter .newUsers := by
        simp only [Adaptor.proceed, phase, queue]
      rw [turn]
      exact follows.enter running
    | cons message rest =>
      have turn : adaptor.proceed setup circumstances =
          ({ adaptor with queueMessagesToTt := rest }.publish
            [.chained message]).enter adaptor.phase := by
        simp only [Adaptor.proceed, phase, queue]
        rw [← phase]
        rfl
      have published := @Follows.publish _ _ _ _ _ follows running adaptor.queueMessagesDisplayToUi
        adaptor.queueMessagesRequestToUi rest [] [] [.chained message] adaptor.phase rfl rfl queue
        rfl rfl rfl (.inl rfl)
      rw [turn]
      simpa using published
  | newUsers =>
    cases found : circumstances.newUsers with
    | error exception =>
      have turn : adaptor.proceed setup circumstances = adaptor.enter .stopped := by
        simp only [Adaptor.proceed, phase, found]
      rw [turn, log_proceed (by simp [nextTask, nextDisplays, nextRequest, phase, found,
        Except.toOption])]
      exact follows.enter running
    | ok displays =>
      have turn : adaptor.proceed setup circumstances =
          (adaptor.publish (displays.map .display)).enter .testingTool := by
        simp only [Adaptor.proceed, phase, found]
      have noted : log setup logbook adaptor (.proceed circumstances) =
          { logbook with
            shown := logbook.shown ++ displays.map (.newUsers, ·)
            asked := logbook.asked ++ [] } := by
        simp [log, nextTask, nextDisplays, nextRequest, phase, found, Except.toOption]
      rw [turn, noted]
      exact @Follows.publish _ _ _ _ _ follows running adaptor.queueMessagesDisplayToUi
        adaptor.queueMessagesRequestToUi adaptor.queueMessagesToTt (displays.map (.newUsers, ·)) []
        (displays.map .display) .testingTool (by simp [Logbook.displayed]) rfl
        (by simp [Function.comp_def, Publication.chained?])
        (by simp [Function.comp_def, Publication.display?]) (by simp [Logbook.displayed])
        (by simp [Function.comp_def, Publication.request?]) (.inl rfl)
  | stopped => exact absurd phase running

/-- One action. -/
theorem Follows.step (follows : Follows setup mapping waiting adaptor logbook) (action : Action) :
    Follows setup mapping waiting (adaptor.next setup action) (log setup logbook adaptor action) := by
  cases action with
  | fromTt message =>
    simp only [next, log]
    split
    · exact { follows with
        messages := by rw [← List.append_assoc, ← List.append_assoc, follows.messages] }
    · exact follows
  | fromUi reply =>
    simp only [next, log]
    split
    · exact { follows with replies := by rw [← List.append_assoc, follows.replies] }
    · exact follows
  | interrupt =>
    change Follows setup mapping waiting (adaptor.enter .stopped) logbook
    by_cases stopped : adaptor.phase = .stopped
    · have same : adaptor.enter .stopped = adaptor := by
        rw [← stopped]
        rfl
      rw [same]
      exact follows
    · exact follows.enter stopped
  | proceed circumstances =>
    change Follows setup mapping waiting (adaptor.proceed setup circumstances) _
    by_cases stopped : adaptor.phase = .stopped
    · have turn : adaptor.proceed setup circumstances = adaptor := by
        simp only [Adaptor.proceed, stopped]
      rw [turn, log_proceed (by simp [nextTask, nextDisplays, nextRequest, stopped])]
      exact follows
    · exact follows.proceed stopped circumstances

/-- **The main loop does what a clerk does.** Whatever arrives when, and wherever the main thread is:
with its queues and threads it handles what it receives in the order in which it is received, and hands
out what a clerk hands out who handles the same things one after the other. -/
theorem dispatches_in_order (setup : Setup) (mapping : RoleMapping) (waiting : List TtMessage)
    (adaptor : Adaptor) (logbook : Logbook)
    (reached : Logged setup mapping waiting (adaptor, logbook)) :
    Follows setup mapping waiting adaptor logbook := by
  suffices every : ∀ pair, Logged setup mapping waiting pair →
      Follows setup mapping waiting pair.1 pair.2 from every _ reached
  intro pair reached
  induction reached with
  | init => exact follows_initial setup mapping waiting
  | @step pair action _ _ ih => exact ih.step action

/-- Of a step that a user verifies. -/
theorem dispatches_in_order_verified :
    Follows .plain .empty [{ type := .stepVerifyExecute }] afterVerified.1 afterVerified.2 ∧
      afterVerified.2.tasks.length = 2 ∧
        afterVerified.1.bus.filterMap Publication.chained? = [.stepVerifyExecuted "bool" true] :=
  ⟨dispatches_in_order .plain .empty [{ type := .stepVerifyExecute }] afterVerified.1
    afterVerified.2 (reachable_foldl (fun _ _ => trivial) verified), by decide +kernel,
    by decide +kernel⟩

end Adaptor

end Ioppytest.UiAdaptor
