import Ioppytest.Properties.Dispatching
import Ioppytest.Properties.Startup

/-!
# Listening to the users

The loop of the UI adaptor listens to the topics that it has chosen when it was entered. Every request
that it publishes is addressed to all users or to one that has a role, and asks for a reply on the
topic of the same users, which is among these; that holds as long as the ids of the users are plain.
-/

namespace Ioppytest.UiAdaptor

open Framing PyString Raising

namespace Publisher

/-- A request is addressed to a user, and asks them for a reply. -/
structure AsksUser (request : UiMessage) (userId : String) : Prop where
  /-- It has their routing key. -/
  key : request.routingKey = requestTopic userId
  /-- It has their topic for the reply. -/
  reply : request.replyTo = some (replyTopic userId)

/-- All users, or one of them that has a role. -/
def Known (mapping : RoleMapping) (userId : String) : Prop :=
  userId = "all" ∨ ∃ node, (node, userId) ∈ mapping.items

/-- The ids of the users that have a role are plain. -/
def PlainUsers (mapping : RoleMapping) : Prop := ∀ item ∈ mapping.items, Plain item.2

/-- The users of a mapping are a list. -/
instance (mapping : RoleMapping) : Decidable (PlainUsers mapping) :=
  inferInstanceAs (Decidable (∀ item ∈ mapping.items,
    item.2 ≠ "" ∧ '.' ∉ item.2.toList ∧ ¬ "request".toList <+: item.2.toList))

variable {mapping : RoleMapping} {library : MessageLibrary} {request message : UiMessage}
  {userId : String}

/-- Everybody has a plain id. -/
theorem plain_all : Plain "all" := ⟨by decide, by decide, by decide⟩

/-- A known user has a plain id. -/
theorem PlainUsers.known (plain : PlainUsers mapping) (known : Known mapping userId) : Plain userId := by
  rcases known with rfl | ⟨node, role⟩
  · exact plain_all
  · exact plain _ role

/-- A message about the testing tool is for a known user. -/
theorem destination_known (ttMessage : TtMessage) :
    Known mapping (destinationUser mapping (some ttMessage) none) := by
  have role (node : Option String) : Known mapping (getUserIdFromNode mapping node) := by
    unfold getUserIdFromNode
    cases found : node.bind mapping.get? with
    | none => exact .inl rfl
    | some user =>
      obtain ⟨name, -, inside⟩ := Option.bind_eq_some_iff.mp found
      unfold OrderedDict.get? at inside
      obtain ⟨item, here, rfl⟩ := Option.map_eq_some_iff.mp inside
      exact .inr ⟨item.1, List.mem_of_find?_eq_some here⟩
  unfold destinationUser
  cases (some ttMessage).bind (·.node) with
  | none => exact .inl rfl
  | some node => exact role node

/-- A request about a message of the testing tool is addressed to a known user. -/
theorem addressed_known (forUsers : ForUsers request) (plain : PlainUsers mapping)
    {ttMessage : TtMessage}
    (addressed : updateUiMessageRkeys mapping request (some ttMessage) none = .ok message) :
    ∃ userId, Known mapping userId ∧ AsksUser message userId := by
  have known := @destination_known mapping ttMessage
  have ⟨given, part, apart⟩ := plain.known known
  have same : updateUiMessageRkeys mapping request (some ttMessage) none =
      updateUiMessageRkeys mapping request none
        (some (destinationUser mapping (some ttMessage) none)) := by
    have user : destinationUser mapping none (some (destinationUser mapping (some ttMessage) none)) =
        destinationUser mapping (some ttMessage) none := by
      conv_lhs => rw [destinationUser, truthy_some given]
    unfold updateUiMessageRkeys
    rw [user]
  rw [same, updateUiMessageRkeys_user forUsers given] at addressed
  obtain rfl := Except.ok.inj addressed
  obtain ⟨topic, asks⟩ := Option.isSome_iff_exists.mp forUsers.asks
  refine ⟨_, known, rfl, ?_⟩
  rw [readdress, asks, Option.map_some, replace_requestTopic part apart]

/-- A request to a known user can be published. -/
theorem AsksUser.published (asks : AsksUser request userId) (plain : Plain userId)
    (display : library.uiDisplay.routingKey = "ui.user.all.display") :
    ∃ displays, waitingDisplays mapping library request = .ok displays := by
  refine waitingDisplays_ok display (.inr ⟨userId, plain.1, ?_⟩)
  rw [asks.key]
  exact getUserIdFromRkey_plain plain.2.1

/-- The adaptor listens to the replies of a known user. -/
theorem Known.listens (known : Known mapping userId) : replyTopic userId ∈ uiReplyTopics mapping := by
  rcases known with rfl | ⟨node, role⟩
  · exact List.mem_cons_self
  · exact replyTopic_mem role

end Publisher

open Publisher

variable {setup : Setup} {mapping : RoleMapping}

/-- The requests that are waiting, and the mapping of roles. -/
def Adaptor.pendingRequests (adaptor : Adaptor) : RoleMapping × List UiMessage :=
  (adaptor.mapping, adaptor.queueMessagesRequestToUi)

/-- Every message of a list is addressed to a known user. -/
def AllKnown (mapping : RoleMapping) (messages : List UiMessage) : Prop :=
  ∀ message ∈ messages, ∃ userId, Known mapping userId ∧ AsksUser message userId

namespace MainThread

/-- Echoing a message asks for nothing. -/
theorem echoMessage_leaves (circumstances : Circumstances) (message : TtMessage) :
    Leaves Adaptor.pendingRequests (echoMessage circumstances message) := by
  unfold echoMessage
  split
  · refine (leaves_lift _).bind fun shown => ?_
    cases shown with
    | none => exact leaves_pure ()
    | some uiDisplayMessage =>
      refine leaves_get.bind fun state => (leaves_lift _).bind fun addressed => ?_
      exact leaves_modify fun _ => rfl
  · exact leaves_pure ()

/-- Handling a reply asks for nothing. -/
theorem processMessageFromUi_leaves (circumstances : Circumstances) (reply : UiReply) :
    Leaves Adaptor.pendingRequests (processMessageFromUi setup circumstances reply) := by
  have called : Leaves Adaptor.pendingRequests
      (call (Translator.translateUiToTtMessage setup reply)) := by
    intro adaptor
    rw [run_call]
    cases (Translator.translateUiToTtMessage setup reply).run adaptor.translator <;> rfl
  refine .bind (leaves_expect _ _) fun _ => .bind (leaves_modify fun _ => rfl) fun _ => ?_
  refine leaves_get.bind fun state => ?_
  split
  · refine called.bind fun response => ?_
    cases response with
    | none => exact leaves_pure ()
    | some responseToTt => exact leaves_modify fun _ => rfl
  · exact leaves_pure ()

/-- A request for input is for users. -/
theorem forUsers_asked (question : ForUsers setup.library.uiRequestConfirmationButton)
    {translator : Translator} {correlationId : String} {message : TtMessage} {request : UiMessage}
    (asked : translator.getUiRequestActionMessage setup correlationId message = .ok (some request)) :
    ForUsers (translator.tagMessage request) := by
  have tagged : (translator.tagMessage request).routingKey = request.routingKey ∧
      (translator.tagMessage request).replyTo = request.replyTo := by
    unfold Translator.tagMessage
    split
    · split <;> exact ⟨rfl, rfl⟩
    · exact ⟨rfl, rfl⟩
  have built : request.routingKey = setup.library.uiRequestConfirmationButton.routingKey ∧
      request.replyTo = setup.library.uiRequestConfirmationButton.replyTo := by
    unfold Translator.getUiRequestActionMessage at asked
    split at asked
    · cases asked
    · cases asked
    · rename_i action found _
      cases asked
      unfold Translator.ttToUiMessageTranslation at found
      split at found <;> cases found <;> exact ⟨rfl, rfl⟩
  constructor
  · rw [tagged.1, built.1]
    exact question.key
  · rw [tagged.2, built.2]
    exact question.asks

/-- A request for input is addressed to a known user. -/
theorem requestInput_known (question : ForUsers setup.library.uiRequestConfirmationButton)
    (plain : PlainUsers mapping) (circumstances : Circumstances) (message : TtMessage)
    {adaptor : Adaptor} (roles : adaptor.mapping = mapping)
    (known : AllKnown mapping adaptor.queueMessagesRequestToUi) :
    AllKnown mapping (finalState ((requestInput setup circumstances message).run
      adaptor)).queueMessagesRequestToUi := by
  unfold requestInput
  simp only [EStateM.run_bind, EStateM.run_get]
  cases asked : adaptor.translator.getUiRequestActionMessage setup circumstances.correlationId
      message with
  | error exception => exact known
  | ok request =>
    cases request with
    | none => exact known
    | some request =>
      simp only [run_lift_ok, EStateM.run_bind, EStateM.run_get]
      cases run : updateUiMessageRkeys adaptor.mapping (adaptor.translator.tagMessage request)
          (some message) none with
      | error exception => exact known
      | ok addressed =>
        rw [roles] at run
        have one := addressed_known (forUsers_asked question asked) plain run
        have all : AllKnown mapping (adaptor.queueMessagesRequestToUi ++ [addressed]) := by
          intro other member
          rcases List.mem_append.mp member with waits | new
          · exact known other waits
          · rw [List.mem_singleton.mp new]
            exact one
        simp only [run_lift_ok, EStateM.run_modify]
        cases addressed.correlationId with
        | none => exact all
        | some corrId => exact all

end MainThread

/-- Handling anything only adds requests to known users. -/
theorem Task.body_known (question : ForUsers setup.library.uiRequestConfirmationButton)
    (plain : PlainUsers mapping) (task : Task) {adaptor : Adaptor}
    (roles : adaptor.mapping = mapping)
    (known : AllKnown mapping adaptor.queueMessagesRequestToUi) :
    AllKnown mapping (finalState ((task.body setup).run adaptor)).queueMessagesRequestToUi := by
  cases task with
  | reply circumstances reply =>
    have waits : (finalState (((Task.reply circumstances reply).body setup).run
        adaptor)).queueMessagesRequestToUi = adaptor.queueMessagesRequestToUi :=
      congrArg Prod.snd (MainThread.processMessageFromUi_leaves circumstances reply adaptor)
    rw [waits]
    exact known
  | message circumstances message =>
    let updated := { adaptor with translator := adaptor.translator.updateState message }
    have left := MainThread.echoMessage_leaves circumstances message updated
    have run : ((Task.message circumstances message).body setup).run adaptor =
        andThen ((MainThread.echoMessage circumstances message).run updated)
          (MainThread.requestInput setup circumstances message).run := run_seq _ _ updated
    rw [run]
    cases echoed : (MainThread.echoMessage circumstances message).run updated with
    | error exception after =>
      rw [echoed] at left
      have waits : after.queueMessagesRequestToUi = adaptor.queueMessagesRequestToUi :=
        congrArg Prod.snd left
      rw [andThen_error, finalState_error, waits]
      exact known
    | ok _ after =>
      rw [echoed] at left
      have waits : after.queueMessagesRequestToUi = adaptor.queueMessagesRequestToUi :=
        congrArg Prod.snd left
      have same : after.mapping = mapping := (congrArg Prod.fst left).trans roles
      rw [andThen_ok]
      refine MainThread.requestInput_known question plain circumstances message same ?_
      rw [waits]
      exact known

/-- A clerk asks known users only. -/
theorem Desk.after_known (question : ForUsers setup.library.uiRequestConfirmationButton)
    (plain : PlainUsers mapping) (tasks : List Task) :
    AllKnown mapping (after setup mapping tasks).requests := by
  induction tasks using List.reverseRecOn with
  | nil =>
    intro message member
    cases member
  | append_singleton tasks task ih =>
    rw [after_concat]
    intro message member
    rcases List.mem_append.mp member with earlier | new
    · exact ih message earlier
    · let seated := seat mapping (after setup mapping tasks).translator
      have none : AllKnown mapping seated.queueMessagesRequestToUi := fun other member => by
        cases member
      have roles : seated.mapping = mapping := rfl
      exact Task.body_known question plain task roles none message new

namespace Adaptor

variable {waiting : List TtMessage} {adaptor : Adaptor} {logbook : Logbook}

/-- What the main loop asks, or has asked, is for known users. -/
theorem Follows.known (follows : Follows setup mapping waiting adaptor logbook)
    (question : ForUsers setup.library.uiRequestConfirmationButton) (plain : PlainUsers mapping) :
    AllKnown mapping
      (adaptor.bus.filterMap Publication.request? ++ adaptor.queueMessagesRequestToUi) := by
  intro message member
  refine Desk.after_known question plain logbook.tasks message ?_
  rw [← follows.requests]
  rcases List.mem_append.mp member with published | waits
  · refine List.mem_append_left _ ?_
    rw [follows.asked] at published
    exact List.mem_of_mem_filter published
  · exact List.mem_append_right _ waits

/-- Publishing a request to a known user goes on with the loop. -/
theorem Follows.asks (follows : Follows setup mapping waiting adaptor logbook)
    (question : ForUsers setup.library.uiRequestConfirmationButton) (plain : PlainUsers mapping)
    (display : setup.library.uiDisplay.routingKey = "ui.user.all.display")
    (turn : adaptor.phase = .request) (circumstances : Circumstances) :
    (adaptor.proceed setup circumstances).phase = .reply := by
  cases queue : adaptor.queueMessagesRequestToUi with
  | nil =>
    simp only [Adaptor.proceed, turn, queue]
    rfl
  | cons request rest =>
    have waits : request ∈ adaptor.queueMessagesRequestToUi := by
      rw [queue]
      exact List.mem_cons_self
    obtain ⟨userId, known, asks⟩ :=
      follows.known question plain request (List.mem_append_right _ waits)
    obtain ⟨displays, told⟩ :=
      @AsksUser.published adaptor.mapping setup.library request userId asks (plain.known known) display
    simp only [Adaptor.proceed, turn, queue]
    unfold MainThread.publishUiRequest
    simp only [EStateM.run_bind, EStateM.run_get, told]
    rfl

end Adaptor

/-- **Every request is asked on a topic that the adaptor listens to**, of all users or of one that has a
role, in every state of the loop of a UI adaptor that has been started, and publishing it does not end
the loop: if the ids of the users that have a role are plain. -/
theorem replies_received {start : StartupSetup} {surroundings : Surroundings} {suite : SuiteName}
    {topics : List String}
    (question : ForUsers setup.library.uiRequestConfirmationButton)
    (display : setup.library.uiDisplay.routingKey = "ui.user.all.display")
    (looping : StartupTask.loop? (StartupTask.started start surroundings suite) =
      some (mapping, topics))
    (plain : PlainUsers mapping) {waiting : List TtMessage} {adaptor : Adaptor}
    (reached : Runs.Reachable (Adaptor.next setup) (fun _ _ => True)
      (Adaptor.initial mapping waiting) adaptor) :
    (∀ message, .request message ∈ adaptor.bus → ∃ userId, Known mapping userId ∧
      AsksUser message userId ∧ replyTopic userId ∈ topics) ∧
    ∀ circumstances, adaptor.phase = .request →
      (adaptor.proceed setup circumstances).phase = .reply := by
  obtain ⟨logbook, follows⟩ : ∃ logbook, Adaptor.Follows setup mapping waiting adaptor logbook := by
    induction reached with
    | init => exact ⟨_, Adaptor.follows_initial setup mapping waiting⟩
    | @step adaptor action _ _ ih =>
      obtain ⟨logbook, follows⟩ := ih
      exact ⟨_, follows.step action⟩
  constructor
  · intro message published
    have asked : message ∈ adaptor.bus.filterMap Publication.request? :=
      List.mem_filterMap.mpr ⟨_, published, rfl⟩
    obtain ⟨userId, known, asks⟩ :=
      follows.known question plain message (List.mem_append_left _ asked)
    refine ⟨userId, known, asks, ?_⟩
    rw [(StartupTask.looping_hands looping).2]
    exact known.listens
  · intro circumstances turn
    exact follows.asks question plain display turn circumstances

/-- Alice is asked on a topic that the adaptor listens to. -/
theorem replies_received_alice : ∃ mapping topics,
    StartupTask.loop? (StartupTask.started StartupTask.quietStart StartupTask.aliceAlone .coap) =
        some (mapping, topics) ∧
      ∀ adaptor, Runs.Reachable (Adaptor.next .plain) (fun _ _ => True)
        (Adaptor.initial mapping [{ type := .testCaseReady, node := some "coap_client" }]) adaptor →
        (∀ message, .request message ∈ adaptor.bus → ∃ userId, Known mapping userId ∧
          AsksUser message userId ∧ replyTopic userId ∈ topics) ∧
        ∀ circumstances, adaptor.phase = .request →
          (adaptor.proceed .plain circumstances).phase = .reply := by
  have plain : ((StartupTask.loop? (StartupTask.started StartupTask.quietStart
      StartupTask.aliceAlone .coap)).any fun loop => decide (PlainUsers loop.1)) = true := by
    decide +kernel
  obtain ⟨⟨mapping, topics⟩, looping, checked⟩ := (Option.any_eq_true _ _).mp plain
  exact ⟨mapping, topics, looping, fun adaptor reached =>
    replies_received ⟨.inl rfl, rfl⟩ rfl looping (of_decide_eq_true checked) reached⟩

end Ioppytest.UiAdaptor
