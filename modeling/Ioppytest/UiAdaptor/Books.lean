import Ioppytest.UiAdaptor.MainLoop

/-!
# What the main loop does to the books

The books are what requests of users and their replies are about: the table of pending responses,
the requests and the messages for the testing tool that are queued, and what has been published. One
action turns them in one of few ways, and later modules use these instead of the loop.
-/

namespace Ioppytest.UiAdaptor

open Raising

/-- The message for the testing tool that was published, if it is one. -/
def Publication.chained? : Publication → Option ChainedMessage
  | .chained message => some message
  | _ => none

namespace Adaptor

/-- What requests of users and their replies are about. -/
structure Books where
  /-- The table of pending responses. -/
  pendingResponses : OrderedDict String PendingResponse
  /-- Requests that wait for being published. -/
  requests : List UiMessage
  /-- Messages that wait for being sent to the testing tool. -/
  chained : List ChainedMessage
  /-- What has been published. -/
  bus : List Publication

/-- The books of an adaptor. -/
def books (adaptor : Adaptor) : Books where
  pendingResponses := adaptor.translator.pendingResponses
  requests := adaptor.queueMessagesRequestToUi
  chained := adaptor.queueMessagesToTt
  bus := adaptor.bus

end Adaptor

namespace MainThread

variable {setup : Setup} {circumstances : Circumstances} {adaptor : Adaptor}

/-- The entry of a request for input in the table of pending responses. -/
def entryOf (request : UiMessage) (originator : TtMessage) : PendingResponse :=
  ⟨getFieldKeysFromUiRequest request, request, originator⟩

/-- Echoing a message asks for nothing. -/
theorem echoMessage_books (message : TtMessage) :
    (finalState ((echoMessage circumstances message).run adaptor)).books = adaptor.books := by
  unfold echoMessage
  rw [run_ite]
  split
  · cases circumstances.display with
    | error exception => rfl
    | ok display =>
      cases display with
      | none => rfl
      | some uiDisplayMessage =>
        simp only [EStateM.run_bind, run_lift_ok, EStateM.run_get]
        cases Publisher.updateUiMessageRkeys adaptor.mapping uiDisplayMessage message none <;> rfl
  · rfl

/-- Input is requested from a user at most once, and then an entry is prepared under the new
correlation id. -/
theorem requestInput_books (message : TtMessage) :
    (finalState ((requestInput setup circumstances message).run adaptor)).books = adaptor.books ∨
      ∃ request, request.correlationId = some circumstances.correlationId ∧
        (finalState ((requestInput setup circumstances message).run adaptor)).books =
          { adaptor.books with
            requests := adaptor.books.requests ++ [request]
            pendingResponses := adaptor.books.pendingResponses.insert circumstances.correlationId
              (entryOf request message) } := by
  unfold requestInput
  simp only [EStateM.run_bind, EStateM.run_get]
  cases asked : adaptor.translator.getUiRequestActionMessage setup circumstances.correlationId
    message with
  | error exception => exact .inl rfl
  | ok request =>
    cases request with
    | none => exact .inl rfl
    | some uiRequestMessage =>
      simp only [run_lift_ok, EStateM.run_bind, EStateM.run_get]
      cases run : Publisher.updateUiMessageRkeys adaptor.mapping
        (adaptor.translator.tagMessage uiRequestMessage) message none with
      | error exception => exact .inl rfl
      | ok addressed =>
        have named : addressed.correlationId = some circumstances.correlationId := by
          rw [Publisher.updateUiMessageRkeys_correlationId run,
            Translator.tagMessage_correlationId,
            Translator.getUiRequestActionMessage_correlationId asked]
        refine .inr ⟨addressed, named, ?_⟩
        simp only [run_lift_ok, EStateM.run_modify, named, run_expect_some]
        rfl

/-- The same of a message of the testing tool as a whole. -/
theorem processMessageFromTestingTool_books (message : TtMessage) :
    (finalState ((processMessageFromTestingTool setup circumstances message).run
      adaptor)).books = adaptor.books ∨
      ∃ request, request.correlationId = some circumstances.correlationId ∧
        (finalState ((processMessageFromTestingTool setup circumstances message).run
          adaptor)).books =
          { adaptor.books with
            requests := adaptor.books.requests ++ [request]
            pendingResponses := adaptor.books.pendingResponses.insert circumstances.correlationId
              (entryOf request message) } := by
  unfold processMessageFromTestingTool
  rw [run_seq, EStateM.run_modify, andThen_ok, run_seq]
  generalize updated : { adaptor with translator := adaptor.translator.updateState message } = before
  have same : adaptor.books = before.books := by
    rw [← updated]
    rfl
  rw [same]
  have echoed : (finalState ((echoMessage circumstances message).run before)).books =
      before.books := echoMessage_books message
  cases echo : (echoMessage circumstances message).run before with
  | error exception after =>
    rw [echo] at echoed
    exact .inl echoed
  | ok value after =>
    rw [echo] at echoed
    rw [andThen_ok, ← echoed]
    exact requestInput_books message

/-- A method of the translator changes nothing but the translator. -/
theorem run_call {α : Type} (method : Translation α) :
    (call method).run adaptor =
      match method.run adaptor.translator with
      | .ok value translator => .ok value { adaptor with translator }
      | .error exception translator => .error exception { adaptor with translator } := rfl

/-- A reply drops the entry that it is about, if there is one, and leads to one message for the
testing tool at most. -/
theorem processMessageFromUi_books (reply : UiReply) :
    (finalState ((processMessageFromUi setup circumstances reply).run adaptor)).books =
        adaptor.books ∨
      ∃ id entry, reply.correlationId = some (some id) ∧
        adaptor.books.pendingResponses.get? id = some entry ∧ ∃ answer : Option ChainedMessage,
          (finalState ((processMessageFromUi setup circumstances reply).run adaptor)).books =
            { adaptor.books with
              pendingResponses := adaptor.books.pendingResponses.erase id
              chained := adaptor.books.chained ++ answer.toList } := by
  unfold processMessageFromUi
  cases reply.fields with
  | none => exact .inl rfl
  | some fields =>
    simp only [EStateM.run_bind, run_expect_some, EStateM.run_modify, EStateM.run_get, run_ite]
    generalize echoed : adaptor.putDisplay (Translator.transformStringToUiMarkdownDisplay
      setup.library ("User replied to request: " ++ circumstances.fieldsText)) = before
    have same : adaptor.books = before.books := by
      rw [← echoed]
      rfl
    rw [same]
    split
    · rename_i pending
      obtain ⟨id, entry, named, found⟩ := Translator.isPendingResponse_iff.mp pending
      refine .inr ⟨id, entry, named, found, ?_⟩
      rw [run_call, Translator.translateUiToTtMessage_run named found]
      cases Translator.chainedMessage setup (before.translator.without id) entry reply with
      | error exception => exact ⟨none, by simp [Adaptor.books, Translator.without]⟩
      | ok response =>
        refine ⟨response, ?_⟩
        cases response with
        | none => simp [Adaptor.books, Translator.without]
        | some responseToTt => simp [Adaptor.books, Translator.without, Adaptor.putChained]
    · exact .inl rfl

/-- The main loop publishes a request to whomever it is addressed to. -/
theorem publishUiRequest_run (request : UiMessage) :
    (publishUiRequest setup request).run adaptor =
      (lift (Publisher.publishUiRequest adaptor.mapping setup.library request none) >>=
        fun published => modify (·.publish
          (published.1.map .display ++ [.request published.2])) : MainThread Unit).run adaptor := by
  rw [Publisher.publishUiRequest_none]
  unfold publishUiRequest
  simp only [EStateM.run_bind, EStateM.run_get]
  cases Publisher.waitingDisplays adaptor.mapping setup.library request <;> rfl

/-- A request is published after the displays that go with it. -/
theorem publishUiRequest_books (request : UiMessage) : ∃ displays : List UiMessage,
    (finalState ((publishUiRequest setup request).run adaptor)).books =
        adaptor.books ∨
      (finalState ((publishUiRequest setup request).run adaptor)).books =
        { adaptor.books with
          bus := adaptor.books.bus ++ (displays.map .display ++ [.request request]) } := by
  unfold publishUiRequest
  simp only [EStateM.run_bind, EStateM.run_get]
  cases Publisher.waitingDisplays adaptor.mapping setup.library request with
  | error exception => exact ⟨[], .inl rfl⟩
  | ok displays => exact ⟨displays, .inr rfl⟩

end MainThread

namespace Adaptor

variable {setup : Setup} {adaptor : Adaptor}

/-- Entering a phase leaves the books. -/
@[simp] theorem enter_books (phase : Phase) : (adaptor.enter phase).books = adaptor.books := rfl

/-- The end of a phase leaves the books. -/
@[simp] theorem ending_books (result : EStateM.Result PyException Adaptor Unit) (phase : Phase) :
    (ending result phase).books = (finalState result).books := by
  cases result <;> rfl

/-- The reply that an action takes from its queue. -/
def handled (adaptor : Adaptor) : Action → Option UiReply
  | .proceed _ => if adaptor.phase = .reply then adaptor.queueMessagesFromUi.head? else none
  | _ => none

/-- What an action may do to the books. -/
inductive Turn (adaptor : Adaptor) (action : Action) (after : Books) : Prop where
  /-- Nothing. -/
  | quiet (same : after = adaptor.books)
  /-- A request is made of a user. -/
  | asked (circumstances : Circumstances) (request : UiMessage) (message : TtMessage)
    (proceeds : action = .proceed circumstances) (unhandled : adaptor.handled action = none)
    (named : request.correlationId = some circumstances.correlationId)
    (entered : after =
      { adaptor.books with
        requests := adaptor.books.requests ++ [request]
        pendingResponses := adaptor.books.pendingResponses.insert circumstances.correlationId
          (MainThread.entryOf request message) })
  /-- Displays and requests are published. -/
  | shown (k : Nat) (messages : List Publication)
    (unchained : messages.filterMap Publication.chained? = [])
    (published : after =
      { adaptor.books with
        requests := adaptor.books.requests.drop k
        bus := adaptor.books.bus ++ messages })
  /-- A reply to a pending request is handled. -/
  | replied (reply : UiReply) (id : String) (entry : PendingResponse)
    (answer : Option ChainedMessage) (handled : adaptor.handled action = some reply)
    (named : reply.correlationId = some (some id))
    (pending : adaptor.books.pendingResponses.get? id = some entry)
    (dropped : after =
      { adaptor.books with
        pendingResponses := adaptor.books.pendingResponses.erase id
        chained := adaptor.books.chained ++ answer.toList })
  /-- A message is sent to the testing tool. -/
  | sent (message : ChainedMessage) (rest : List ChainedMessage)
    (first : adaptor.books.chained = message :: rest)
    (published : after =
      { adaptor.books with
        chained := rest
        bus := adaptor.books.bus ++ [.chained message] })

/-- Displays are no messages for the testing tool. -/
theorem displays_unchained (displays : List UiMessage) :
    (displays.map Publication.display).filterMap Publication.chained? = [] := by
  simp [Publication.chained?]

/-- What an action does to the books. -/
theorem next_turn (setup : Setup) (adaptor : Adaptor) (action : Action) :
    Turn adaptor action (adaptor.next setup action).books := by
  cases action with
  | fromTt message =>
    refine .quiet ?_
    simp only [next]
    split <;> rfl
  | fromUi reply =>
    refine .quiet ?_
    simp only [next]
    split <;> rfl
  | interrupt => exact .quiet rfl
  | proceed circumstances =>
    change Turn adaptor _ (adaptor.proceed setup circumstances).books
    unfold proceed
    cases phase : adaptor.phase with
    | testingTool =>
      cases adaptor.queueMessagesFromTt with
      | nil => exact .quiet rfl
      | cons message rest =>
        dsimp only
        rw [ending_books]
        rcases MainThread.processMessageFromTestingTool_books message with same | asked
        · exact .quiet same
        · obtain ⟨request, named, entered⟩ := asked
          exact .asked circumstances request message rfl (by simp [handled, phase]) named entered
    | displays =>
      cases adaptor.queueMessagesDisplayToUi with
      | nil => exact .quiet rfl
      | cons message rest => exact .shown 0 [.display message] rfl rfl
    | request =>
      cases waiting : adaptor.queueMessagesRequestToUi with
      | nil => exact .quiet rfl
      | cons request rest =>
        dsimp only
        rw [ending_books]
        obtain ⟨displays, same | published⟩ := MainThread.publishUiRequest_books request
        · exact .shown 1 [] rfl (same.trans (by simp [books, waiting]))
        · refine .shown 1 (displays.map .display ++ [.request request]) ?_
            (published.trans (by simp [books, waiting]))
          rw [List.filterMap_append, displays_unchained]
          rfl
    | reply =>
      cases waiting : adaptor.queueMessagesFromUi with
      | nil => exact .quiet rfl
      | cons reply rest =>
        dsimp only
        rw [ending_books]
        rcases MainThread.processMessageFromUi_books reply with same | replied
        · exact .quiet same
        · obtain ⟨id, entry, named, pending, answer, dropped⟩ := replied
          exact .replied reply id entry answer (by simp [handled, phase, waiting]) named pending
            dropped
    | chained =>
      cases waiting : adaptor.queueMessagesToTt with
      | nil => exact .quiet rfl
      | cons message rest => exact .sent message rest waiting rfl
    | newUsers =>
      cases circumstances.newUsers with
      | error exception => exact .quiet rfl
      | ok displays => exact .shown 0 (displays.map .display) (displays_unchained displays) rfl
    | stopped => exact .quiet rfl

end Adaptor

end Ioppytest.UiAdaptor
