import Ioppytest.UiAdaptor.Answers
import Ioppytest.UiAdaptor.Desk
import Ioppytest.Lib.Framing

/-!
# From a message of the testing tool to the answer of a user

What the main loop does on the way of a question: a message of the testing tool is taken from its
queue, a request with buttons is made and published, a reply is taken from the other queue, and the
answer is sent to the testing tool. Every part of the loop does one of these things, or none.
-/

namespace Ioppytest.UiAdaptor

open Framing Raising

/-- What the buttons of a request are called, and what pressing them replies. -/
def UiMessage.buttons (request : UiMessage) : List (String × UserInput) :=
  request.fields.filterMap fun field => field.name.map (·, field.value)

/-- The buttons that a question about a message may have. -/
def Offered (type : TtMessageType) (name : String) (value : UserInput) : Prop :=
  match type with
  | .testCaseReady => name = "tc_start" ∨ name = "tc_skip"
  | .stepStimuliExecute => name = "stimuli_executed"
  | .stepVerifyExecute => name = "verify_executed" ∧ ∃ response, value = .boolean response
  | .testCaseVerdict => name = "restart_testcase"
  | _ => False

/-- Users are asked on a message of this type. -/
def TtMessageType.asks (type : TtMessageType) : Bool :=
  (Translator.ttToUiMessageTranslation type).isSome

/-- The names that a request shows are those of its buttons. -/
theorem fst_buttons (request : UiMessage) :
    request.buttons.map Prod.fst = getFieldKeysFromUiRequest request := by
  unfold UiMessage.buttons getFieldKeysFromUiRequest
  rw [List.map_filterMap]
  congr 1
  funext field
  cases field.name <;> rfl

/-- A question shows the buttons for its message. -/
theorem buttons_asked {setup : Setup} {translator : Translator} {correlationId : String}
    {message : TtMessage} {request : UiMessage}
    (asked : translator.getUiRequestActionMessage setup correlationId message = .ok (some request)) :
    message.type.asks = true ∧
      ∀ button ∈ request.buttons, Offered message.type button.1 button.2 := by
  unfold Translator.getUiRequestActionMessage at asked
  unfold TtMessageType.asks
  split at asked
  · cases asked
  · cases asked
  · rename_i action found _
    cases asked
    rw [found]
    refine ⟨rfl, ?_⟩
    unfold Translator.ttToUiMessageTranslation at found
    split at found <;> cases found <;>
      simp [UiMessage.buttons, Offered, Translator.uiRequestTestcaseStart,
        Translator.uiRequestStepStimuliExecuted, Translator.uiRequestStepVerification,
        Translator.uiRequestTestcaseRestart, Translator.button, Translator.paragraph, *]

/-- A tag is no button. -/
@[simp] theorem tagMessage_buttons (translator : Translator) (request : UiMessage) :
    (translator.tagMessage request).buttons = request.buttons := by
  unfold Translator.tagMessage
  split
  · split <;> rfl
  · rfl

/-- Neither is an address. -/
theorem updateUiMessageRkeys_buttons {mapping : RoleMapping} {request addressed : UiMessage}
    {ttMessage : Option TtMessage} {userId : Option String}
    (run : Publisher.updateUiMessageRkeys mapping request ttMessage userId = .ok addressed) :
    addressed.buttons = request.buttons := by
  unfold Publisher.updateUiMessageRkeys at run
  dsimp only at run
  split at run
  · split at run <;> cases run <;> rfl
  · cases run

/-- Where questions and answers are, in the order in which they go through these places. -/
structure Dealings where
  /-- Messages of the testing tool that have been received. -/
  messages : List TtMessage
  /-- The table of pending responses. -/
  pendingResponses : OrderedDict String PendingResponse
  /-- Requests that wait for being published. -/
  waiting : List UiMessage
  /-- Requests that have been published. -/
  asked : List UiMessage
  /-- Replies that have been received. -/
  replies : List UiReply
  /-- Messages that wait for being sent to the testing tool. -/
  answers : List ChainedMessage
  /-- Messages that have been sent to the testing tool. -/
  answered : List ChainedMessage

/-- The dealings of an adaptor. -/
def Adaptor.dealings (adaptor : Adaptor) : Dealings where
  messages := adaptor.queueMessagesFromTt
  pendingResponses := adaptor.translator.pendingResponses
  waiting := adaptor.queueMessagesRequestToUi
  asked := adaptor.bus.filterMap Publication.request?
  replies := adaptor.queueMessagesFromUi
  answers := adaptor.queueMessagesToTt
  answered := adaptor.bus.filterMap Publication.chained?

namespace MainThread

variable (setup : Setup) (circumstances : Circumstances) (adaptor : Adaptor)

/-- Echoing a message is no matter of questions. -/
theorem echoMessage_dealings (message : TtMessage) :
    Leaves Adaptor.dealings (echoMessage circumstances message) := by
  unfold echoMessage
  split
  · refine (leaves_lift _).bind fun shown => ?_
    cases shown with
    | none => exact leaves_pure ()
    | some uiDisplayMessage =>
      refine leaves_get.bind fun state => (leaves_lift _).bind fun addressed => ?_
      exact leaves_modify fun _ => rfl
  · exact leaves_pure ()

/-- What a question about a message comes to: nothing is asked, or the request gets an entry in the
table of pending responses. -/
inductive Asks (circumstances : Circumstances) (message : TtMessage) (before : Dealings) :
    EStateM.Result PyException Adaptor Unit → Prop
  | silent {result : EStateM.Result PyException Adaptor Unit} :
      (finalState result).dealings = before → (raised result).isSome ∨ message.type.asks = false →
      Asks circumstances message before result
  | asked {result : EStateM.Result PyException Adaptor Unit} (request : UiMessage) :
      message.type.asks = true → request.correlationId = some circumstances.correlationId →
      (∀ button ∈ request.buttons, Offered message.type button.1 button.2) →
      (finalState result).dealings =
        { before with
          waiting := before.waiting ++ [request]
          pendingResponses := before.pendingResponses.insert circumstances.correlationId
            (entryOf request message) } →
      Asks circumstances message before result

variable {setup} in
/-- Requesting input asks one question at most. -/
theorem requestInput_asks (coap : setup.translatorClass = .coap) (message : TtMessage) :
    Asks circumstances message adaptor.dealings
      ((requestInput setup circumstances message).run adaptor) := by
  unfold requestInput
  simp only [EStateM.run_bind, EStateM.run_get]
  cases asked : adaptor.translator.getUiRequestActionMessage setup circumstances.correlationId
      message with
  | error exception => exact .silent rfl (.inl rfl)
  | ok request =>
    cases request with
    | none =>
      refine .silent rfl (.inr ?_)
      unfold Translator.getUiRequestActionMessage at asked
      rw [coap] at asked
      unfold TtMessageType.asks
      split at asked
      · rename_i absent
        rw [absent]
        rfl
      · cases asked
      · cases asked
    | some uiRequestMessage =>
      simp only [run_lift_ok, EStateM.run_bind, EStateM.run_get]
      cases run : Publisher.updateUiMessageRkeys adaptor.mapping
          (adaptor.translator.tagMessage uiRequestMessage) (some message) none with
      | error exception => exact .silent rfl (.inl rfl)
      | ok addressed =>
        obtain ⟨asks, offered⟩ := buttons_asked asked
        have named : addressed.correlationId = some circumstances.correlationId := by
          rw [Publisher.updateUiMessageRkeys_correlationId run,
            Translator.tagMessage_correlationId,
            Translator.getUiRequestActionMessage_correlationId asked]
        have shown : addressed.buttons = uiRequestMessage.buttons := by
          rw [updateUiMessageRkeys_buttons run, tagMessage_buttons]
        rw [← shown] at offered
        refine .asked addressed asks named offered ?_
        simp only [run_lift_ok, EStateM.run_modify, named, run_expect_some]
        rfl

variable {setup} in
/-- So does handling a message of the testing tool. -/
theorem processMessageFromTestingTool_asks (coap : setup.translatorClass = .coap)
    (message : TtMessage) :
    Asks circumstances message adaptor.dealings
      ((processMessageFromTestingTool setup circumstances message).run adaptor) := by
  let updated := { adaptor with translator := adaptor.translator.updateState message }
  have echoed := echoMessage_dealings circumstances message updated
  have same : updated.dealings = adaptor.dealings := rfl
  have run : (processMessageFromTestingTool setup circumstances message).run adaptor =
      andThen ((echoMessage circumstances message).run updated)
        (requestInput setup circumstances message).run := run_seq _ _ updated
  rw [run]
  cases echo : (echoMessage circumstances message).run updated with
  | error exception after =>
    rw [echo] at echoed
    exact .silent (echoed.trans same) (.inl rfl)
  | ok _ after =>
    rw [echo] at echoed
    have left : after.dealings = adaptor.dealings := echoed.trans same
    rw [andThen_ok, ← left]
    exact requestInput_asks circumstances after coap message

/-- What handling a reply comes to: it is not about a pending question, or it drops the entry of one,
and leads to what the translator makes of it. -/
inductive Replies (setup : Setup) (reply : UiReply) (before : Adaptor) :
    EStateM.Result PyException Adaptor Unit → Prop
  | ignored {result : EStateM.Result PyException Adaptor Unit} :
      (finalState result).dealings = before.dealings →
      (raised result).isSome ∨ before.translator.isPendingResponse reply = false →
      Replies setup reply before result
  | answered {result : EStateM.Result PyException Adaptor Unit} (id : String)
      (entry : PendingResponse) : reply.correlationId = some (some id) →
      before.translator.pendingResponses.get? id = some entry →
      (finalState result).dealings =
        { before.dealings with
          pendingResponses := before.dealings.pendingResponses.erase id
          answers := before.dealings.answers ++ (Except.toOption (Translator.chainedMessage setup
            (before.translator.without id) entry reply)).join.toList } →
      Replies setup reply before result

/-- Handling a reply answers one question at most. -/
theorem processMessageFromUi_replies (reply : UiReply) :
    Replies setup reply adaptor ((processMessageFromUi setup circumstances reply).run adaptor) := by
  unfold processMessageFromUi
  cases reply.fields with
  | none => exact .ignored rfl (.inl rfl)
  | some fields =>
    simp only [EStateM.run_bind, run_expect_some, EStateM.run_modify, EStateM.run_get, run_ite]
    generalize before : adaptor.putDisplay _ = shown
    have same : shown.dealings = adaptor.dealings := by
      rw [← before]
      rfl
    have kept : shown.translator = adaptor.translator := by
      rw [← before]
      rfl
    cases pending : adaptor.translator.isPendingResponse reply with
    | false =>
      rw [if_neg (by simp [kept, pending])]
      exact .ignored same (.inr pending)
    | true =>
      obtain ⟨id, entry, named, found⟩ := Translator.isPendingResponse_iff.mp pending
      rw [if_pos (by rw [kept, pending]), run_call,
        Translator.translateUiToTtMessage_run named (by rwa [kept]), kept]
      refine .answered id entry named found ?_
      rw [← same]
      cases Translator.chainedMessage setup (adaptor.translator.without id) entry reply with
      | error exception =>
        simp [Adaptor.dealings, Translator.without, Except.toOption, kept]
      | ok response =>
        cases response with
        | none => simp [Adaptor.dealings, Translator.without, Except.toOption, kept]
        | some responseToTt =>
          simp [Adaptor.dealings, Adaptor.putChained, Translator.without, Except.toOption, kept]

/-- A request is published, unless an exception is raised. -/
theorem publishUiRequest_dealings (request : UiMessage) :
    (finalState ((publishUiRequest setup request).run adaptor)).dealings =
        { adaptor.dealings with asked := adaptor.dealings.asked ++ [request] } ∨
      (finalState ((publishUiRequest setup request).run adaptor)).dealings = adaptor.dealings ∧
        (raised ((publishUiRequest setup request).run adaptor)).isSome := by
  unfold publishUiRequest
  simp only [EStateM.run_bind, EStateM.run_get]
  cases Publisher.waitingDisplays adaptor.mapping setup.library request with
  | error exception => exact .inr ⟨rfl, rfl⟩
  | ok displays =>
    refine .inl ?_
    have shown : (displays.map Publication.display).filterMap Publication.request? = [] := by
      simp [Publication.request?]
    have sent : (displays.map Publication.display).filterMap Publication.chained? = [] := by
      simp [Publication.chained?]
    simp [Adaptor.dealings, Adaptor.publish, List.filterMap_append, shown, sent,
      Publication.request?, Publication.chained?]

end MainThread

/-- What the main thread does next on the way of a question. -/
inductive Deal (setup : Setup) (circumstances : Circumstances) (before after : Adaptor) : Prop
  /-- Nothing. -/
  | idle : after.dealings = before.dealings → Deal setup circumstances before after
  /-- A message is received, and nobody is asked. -/
  | heard (message : TtMessage) (rest : List TtMessage) :
      before.dealings.messages = message :: rest →
      after.dealings = { before.dealings with messages := rest } →
      message.type.asks = false ∨ after.phase = .stopped → Deal setup circumstances before after
  /-- A message is received, and a request is made. -/
  | asked (message : TtMessage) (rest : List TtMessage) (request : UiMessage) :
      before.dealings.messages = message :: rest → message.type.asks = true →
      request.correlationId = some circumstances.correlationId →
      (∀ button ∈ request.buttons, Offered message.type button.1 button.2) →
      after.dealings =
        { before.dealings with
          messages := rest
          waiting := before.dealings.waiting ++ [request]
          pendingResponses := before.dealings.pendingResponses.insert circumstances.correlationId
            (MainThread.entryOf request message) } → Deal setup circumstances before after
  /-- A request is published. -/
  | published (request : UiMessage) (rest : List UiMessage) :
      before.dealings.waiting = request :: rest →
      after.dealings =
        { before.dealings with waiting := rest, asked := before.dealings.asked ++ [request] } →
      Deal setup circumstances before after
  /-- A request is given up, and the loop ends. -/
  | dropped (request : UiMessage) (rest : List UiMessage) :
      before.dealings.waiting = request :: rest →
      after.dealings = { before.dealings with waiting := rest } → after.phase = .stopped →
      Deal setup circumstances before after
  /-- A reply is received that is not about a pending question. -/
  | ignored (reply : UiReply) (rest : List UiReply) :
      before.dealings.replies = reply :: rest →
      after.dealings = { before.dealings with replies := rest } →
      Deal setup circumstances before after
  /-- A reply is received that answers a question. -/
  | answered (reply : UiReply) (rest : List UiReply) (id : String) (entry : PendingResponse) :
      before.dealings.replies = reply :: rest → reply.correlationId = some (some id) →
      before.dealings.pendingResponses.get? id = some entry →
      after.dealings =
        { before.dealings with
          replies := rest
          pendingResponses := before.dealings.pendingResponses.erase id
          answers := before.dealings.answers ++ (Except.toOption (Translator.chainedMessage setup
            (before.translator.without id) entry reply)).join.toList } →
      Deal setup circumstances before after
  /-- An answer is sent to the testing tool. -/
  | sent (message : ChainedMessage) (rest : List ChainedMessage) :
      before.dealings.answers = message :: rest →
      after.dealings =
        { before.dealings with
          answers := rest, answered := before.dealings.answered ++ [message] } →
      Deal setup circumstances before after

namespace Adaptor

variable {setup : Setup} {circumstances : Circumstances} {adaptor : Adaptor}

/-- Entering a phase leaves the dealings. -/
@[simp] theorem enter_dealings (phase : Phase) :
    (adaptor.enter phase).dealings = adaptor.dealings := rfl

/-- The end of a phase leaves the dealings. -/
@[simp] theorem ending_dealings (result : EStateM.Result PyException Adaptor Unit) (phase : Phase) :
    (ending result phase).dealings = (finalState result).dealings := by
  cases result <;> rfl

/-- An exception ends the loop. -/
theorem ending_stopped {result : EStateM.Result PyException Adaptor Unit}
    (raises : (raised result).isSome) (phase : Phase) : (ending result phase).phase = .stopped := by
  cases result with
  | ok _ _ => cases raises
  | error exception after => rfl

/-- Displays are no matter of questions. -/
theorem publish_displays_dealings (adaptor : Adaptor) (displays : List UiMessage) :
    (adaptor.publish (displays.map .display)).dealings = adaptor.dealings := by
  simp [dealings, publish, List.filterMap_append, Publication.request?, Publication.chained?]

/-- **Each part of the loop takes one thing a step further.** -/
theorem proceed_deal (coap : setup.translatorClass = .coap) :
    Deal setup circumstances adaptor (adaptor.proceed setup circumstances) := by
  unfold proceed
  cases adaptor.phase with
  | testingTool =>
    cases waiting : adaptor.queueMessagesFromTt with
    | nil => exact .idle rfl
    | cons message rest =>
      dsimp only
      have asks := MainThread.processMessageFromTestingTool_asks circumstances
        { adaptor with queueMessagesFromTt := rest, phase := .testingTool } coap message
      cases asks with
      | silent same quiet =>
        refine .heard message rest waiting ((ending_dealings _ _).trans same) ?_
        exact quiet.symm.imp_right (ending_stopped · _)
      | asked request asks named offered entered =>
        exact .asked message rest request waiting asks named offered
          ((ending_dealings _ _).trans entered)
  | displays =>
    cases adaptor.queueMessagesDisplayToUi with
    | nil => exact .idle rfl
    | cons message rest =>
      exact .idle (publish_displays_dealings
        { adaptor with queueMessagesDisplayToUi := rest, phase := .displays } [message])
  | request =>
    cases waiting : adaptor.queueMessagesRequestToUi with
    | nil => exact .idle rfl
    | cons request rest =>
      dsimp only
      rcases MainThread.publishUiRequest_dealings setup
        { adaptor with queueMessagesRequestToUi := rest, phase := .request } request with
        published | ⟨same, raised⟩
      · exact .published request rest waiting ((ending_dealings _ _).trans published)
      · exact .dropped request rest waiting ((ending_dealings _ _).trans same)
          (ending_stopped raised _)
  | reply =>
    cases waiting : adaptor.queueMessagesFromUi with
    | nil => exact .idle rfl
    | cons reply rest =>
      dsimp only
      have replies := MainThread.processMessageFromUi_replies setup circumstances
        { adaptor with queueMessagesFromUi := rest, phase := .reply } reply
      cases replies with
      | ignored same _ =>
        exact .ignored reply rest waiting ((ending_dealings _ _).trans same)
      | answered id entry named found entered =>
        exact .answered reply rest id entry waiting named found
          ((ending_dealings _ _).trans entered)
  | chained =>
    cases waiting : adaptor.queueMessagesToTt with
    | nil => exact .idle rfl
    | cons message rest =>
      refine .sent message rest waiting ?_
      simp [dealings, publish, List.filterMap_append, Publication.request?, Publication.chained?]
  | newUsers =>
    cases circumstances.newUsers with
    | error exception => exact .idle rfl
    | ok displays =>
      exact .idle (publish_displays_dealings { adaptor with phase := .newUsers } displays)
  | stopped => exact .idle rfl

/-- A loop that has ended does nothing. -/
theorem proceed_stopped (stopped : adaptor.phase = .stopped) :
    adaptor.proceed setup circumstances = adaptor := by
  rw [proceed, stopped]

end Adaptor

/-- A button of a request has been pressed, but not the one that runs a test case again. -/
def Presses (request : UiMessage) (reply : UiReply) : Prop :=
  ∃ id name value, request.correlationId = some id ∧ (name, value) ∈ request.buttons ∧
    name ≠ "restart_testcase" ∧ reply = .ofField id name value

/-- An id that no request has. -/
structure Dealings.Fresh (dealings : Dealings) (id : String) : Prop where
  /-- There is no entry for it. -/
  entries : dealings.pendingResponses.get? id = none
  /-- No request was made with it. -/
  requests : ∀ request ∈ dealings.waiting ++ dealings.asked, request.correlationId ≠ some id

/-- The answer is one to a question about the message. -/
def ChainedMessage.Answers (message : TtMessage) (answer : ChainedMessage) : Prop :=
  match message.type with
  | .testCaseReady => (∃ id, answer = .testCaseStart id) ∨
      ∃ id, message.testcaseId = some id ∧ answer = .testCaseSkip id
  | .stepStimuliExecute => ∃ node mode, answer = .stepStimuliExecuted node mode
  | .stepVerifyExecute => ∃ type response, answer = .stepVerifyExecuted type response
  | _ => False

/-- Where a question is, on its way from the coordinator to the users and back. -/
inductive Matter where
  /-- The UI adaptor is to receive the message on which it asks. -/
  | announced (message : TtMessage)
  /-- Its answer is pending. -/
  | pending (message : TtMessage)
  /-- The answer is on its way to the coordinator. -/
  | answered (event : Event)
  deriving DecidableEq

/-- The coordinator waits for the answer to a question on a message of this type. -/
def TtMessageType.awaited : TtMessageType → Bool
  | .testCaseReady => true
  | .stepStimuliExecute => true
  | .stepVerifyExecute => true
  | _ => false

/-- The question that the UI adaptor has on a message, if the coordinator waits for the answer. -/
def announced? (message : TtMessage) : Option Matter :=
  if message.type.awaited then some (.announced message) else none

/-- The question of an entry of the table of pending responses. -/
def pending? (entry : PendingResponse) : Option Matter :=
  if entry.ttRequestOriginator.type.awaited then some (.pending entry.ttRequestOriginator) else none

/-- The questions that the UI adaptor is dealing with, the ones closest to an answer first. -/
def Dealings.matters (node : Option String) (dealings : Dealings) : List Matter :=
  (dealings.answers.filterMap (·.event? node)).map .answered ++
    dealings.pendingResponses.items.filterMap (pending? ·.2) ++
    dealings.messages.filterMap announced?

/-- A question is about a message, and its answer is one to it. -/
def Matter.Concerns (node : Option String) (prompt : TtMessage) : Matter → Prop
  | .announced message => message = prompt
  | .pending message => message = prompt
  | .answered event => ∃ answer : ChainedMessage,
      answer.Answers prompt ∧ answer.event? node = some event

end Ioppytest.UiAdaptor
