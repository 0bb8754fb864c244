import Ioppytest.UiAdaptor.Translator

/-!
# Replies that are rejected

A reply to a pending request that is malformed leads to no message for the testing tool: an
exception is raised, or the handler has nothing to return. Its entry has been dropped by then, so the
request cannot be answered any more.
-/

namespace Ioppytest.UiAdaptor

open Raising

/-- How a reply to a pending request is malformed. -/
inductive Malformed (lower : String → String) (entry : PendingResponse) (reply : UiReply) : Prop where
  /-- Its fields cannot be read. -/
  | unreadable {exception : PyException} (keys : getFieldKeysFromUiReply reply = .error exception)
  /-- It has no field. -/
  | noField (keys : getFieldKeysFromUiReply reply = .ok [])
  /-- It has several field names. -/
  | severalFields {names : List String} (keys : getFieldKeysFromUiReply reply = .ok names)
      (several : 1 < names.length)
  /-- Its field was not requested. -/
  | notRequested {name : String} (keys : getFieldKeysFromUiReply reply = .ok [name])
      (absent : name ∉ entry.uiRequestedFieldNameList)
  /-- Its answer to a verify step is no boolean. -/
  | noAnswer (keys : getFieldKeysFromUiReply reply = .ok ["verify_executed"])
      (answer : Translator.verifyAnswer lower
        (getFieldValueFromUiReply reply "verify_executed") = none)

namespace Translator

variable {setup : Setup} {translator : Translator} {entry : PendingResponse} {reply : UiReply}
  {id : String}

/-- The handler for a verify step returns no message without an answer. -/
theorem runHandler_noAnswer {userInput : UserInput} {origin : TtMessage}
    (answer : verifyAnswer setup.lower userInput = none) (message : ChainedMessage) :
    runHandler setup translator "verify_executed" userInput origin ≠ .ok (some message) := by
  unfold runHandler
  rw [uiToTtMessageTranslation, getTtMessageStepVerifyExecuted, answer]
  cases setup.translatorClass <;> exact fun wrong => by cases wrong

/-- A malformed reply leads to no message. -/
theorem chainedMessage_malformed (malformed : Malformed setup.lower entry reply)
    (message : ChainedMessage) : chainedMessage setup translator entry reply ≠ .ok (some message) := by
  intro translated
  unfold chainedMessage at translated
  cases malformed with
  | unreadable keys =>
    rw [keys] at translated
    cases translated
  | noField keys =>
    rw [keys] at translated
    cases translated
  | severalFields keys several =>
    rw [keys] at translated
    simp only [bind, Except.bind, if_pos several] at translated
    cases translated
  | notRequested keys absent =>
    rw [keys] at translated
    simp only [bind, Except.bind, List.length_singleton, lt_irrefl, ↓reduceIte, List.head?_cons,
      if_pos absent] at translated
    cases translated
  | noAnswer keys answer =>
    rw [keys] at translated
    by_cases absent : "verify_executed" ∉ entry.uiRequestedFieldNameList
    · simp only [bind, Except.bind, List.length_singleton, lt_irrefl, ↓reduceIte, List.head?_cons,
        if_pos absent] at translated
      cases translated
    · simp only [bind, Except.bind, List.length_singleton, lt_irrefl, ↓reduceIte, List.head?_cons,
        if_neg absent] at translated
      split at translated
      · cases translated
      · exact runHandler_noAnswer answer message translated

/-- Whatever becomes of a reply to a pending request, its entry is dropped and no other. -/
theorem translateUiToTtMessage_finalState (named : reply.correlationId = some (some id))
    (pending : translator.pendingResponses.get? id = some entry) :
    finalState ((translateUiToTtMessage setup reply).run translator) = translator.without id := by
  rw [translateUiToTtMessage_run named pending]
  cases chainedMessage setup (translator.without id) entry reply <;> rfl

/-- A reply is rejected: no message for the testing tool results. -/
def Rejects (setup : Setup) (translator : Translator) (reply : UiReply) : Prop :=
  ∀ message after, (translateUiToTtMessage setup reply).run translator ≠ .ok (some message) after

/-- The table of pending responses is the same after a reply as before. -/
def Keeps (setup : Setup) (translator : Translator) (reply : UiReply) : Prop :=
  (finalState ((translateUiToTtMessage setup reply).run translator)).pendingResponses =
    translator.pendingResponses

/-- **A reply that is rejected is always consumed.** -/
theorem malformed_consumed (setup : Setup) (translator : Translator) (reply : UiReply)
    (id : String) (entry : PendingResponse) (named : reply.correlationId = some (some id))
    (pending : translator.pendingResponses.get? id = some entry)
    (malformed : Malformed setup.lower entry reply) :
    Rejects setup translator reply ∧ ¬ Keeps setup translator reply := by
  constructor
  · intro message after translated
    rw [translateUiToTtMessage_run named pending] at translated
    cases chained : chainedMessage setup (translator.without id) entry reply with
    | error exception =>
      rw [chained] at translated
      cases translated
    | ok result =>
      rw [chained] at translated
      cases translated
      exact chainedMessage_malformed malformed message chained
  · unfold Keeps
    rw [translateUiToTtMessage_finalState named pending]
    intro same
    have gone : (translator.without id).pendingResponses.get? id = none := by
      rw [without, OrderedDict.get?_erase, if_pos rfl]
    rw [same, pending] at gone
    cases gone

/-- A session in which the answer to a verify step is pending. -/
def verifying : Translator where
  pendingResponses := OrderedDict.empty.insert "c1"
    ⟨["verify_executed", "verify_executed"], { routingKey := "ui.user.all.request" },
      { type := .stepVerifyExecute }⟩

/-- A reply that is neither a boolean nor one of the two strings. -/
def maybe : UiReply where
  correlationId := some (some "c1")
  fields := some (some [.dict (OrderedDict.empty.insert "verify_executed" (.text "maybe"))])

/-- The answer is malformed. -/
theorem maybe_malformed : Malformed Setup.plain.lower
    ⟨["verify_executed", "verify_executed"], { routingKey := "ui.user.all.request" },
      { type := .stepVerifyExecute }⟩ maybe :=
  .noAnswer rfl (by decide)

/-- The answer is dropped with its request. -/
theorem malformed_consumed_maybe :
    Rejects .plain verifying maybe ∧ ¬ Keeps .plain verifying maybe :=
  malformed_consumed .plain verifying maybe "c1" _ rfl rfl maybe_malformed

/-- Not every rejected reply leaves the table as it was. -/
theorem maybe_dropped : ¬ ∀ (setup : Setup) (translator : Translator) (reply : UiReply) (id : String)
    (entry : PendingResponse), reply.correlationId = some (some id) →
      translator.pendingResponses.get? id = some entry →
        Malformed setup.lower entry reply → Keeps setup translator reply := by
  intro kept
  have same := kept .plain verifying maybe "c1" _ rfl rfl maybe_malformed
  have emptied : (finalState ((translateUiToTtMessage .plain maybe).run
      verifying)).pendingResponses.get? "c1" = none := by
    rw [translateUiToTtMessage_finalState rfl rfl]
    rfl
  rw [same] at emptied
  cases emptied

end Translator

end Ioppytest.UiAdaptor
