import Ioppytest.UiAdaptor.Books
import Ioppytest.Lib.Correspondence

/-!
# One command for each request of a user

The messages for the testing tool that the UI adaptor sends are answers to its requests of users. An
observer notes which requests are made, which replies are handled and what is queued for the testing
tool meanwhile; what is sent is, in order, what was noted.
-/

namespace Ioppytest.UiAdaptor

namespace Adaptor

/-- Requests, replies and the messages for the testing tool that replies lead to. -/
abbrev Ledger : Type := Correspondence String ChainedMessage

/-- Note what an action does: the correlation ids of the requests that it queues, the one of the
reply that it handles, and the messages for the testing tool that it queues. -/
def observe (setup : Setup) (ledger : Ledger) (adaptor : Adaptor) (action : Action) : Ledger :=
  ledger.record
    (((adaptor.next setup action).queueMessagesRequestToUi.drop
      adaptor.queueMessagesRequestToUi.length).filterMap (·.correlationId))
    ((adaptor.handled action).bind (·.correlationId.join))
    ((adaptor.next setup action).queueMessagesToTt.drop adaptor.queueMessagesToTt.length)

/-- The states and ledgers that any actions lead to, from the start of the loop. -/
abbrev Reached (setup : Setup) (mapping : RoleMapping) (waiting : List TtMessage) :
    Adaptor × Ledger → Prop :=
  Runs.Observed (next setup) (fun _ _ => True) (observe setup) (initial mapping waiting, {})

/-- A request is pending. -/
def Pending (adaptor : Adaptor) (id : String) : Prop :=
  (adaptor.translator.pendingResponses.get? id).isSome

/-- What has been sent to the testing tool. -/
def sent (adaptor : Adaptor) : List ChainedMessage := adaptor.bus.filterMap Publication.chained?

/-- What was queued for the testing tool is sent in order. -/
def InOrder (adaptor : Adaptor) (ledger : Ledger) : Prop :=
  adaptor.sent ++ adaptor.queueMessagesToTt = ledger.answers.map Prod.snd

variable {setup : Setup} {adaptor : Adaptor} {ledger : Ledger} {action : Action}

/-- The observer only sees the books. -/
theorem observe_eq : observe setup ledger adaptor action =
    ledger.record
      (((adaptor.next setup action).books.requests.drop adaptor.books.requests.length).filterMap
        (·.correlationId))
      ((adaptor.handled action).bind (·.correlationId.join))
      ((adaptor.next setup action).books.chained.drop adaptor.books.chained.length) := rfl

/-- One action keeps the order. -/
theorem InOrder.step (order : InOrder adaptor ledger) :
    InOrder (adaptor.next setup action) (observe setup ledger adaptor action) := by
  change ((adaptor.next setup action).books.bus.filterMap Publication.chained?) ++
    (adaptor.next setup action).books.chained = _
  have before : adaptor.books.bus.filterMap Publication.chained? ++ adaptor.books.chained =
      ledger.answers.map Prod.snd := order
  rw [observe_eq]
  cases next_turn setup adaptor action with
  | quiet same => simp [same, before, Correspondence.record]
  | asked circumstances request message proceeds unhandled named entered =>
    simp [entered, before, Correspondence.record]
  | shown k messages unchained published =>
    simp [published, before, Correspondence.record, unchained]
  | replied reply id entry answer handled named pending dropped =>
    rw [dropped, handled, ← List.append_assoc, before]
    simp [named, Correspondence.record, Function.comp_def]
  | sent message rest first published =>
    rw [published]
    rw [first] at before
    simp [← before, first, Correspondence.record, Publication.chained?]

/-- What is asked is noted under its correlation id. -/
theorem observe_asked {id : String} {request : UiMessage} (unhandled : adaptor.handled action = none)
    (named : request.correlationId = some id)
    (requests : (adaptor.next setup action).books.requests = adaptor.books.requests ++ [request])
    (chained : (adaptor.next setup action).books.chained = adaptor.books.chained) :
    observe setup ledger adaptor action = ledger.record [id] none [] := by
  simp [observe_eq, unhandled, requests, chained, named]

/-- An action that queues nothing adds the reply that it handles, if it handles one. -/
theorem observe_queueless
    (requests : (adaptor.next setup action).books.requests.length ≤ adaptor.books.requests.length)
    (chained : (adaptor.next setup action).books.chained.length ≤ adaptor.books.chained.length) :
    observe setup ledger adaptor action =
      ledger.record [] ((adaptor.handled action).bind (·.correlationId.join)) [] := by
  rw [observe_eq, List.drop_eq_nil_of_le requests, List.drop_eq_nil_of_le chained,
    List.filterMap_nil]

/-- One action keeps the balance of requests and answers. -/
theorem balanced_step (balanced : Correspondence.Balanced adaptor.Pending ledger)
    (unique : (observe setup ledger adaptor action).requests.Nodup) :
    Correspondence.Balanced (adaptor.next setup action).Pending
      (observe setup ledger adaptor action) := by
  have table (id : String) : (adaptor.next setup action).Pending id ↔
      ((adaptor.next setup action).books.pendingResponses.get? id).isSome := Iff.rfl
  cases next_turn setup adaptor action with
  | quiet same =>
    rw [observe_queueless (by simp [same]) (by simp [same])]
    exact balanced.note _ fun id there => by rwa [table, same] at there
  | asked circumstances request message proceeds unhandled named entered =>
    have noted : observe setup ledger adaptor action =
        ledger.record [circumstances.correlationId] none [] :=
      observe_asked unhandled named (by rw [entered]) (by rw [entered])
    rw [noted] at unique ⊢
    have fresh := (Correspondence.unique_of_record unique).2 _ List.mem_cons_self
    refine balanced.ask fresh fun id there => ?_
    rw [table, entered, OrderedDict.get?_insert] at there
    split at there
    · rename_i same
      exact .inr same
    · exact .inl there
  | shown k messages unchained published =>
    rw [observe_queueless (by simp [published]) (by simp [published])]
    exact balanced.note _ fun id there => by rwa [table, published] at there
  | replied reply id entry answer handled named pending dropped =>
    have noted : observe setup ledger adaptor action =
        ledger.record [] (some id) answer.toList := by
      simp [observe_eq, dropped, handled, named]
    have remains (other : String) (there : (adaptor.next setup action).Pending other) :
        adaptor.Pending other ∧ other ≠ id := by
      rw [table, dropped, OrderedDict.get?_erase] at there
      split at there
      · cases there
      · rename_i apart
        exact ⟨there, apart⟩
    rw [noted]
    cases answer with
    | none => exact balanced.note _ fun other there => (remains other there).1
    | some message =>
      exact balanced.answer message (Option.isSome_iff_exists.mpr ⟨entry, pending⟩) remains
  | sent message rest first published =>
    rw [observe_queueless (by simp [published]) (by simp [published, first])]
    exact balanced.note _ fun id there => by rwa [table, published] at there

/-- The books balance in every state that is reached, as long as correlation ids are unique. -/
theorem reached_balanced {mapping : RoleMapping} {waiting : List TtMessage}
    {pair : Adaptor × Ledger} (reached : Reached setup mapping waiting pair)
    (unique : pair.2.requests.Nodup) :
    InOrder pair.1 pair.2 ∧ Correspondence.Balanced pair.1.Pending pair.2 := by
  induction reached with
  | init => exact ⟨rfl, Correspondence.balanced_empty fun _ => Bool.false_ne_true⟩
  | step earlier permitted ih =>
    obtain ⟨order, balanced⟩ := ih (Correspondence.unique_of_record unique).1
    exact ⟨order.step, balanced_step balanced unique⟩

/-- A reply to one request leaves the entries of the others alone, and nothing else removes one. -/
theorem entry_kept (balanced : Correspondence.Balanced adaptor.Pending ledger)
    (unique : (observe setup ledger adaptor action).requests.Nodup) {id : String}
    {entry : PendingResponse} (there : adaptor.translator.pendingResponses.get? id = some entry)
    (others : ∀ reply, adaptor.handled action = some reply →
      reply.correlationId ≠ some (some id)) :
    (adaptor.next setup action).translator.pendingResponses.get? id = some entry := by
  change (adaptor.next setup action).books.pendingResponses.get? id = some entry
  cases next_turn setup adaptor action with
  | quiet same => rwa [same]
  | asked circumstances request message proceeds unhandled named entered =>
    have noted : observe setup ledger adaptor action =
        ledger.record [circumstances.correlationId] none [] :=
      observe_asked unhandled named (by rw [entered]) (by rw [entered])
    rw [noted] at unique
    have fresh := (Correspondence.unique_of_record unique).2 _ List.mem_cons_self
    have apart : id ≠ circumstances.correlationId := by
      rintro rfl
      exact fresh (balanced.asked _ (Option.isSome_iff_exists.mpr ⟨entry, there⟩))
    rw [entered, OrderedDict.get?_insert, if_neg apart]
    exact there
  | shown k messages unchained published => rwa [published]
  | replied reply other entry answer handled named pending dropped =>
    have apart : id ≠ other := by
      rintro rfl
      exact others reply handled named
    rw [dropped, OrderedDict.get?_erase, if_neg apart]
    exact there
  | sent message rest first published => rwa [published]

/-- What has been sent to the testing tool goes back to requests of users. -/
structure OnePerRequest (adaptor : Adaptor) (ledger : Ledger) : Prop where
  /-- What was sent, and what waits for it, was made of replies, in order. -/
  sent : InOrder adaptor ledger
  /-- At most one message was made for each request. -/
  once : (ledger.answers.map Prod.fst).Nodup
  /-- It was made for a request that a user had been asked. -/
  requested : ∀ answer ∈ ledger.answers, answer.1 ∈ ledger.requests
  /-- It was made after a reply with the correlation id of the request. -/
  replied : ∀ answer ∈ ledger.answers, answer.1 ∈ ledger.replies

/-- **Each request of a user leads to at most one command**, whatever arrives when. -/
theorem one_per_request (setup : Setup) (mapping : RoleMapping) (waiting : List TtMessage)
    (adaptor : Adaptor) (ledger : Ledger)
    (reached : Reached setup mapping waiting (adaptor, ledger)) (unique : ledger.requests.Nodup) :
    OnePerRequest adaptor ledger ∧
      ∀ action id entry, (observe setup ledger adaptor action).requests.Nodup →
        adaptor.translator.pendingResponses.get? id = some entry →
          (∀ reply, adaptor.handled action = some reply →
            reply.correlationId ≠ some (some id)) →
              (adaptor.next setup action).translator.pendingResponses.get? id = some entry := by
  obtain ⟨order, balanced⟩ := reached_balanced reached unique
  refine ⟨⟨order, balanced.once, fun answer member => (balanced.answered answer member).1,
    fun answer member => (balanced.answered answer member).2.1⟩, ?_⟩
  exact fun action id entry later there others => entry_kept balanced later there others

/-- The user confirms. -/
def confirmation : UiReply where
  correlationId := some (some "c1")
  fields := some (some [.dict (OrderedDict.empty.insert "verify_executed" (.boolean true))])

/-- A user is asked to verify a step and confirms twice. -/
def confirmedTwice : List Action :=
  [.proceed ⟨.ok none, "c1", "", .ok []⟩, .fromUi confirmation, .fromUi confirmation] ++
    List.replicate 15 (.proceed ⟨.ok none, "c2", "", .ok []⟩)

/-- The state and the ledger afterwards. -/
def afterwards : Adaptor × Ledger :=
  confirmedTwice.foldl (Runs.observed (next .plain) (observe .plain))
    (initial .empty [{ type := .stepVerifyExecute }], {})

/-- One message is sent for the two confirmations. -/
theorem one_per_request_confirmed :
    OnePerRequest afterwards.1 afterwards.2 ∧
      afterwards.1.sent = [.stepVerifyExecuted "bool" true] :=
  ⟨(one_per_request .plain .empty [{ type := .stepVerifyExecute }] afterwards.1 afterwards.2
    (Runs.reachable_foldl (fun _ _ => trivial) confirmedTwice) (by decide +kernel)).1,
    by decide +kernel⟩

end Adaptor

end Ioppytest.UiAdaptor
