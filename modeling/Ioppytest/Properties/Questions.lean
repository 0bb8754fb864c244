import Ioppytest.UiAdaptor.Questions

/-!
# No question is lost or answered twice

Every entry of the table of pending responses is that of a request that was made, and a reply to it
presses one of its buttons. So the main loop conserves the questions whose answers the coordinator
waits for: each of them is with the UI adaptor, with the users, or on its way back.
-/

namespace Ioppytest.UiAdaptor

/-- The entry shows the buttons of its request, which are those for its message. -/
structure PendingResponse.Proper (entry : PendingResponse) (id : String) : Prop where
  /-- The request has the id of the entry. -/
  named : entry.uiRequestMessage.correlationId = some id
  /-- The names are those of the buttons. -/
  names : entry.uiRequestedFieldNameList = entry.uiRequestMessage.buttons.map Prod.fst
  /-- Users are asked on the message. -/
  asks : entry.ttRequestOriginator.type.asks = true
  /-- The buttons are those for the message. -/
  offered : ∀ button ∈ entry.uiRequestMessage.buttons,
    Offered entry.ttRequestOriginator.type button.1 button.2

namespace Dealings

/-- Questions and replies are about requests that were made. -/
structure Orderly (dealings : Dealings) : Prop where
  /-- Entries are those of questions. -/
  entries : ∀ id entry, dealings.pendingResponses.get? id = some entry → entry.Proper id
  /-- A request has its own entry, if it has any. -/
  requests : ∀ request ∈ dealings.waiting ++ dealings.asked, ∀ id entry,
    request.correlationId = some id → dealings.pendingResponses.get? id = some entry →
      entry.uiRequestMessage = request
  /-- Replies are made by pressing a button. -/
  replies : ∀ reply ∈ dealings.replies, ∃ request ∈ dealings.asked, Presses request reply

variable {dealings : Dealings}

/-- A request that is made gets an entry. -/
theorem Orderly.ask {message : TtMessage} {request : UiMessage} {id : String}
    (orderly : dealings.Orderly) (fresh : dealings.Fresh id) (rest : List TtMessage)
    (asks : message.type.asks = true) (named : request.correlationId = some id)
    (offered : ∀ button ∈ request.buttons, Offered message.type button.1 button.2) :
    Orderly
      { dealings with
        messages := rest
        waiting := dealings.waiting ++ [request]
        pendingResponses := dealings.pendingResponses.insert id
          (MainThread.entryOf request message) } := by
  constructor
  · intro other entry found
    rw [OrderedDict.get?_insert] at found
    split at found
    · rename_i same
      cases found
      rw [same]
      exact ⟨named, (fst_buttons request).symm, asks, offered⟩
    · exact orderly.entries other entry found
  · intro made member other entry called found
    rw [OrderedDict.get?_insert] at found
    rw [List.append_assoc, List.mem_append, List.mem_append, List.mem_singleton] at member
    by_cases here : made = request
    · have same : other = id := Option.some.inj (called.symm.trans (by rw [here, named]))
      rw [if_pos same] at found
      cases found
      exact here.symm
    · have before : made ∈ dealings.waiting ++ dealings.asked := by
        rw [List.mem_append]
        exact member.imp_right (·.resolve_left here)
      have apart : other ≠ id := fun same => fresh.requests made before (by rw [called, same])
      rw [if_neg apart] at found
      exact orderly.requests made before other entry called found
  · exact orderly.replies

/-- An entry is dropped. -/
theorem Orderly.drop (orderly : dealings.Orderly) (id : String) {rest : List UiReply}
    (fewer : ∀ reply ∈ rest, reply ∈ dealings.replies) (answers : List ChainedMessage) :
    Orderly
      { dealings with
        replies := rest
        pendingResponses := dealings.pendingResponses.erase id
        answers } := by
  have kept {other : String} {entry : PendingResponse}
      (found : (dealings.pendingResponses.erase id).get? other = some entry) :
      dealings.pendingResponses.get? other = some entry := by
    rw [OrderedDict.get?_erase] at found
    split at found
    · cases found
    · exact found
  constructor
  · intro other entry found
    exact orderly.entries other entry (kept found)
  · intro request member other entry named found
    exact orderly.requests request member other entry named (kept found)
  · intro reply member
    exact orderly.replies reply (fewer reply member)

/-- A reply that answers a question presses one of its buttons. -/
theorem Orderly.pressed {reply : UiReply} {id : String} {entry : PendingResponse}
    (orderly : dealings.Orderly) (member : reply ∈ dealings.replies)
    (named : reply.correlationId = some (some id))
    (found : dealings.pendingResponses.get? id = some entry) :
    ∃ name value, reply = .ofField id name value ∧ name ∈ entry.uiRequestedFieldNameList ∧
      Offered entry.ttRequestOriginator.type name value ∧ name ≠ "restart_testcase" := by
  obtain ⟨request, published, other, name, value, called, button, kind, rfl⟩ :=
    orderly.replies reply member
  obtain rfl : other = id := Option.some.inj (Option.some.inj named)
  have same : entry.uiRequestMessage = request :=
    orderly.requests request (List.mem_append_right _ published) other entry called found
  have proper := orderly.entries other entry found
  rw [← same] at button
  refine ⟨name, value, rfl, ?_, proper.offered (name, value) button, kind⟩
  rw [proper.names]
  exact List.mem_map_of_mem button

end Dealings

/-- **The parts of the loop keep the dealings orderly**, as long as the ids of requests are new. -/
theorem Deal.orderly {setup : Setup} {circumstances : Circumstances} {before after : Adaptor}
    (deal : Deal setup circumstances before after)
    (fresh : before.dealings.Fresh circumstances.correlationId)
    (orderly : before.dealings.Orderly) : after.dealings.Orderly := by
  cases deal with
  | idle same =>
    rw [same]
    exact orderly
  | heard message rest _ entered _ =>
    rw [entered]
    exact ⟨orderly.entries, orderly.requests, orderly.replies⟩
  | asked message rest request _ asks named offered entered =>
    rw [entered]
    exact orderly.ask fresh rest asks named offered
  | published request rest waiting entered =>
    rw [entered]
    refine ⟨orderly.entries, fun made member => orderly.requests made ?_, fun reply member => ?_⟩
    · rw [waiting]
      simp only [List.mem_append, List.mem_cons, List.not_mem_nil, or_false] at member ⊢
      tauto
    · obtain ⟨pressed, member, presses⟩ := orderly.replies reply member
      exact ⟨pressed, List.mem_append_left _ member, presses⟩
  | dropped request rest waiting entered _ =>
    rw [entered]
    refine ⟨orderly.entries, fun made member => orderly.requests made ?_, orderly.replies⟩
    rw [waiting]
    exact List.mem_cons_of_mem _ member
  | ignored reply rest waiting entered =>
    rw [entered]
    refine ⟨orderly.entries, orderly.requests, fun other member => orderly.replies other ?_⟩
    rw [waiting]
    exact List.mem_cons_of_mem _ member
  | answered reply rest id entry waiting _ _ entered =>
    rw [entered]
    refine orderly.drop id (fun other member => ?_) _
    rw [waiting]
    exact List.mem_cons_of_mem _ member
  | sent message rest _ entered =>
    rw [entered]
    exact ⟨orderly.entries, orderly.requests, orderly.replies⟩

/-- The requests of all entries were made. -/
def Dealings.Made (dealings : Dealings) : Prop :=
  ∀ id entry, dealings.pendingResponses.get? id = some entry →
    entry.uiRequestMessage ∈ dealings.waiting ++ dealings.asked

/-- **While the loop is running, no request is given up.** -/
theorem Deal.made {setup : Setup} {circumstances : Circumstances} {before after : Adaptor}
    (deal : Deal setup circumstances before after) (running : after.phase ≠ .stopped)
    (made : before.dealings.Made) : after.dealings.Made := by
  cases deal with
  | idle same =>
    rw [same]
    exact made
  | heard message rest _ entered _ =>
    rw [entered]
    exact made
  | asked message rest request _ _ _ _ entered =>
    rw [entered]
    intro id entry found
    dsimp only at found ⊢
    rw [OrderedDict.get?_insert] at found
    rw [List.append_assoc, List.mem_append, List.mem_append, List.mem_singleton]
    split at found
    · cases found
      exact .inr (.inl rfl)
    · exact (List.mem_append.mp (made id entry found)).imp_right .inr
  | published request rest waiting entered =>
    rw [entered]
    intro id entry found
    have member := made id entry found
    rw [waiting] at member
    simp only [List.mem_append, List.mem_cons, List.not_mem_nil, or_false] at member ⊢
    tauto
  | dropped request rest _ _ stopped => exact absurd stopped running
  | ignored reply rest _ entered =>
    rw [entered]
    exact made
  | answered reply rest id entry _ _ _ entered =>
    rw [entered]
    intro other pending found
    dsimp only at found
    rw [OrderedDict.get?_erase] at found
    split at found
    · cases found
    · exact made other pending found
  | sent message rest _ entered =>
    rw [entered]
    exact made

/-- A button that is pressed is translated to an answer. -/
theorem Translator.chainedMessage_pressed {setup : Setup} {entry : PendingResponse} {name : String}
    {value : UserInput} {testcaseId : Option String} (id : String) (translator : Translator)
    (coap : setup.translatorClass = .coap)
    (listed : name ∈ entry.uiRequestedFieldNameList)
    (offered : Offered entry.ttRequestOriginator.type name value)
    (kind : name ≠ "restart_testcase")
    (told : entry.ttRequestOriginator.testcaseId = some testcaseId) :
    ∃ answer : ChainedMessage,
      chainedMessage setup translator entry (.ofField id name value) = .ok (some answer) ∧
        answer.Answers entry.ttRequestOriginator := by
  rw [chainedMessage_ofField, if_pos listed, runHandler_coap coap]
  unfold Offered at offered
  unfold ChainedMessage.Answers
  cases type : entry.ttRequestOriginator.type with
  | testCaseReady =>
    rw [type] at offered
    rcases offered with rfl | rfl
    · exact ⟨_, rfl, .inl ⟨_, rfl⟩⟩
    · refine ⟨.testCaseSkip testcaseId, ?_, .inr ⟨testcaseId, told, rfl⟩⟩
      simp [uiToTtMessageTranslation, getTtMessageTestcaseSkip, told]
  | stepStimuliExecute =>
    rw [type] at offered
    obtain rfl : name = "stimuli_executed" := offered
    exact ⟨_, rfl, _, _, rfl⟩
  | stepVerifyExecute =>
    rw [type] at offered
    obtain ⟨rfl, response, rfl⟩ := offered
    exact ⟨_, rfl, _, _, rfl⟩
  | testCaseVerdict =>
    rw [type] at offered
    exact absurd offered kind
  | _ =>
    rw [type] at offered
    exact offered.elim

section Flow

variable {node : Option String} {message prompt : TtMessage} {answer : ChainedMessage}

/-- Users are asked on a message whose answer is awaited. -/
theorem asks_of_awaited (awaited : message.type.awaited = true) : message.type.asks = true := by
  revert awaited
  unfold TtMessageType.awaited TtMessageType.asks
  cases message.type <;> simp [Translator.ttToUiMessageTranslation]

/-- The answers that are awaited are those to buttons that do not run a test case again. -/
theorem awaited_of_offered {type : TtMessageType} {name : String} {value : UserInput}
    (offered : Offered type name value) (kind : name ≠ "restart_testcase") :
    type.awaited = true := by
  cases type with
  | testCaseReady | stepStimuliExecute | stepVerifyExecute => rfl
  | testCaseVerdict => exact absurd offered kind
  | _ => exact offered.elim

/-- The coordinator listens for answers. -/
theorem ChainedMessage.Answers.event (node : Option String) (answers : answer.Answers prompt) :
    ∃ event, answer.event? node = some event := by
  unfold ChainedMessage.Answers at answers
  split at answers
  · rcases answers with ⟨id, rfl⟩ | ⟨id, -, rfl⟩ <;> exact ⟨_, rfl⟩
  · obtain ⟨_, _, rfl⟩ := answers
    exact ⟨_, rfl⟩
  · obtain ⟨_, _, rfl⟩ := answers
    exact ⟨_, rfl⟩
  · exact answers.elim

/-- What is sent and what is left of the questions, after what was before them. -/
def flow (node : Option String) (sent : List ChainedMessage) (after : Dealings) : List Matter :=
  (sent.filterMap (·.event? node)).map .answered ++ after.matters node

/-- The questions are about the same message and as many as before, unless the loop ends. -/
structure Conserved (node : Option String) (prompt : TtMessage) (before after : List Matter)
    (stopped : Prop) : Prop where
  /-- They are about the same message. -/
  concerned : ∀ matter ∈ after, matter.Concerns node prompt
  /-- None comes in addition. -/
  bounded : after.length ≤ before.length
  /-- None is lost while the loop is running. -/
  kept : ¬ stopped → after.length = before.length

/-- Questions that stay the same are conserved. -/
theorem Conserved.same {matters : List Matter} {stopped : Prop}
    (concerned : ∀ matter ∈ matters, matter.Concerns node prompt) :
    Conserved node prompt matters matters stopped := ⟨concerned, le_rfl, fun _ => rfl⟩

/-- Questions that are replaced by others about the same message. -/
theorem Conserved.replace {before after old new others : List Matter} {stopped : Prop}
    (concerned : ∀ matter ∈ before, matter.Concerns node prompt)
    (leave : before.Perm (old ++ others)) (arrive : after.Perm (new ++ others))
    (about : ∀ matter ∈ new, matter.Concerns node prompt) (bounded : new.length ≤ old.length)
    (kept : ¬ stopped → new.length = old.length) : Conserved node prompt before after stopped := by
  have first : before.length = old.length + others.length := by
    rw [leave.length_eq, List.length_append]
  have last : after.length = new.length + others.length := by
    rw [arrive.length_eq, List.length_append]
  constructor
  · intro matter member
    rcases List.mem_append.mp (arrive.mem_iff.mp member) with member | member
    · exact about matter member
    · exact concerned matter (leave.mem_iff.mpr (List.mem_append_right _ member))
  · omega
  · intro running
    have same := kept running
    omega

/-- The first message is in front of the others. -/
theorem filterMap_announced (message : TtMessage) (rest : List TtMessage) :
    (message :: rest).filterMap announced? =
      (announced? message).toList ++ rest.filterMap announced? := by
  rw [List.filterMap_cons]
  cases announced? message <;> rfl

/-- A message on which nobody is asked is no question. -/
theorem announced_quiet (quiet : message.type.asks = false) : announced? message = none := by
  refine if_neg fun awaited => ?_
  rw [asks_of_awaited awaited] at quiet
  cases quiet

/-- A question is a question in the table, too. -/
theorem announced_pending (request : UiMessage) (message : TtMessage) :
    (pending? (MainThread.entryOf request message)).toList.length =
      (announced? message).toList.length := by
  unfold pending? announced? MainThread.entryOf
  dsimp only
  split <;> rfl

/-- It is about the same message. -/
theorem concerns_pending {request : UiMessage}
    (about : ∀ matter ∈ (announced? message).toList, matter.Concerns node prompt) :
    ∀ matter ∈ (pending? (MainThread.entryOf request message)).toList,
      matter.Concerns node prompt := by
  unfold pending? MainThread.entryOf
  unfold announced? at about
  dsimp only
  split
  · rename_i awaited
    rw [if_pos awaited] at about
    intro matter member
    rw [Option.toList_some, List.mem_singleton] at member
    rw [member]
    exact about (.announced message) (by simp)
  · intro matter member
    cases member

/-- **The parts of the loop conserve the questions**: none is asked twice or answered twice, and
while the loop is running none is lost. -/
theorem Deal.conserves {setup : Setup} {circumstances : Circumstances} {before after : Adaptor}
    (deal : Deal setup circumstances before after) (coap : setup.translatorClass = .coap)
    (fresh : before.dealings.Fresh circumstances.correlationId) (orderly : before.dealings.Orderly)
    {testcaseId : Option String} (told : prompt.testcaseId = some testcaseId)
    (concerned : ∀ matter ∈ before.dealings.matters node, matter.Concerns node prompt) :
    ∃ sent, after.dealings.answered = before.dealings.answered ++ sent ∧
      Conserved node prompt (before.dealings.matters node) (flow node sent after.dealings)
        (after.phase = .stopped) := by
  cases deal with
  | idle same =>
    refine ⟨[], by rw [same, List.append_nil], ?_⟩
    rw [flow, same]
    exact .same concerned
  | heard message rest waiting entered quiet =>
    refine ⟨[], by rw [entered, List.append_nil], ?_⟩
    have leave : (before.dealings.matters node).Perm ((announced? message).toList ++
        flow node [] after.dealings) := by
      rw [flow, entered, Dealings.matters, waiting, filterMap_announced]
      exact List.perm_append_comm_assoc _ _ _
    refine .replace concerned leave (List.Perm.refl _) (fun _ member => by cases member)
      (Nat.zero_le _) fun running => ?_
    rw [announced_quiet (quiet.resolve_right running)]
    rfl
  | asked message rest request waiting _ _ _ entered =>
    refine ⟨[], by rw [entered, List.append_nil], ?_⟩
    have items := OrderedDict.items_insert fresh.entries (MainThread.entryOf request message)
    let others := (before.dealings.answers.filterMap (·.event? node)).map .answered ++
      before.dealings.pendingResponses.items.filterMap (pending? ·.2) ++
        rest.filterMap announced?
    have leave : (before.dealings.matters node).Perm ((announced? message).toList ++ others) := by
      rw [Dealings.matters, waiting, filterMap_announced]
      exact List.perm_append_comm_assoc _ _ _
    have arrive : (flow node [] after.dealings).Perm
        ((pending? (MainThread.entryOf request message)).toList ++ others) := by
      have last : ([(circumstances.correlationId, MainThread.entryOf request message)].filterMap
          (pending? ·.2)) = (pending? (MainThread.entryOf request message)).toList := by
        rw [List.filterMap_cons]
        cases pending? (MainThread.entryOf request message) <;> rfl
      rw [flow, entered]
      simp only [Dealings.matters, items, List.filterMap_append, last, List.filterMap_nil,
        List.map_nil, List.nil_append]
      simp only [others, ← List.append_assoc]
      rw [List.append_assoc]
      have moved := List.perm_append_comm_assoc
        ((before.dealings.answers.filterMap (·.event? node)).map Matter.answered ++
          before.dealings.pendingResponses.items.filterMap (pending? ·.2))
        (pending? (MainThread.entryOf request message)).toList (rest.filterMap announced?)
      simpa only [List.append_assoc] using moved
    refine .replace concerned leave arrive (concerns_pending fun matter member => ?_)
      (announced_pending request message).le fun _ => announced_pending request message
    exact concerned matter (leave.mem_iff.mpr (List.mem_append_left _ member))
  | published request rest _ entered =>
    refine ⟨[], by rw [entered, List.append_nil], ?_⟩
    rw [flow, entered]
    exact .same concerned
  | dropped request rest _ entered _ =>
    refine ⟨[], by rw [entered, List.append_nil], ?_⟩
    rw [flow, entered]
    exact .same concerned
  | ignored reply rest _ entered =>
    refine ⟨[], by rw [entered, List.append_nil], ?_⟩
    rw [flow, entered]
    exact .same concerned
  | answered reply rest id entry waiting named found entered =>
    refine ⟨[], by rw [entered, List.append_nil], ?_⟩
    have first : reply ∈ before.dealings.replies := by
      rw [waiting]
      exact List.mem_cons_self
    obtain ⟨name, value, rfl, listed, offered, kind⟩ := orderly.pressed first named found
    have awaited : pending? entry = some (.pending entry.ttRequestOriginator) :=
      if_pos (awaited_of_offered offered kind)
    let others := (before.dealings.answers.filterMap (·.event? node)).map .answered ++
      ((before.dealings.pendingResponses.erase id).items.filterMap (pending? ·.2) ++
        before.dealings.messages.filterMap announced?)
    have leave : (before.dealings.matters node).Perm
        ([.pending entry.ttRequestOriginator] ++ others) := by
      have apart := (OrderedDict.perm_erase found).filterMap fun item => pending? item.2
      have split : ((id, entry) :: (before.dealings.pendingResponses.erase id).items).filterMap
          (fun item => pending? item.2) = .pending entry.ttRequestOriginator ::
            (before.dealings.pendingResponses.erase id).items.filterMap (pending? ·.2) := by
        rw [List.filterMap_cons]
        simp only [awaited]
      rw [split] at apart
      rw [Dealings.matters, List.append_assoc]
      exact ((apart.append_right _).append_left _).trans List.perm_middle
    have about : entry.ttRequestOriginator = prompt :=
      concerned (.pending entry.ttRequestOriginator) (leave.mem_iff.mpr List.mem_cons_self)
    obtain ⟨answer, translated, answers⟩ := Translator.chainedMessage_pressed id
      (before.translator.without id) coap listed offered kind (by rw [about, told])
    obtain ⟨event, heard⟩ := answers.event node
    have arrive : (flow node [] after.dealings).Perm ([.answered event] ++ others) := by
      have last : (before.dealings.answers ++ [answer]).filterMap (·.event? node) =
          before.dealings.answers.filterMap (·.event? node) ++ [event] := by
        rw [List.filterMap_append, List.filterMap_cons_some heard]
        rfl
      rw [flow, entered, translated]
      simp only [Dealings.matters, Except.toOption, Option.join_some, Option.toList_some, last,
        List.map_append, List.map_cons, List.map_nil, List.filterMap_nil, List.nil_append,
        List.append_assoc]
      exact List.perm_middle
    refine .replace concerned leave arrive (fun matter member => ?_) le_rfl fun _ => rfl
    rw [List.mem_singleton.mp member]
    exact ⟨answer, by rwa [← about], heard⟩
  | sent message rest waiting entered =>
    refine ⟨[message], by rw [entered], ?_⟩
    have same : flow node [message] after.dealings = before.dealings.matters node := by
      rw [flow, entered]
      simp only [Dealings.matters, waiting]
      rw [← List.append_assoc, ← List.append_assoc, ← List.map_append, ← List.filterMap_append]
      rfl
    rw [same]
    exact .same concerned

end Flow

end Ioppytest.UiAdaptor
