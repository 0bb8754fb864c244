import Ioppytest.Lib.Inevitability
import Ioppytest.Properties.Dispatching
import Ioppytest.Properties.QueueBounds

/-!
# Nothing waits for long

The main loop takes one message of the testing tool and one reply in each round. What waits at most in
the queues that it fills bounds how many parts a round has, so that a message is handled after a number
of parts that depends on nothing but what waits in front of it.
-/

namespace Ioppytest.UiAdaptor

open Raising Runs

/-- The main thread executes a part of the loop. -/
def Action.proceeds : Action → Bool
  | .proceed _ => true
  | _ => false

namespace Adaptor

/-- The most parts that are executed in a round. -/
def roundLength : Nat := 9

/-- How many parts are executed at most until a message of the testing tool has been taken. -/
def untilMessage (adaptor : Adaptor) : Nat :=
  match adaptor.phase with
  | .testingTool => 1
  | .newUsers => 2
  | .chained => 3 + adaptor.queueMessagesToTt.length
  | .reply => 5
  | .request => 6
  | .displays => 7 + adaptor.queueMessagesDisplayToUi.length
  | .stopped => 0

/-- How many parts are executed at most until a reply has been taken. -/
def untilReply (adaptor : Adaptor) : Nat :=
  match adaptor.phase with
  | .reply => 1
  | .request => 2
  | .displays => 3 + adaptor.queueMessagesDisplayToUi.length
  | .testingTool => 6
  | .newUsers => 7
  | .chained => 8 + adaptor.queueMessagesToTt.length
  | .stopped => 0

/-- What a part of the loop leads to, as far as the next parts are concerned. -/
inductive Part (adaptor after : Adaptor) : Prop where
  /-- The end of the loop. -/
  | stops (stopped : after.phase = .stopped)
  /-- A message of the testing tool is handled, if there is one. -/
  | message (now : adaptor.phase = .testingTool) (later : after.phase = .displays)
  /-- A display is published. -/
  | display (now : adaptor.phase = .displays) (later : after.phase = .displays)
    (fewer : after.queueMessagesDisplayToUi.length + 1 = adaptor.queueMessagesDisplayToUi.length)
  /-- All displays are published. -/
  | displays (now : adaptor.phase = .displays) (later : after.phase = .request)
  /-- A request is published, if there is one. -/
  | request (now : adaptor.phase = .request) (later : after.phase = .reply)
  /-- A reply is handled, if there is one. -/
  | reply (now : adaptor.phase = .reply) (later : after.phase = .chained)
  /-- A message is sent to the testing tool. -/
  | send (now : adaptor.phase = .chained) (later : after.phase = .chained)
    (fewer : after.queueMessagesToTt.length + 1 = adaptor.queueMessagesToTt.length)
  /-- All messages are sent. -/
  | sent (now : adaptor.phase = .chained) (later : after.phase = .newUsers)
  /-- New users are looked for. -/
  | newUsers (now : adaptor.phase = .newUsers) (later : after.phase = .testingTool)

variable {setup : Setup} {mapping : RoleMapping} {waiting : List TtMessage} {adaptor : Adaptor}
  {logbook : Logbook} {circumstances : Circumstances}

/-- After a part that may raise comes the next one or the end. -/
theorem ending_phase (result : EStateM.Result PyException Adaptor Unit) (phase : Phase) :
    (ending result phase).phase = phase ∨ (ending result phase).phase = .stopped := by
  cases result with
  | ok value state => exact .inl rfl
  | error exception state => exact .inr rfl

/-- What any part of the loop leads to. -/
theorem proceed_part (setup : Setup) (circumstances : Circumstances) (adaptor : Adaptor) :
    Part adaptor (adaptor.proceed setup circumstances) := by
  cases phase : adaptor.phase with
  | testingTool =>
    cases queue : adaptor.queueMessagesFromTt with
    | nil => exact .message phase (by simp [proceed, phase, queue, enter])
    | cons message rest =>
      simp only [proceed, phase, queue]
      exact (ending_phase _ _).elim (fun later => .message phase later) .stops
  | displays =>
    cases queue : adaptor.queueMessagesDisplayToUi with
    | nil => exact .displays phase (by simp [proceed, phase, queue, enter])
    | cons message rest =>
      refine .display phase ?_ ?_ <;> simp [proceed, phase, queue, publish]
  | request =>
    cases queue : adaptor.queueMessagesRequestToUi with
    | nil => exact .request phase (by simp [proceed, phase, queue, enter])
    | cons request rest =>
      simp only [proceed, phase, queue]
      exact (ending_phase _ _).elim (fun later => .request phase later) .stops
  | reply =>
    cases queue : adaptor.queueMessagesFromUi with
    | nil => exact .reply phase (by simp [proceed, phase, queue, enter])
    | cons reply rest =>
      simp only [proceed, phase, queue]
      exact (ending_phase _ _).elim (fun later => .reply phase later) .stops
  | chained =>
    cases queue : adaptor.queueMessagesToTt with
    | nil => exact .sent phase (by simp [proceed, phase, queue, enter])
    | cons message rest =>
      refine .send phase ?_ ?_ <;> simp [proceed, phase, queue, publish]
  | newUsers =>
    cases found : circumstances.newUsers with
    | error exception => exact .stops (by simp [proceed, phase, found, enter])
    | ok displays => exact .newUsers phase (by simp [proceed, phase, found, enter])
  | stopped => exact .stops (by simp [proceed, phase])

/-- A round is short: a message of the testing tool is never further away than this. -/
theorem Drained.untilMessage_le (drained : adaptor.Drained) : adaptor.untilMessage ≤ roundLength := by
  unfold Drained at drained
  unfold untilMessage roundLength
  cases phase : adaptor.phase <;> rw [phase] at drained <;> dsimp only
  all_goals try omega
  · have few : adaptor.queueMessagesDisplayToUi.length ≤ 2 := drained.display
    omega
  · have few : adaptor.queueMessagesToTt.length ≤ 1 := drained.chained
    omega

/-- A reply is never further away either. -/
theorem Drained.untilReply_le (drained : adaptor.Drained) : adaptor.untilReply ≤ roundLength := by
  unfold Drained at drained
  unfold untilReply roundLength
  cases phase : adaptor.phase <;> rw [phase] at drained <;> dsimp only
  all_goals try omega
  · have few : adaptor.queueMessagesDisplayToUi.length ≤ 2 := drained.display
    omega
  · have few : adaptor.queueMessagesToTt.length ≤ 1 := drained.chained
    omega

/-- A part of the loop takes a message of the testing tool, or is one of those until then. -/
theorem Part.untilMessage {after : Adaptor} (part : Part adaptor after) (drained : after.Drained)
    (running : after.phase ≠ .stopped) :
    adaptor.phase = .testingTool ∧ adaptor.untilMessage = 1 ∨
      adaptor.phase ≠ .testingTool ∧ after.untilMessage < adaptor.untilMessage := by
  unfold Drained at drained
  cases part with
  | stops stopped => exact absurd stopped running
  | message now later => exact .inl ⟨now, by simp [Adaptor.untilMessage, now]⟩
  | display now later fewer =>
    right
    simp only [Adaptor.untilMessage, now, later]
    exact ⟨by decide, by omega⟩
  | displays now later =>
    right
    simp only [Adaptor.untilMessage, now, later]
    exact ⟨by decide, by omega⟩
  | request now later => exact .inr (by simp [Adaptor.untilMessage, now, later])
  | reply now later =>
    rw [later] at drained
    have few : after.queueMessagesToTt.length ≤ 1 := drained.chained
    right
    simp only [Adaptor.untilMessage, now, later]
    exact ⟨by decide, by omega⟩
  | send now later fewer =>
    right
    simp only [Adaptor.untilMessage, now, later]
    exact ⟨by decide, by omega⟩
  | sent now later =>
    right
    simp only [Adaptor.untilMessage, now, later]
    exact ⟨by decide, by omega⟩
  | newUsers now later => exact .inr (by simp [Adaptor.untilMessage, now, later])

/-- A part of the loop takes a reply, or is one of those until then. -/
theorem Part.untilReply {after : Adaptor} (part : Part adaptor after) (drained : after.Drained)
    (running : after.phase ≠ .stopped) :
    adaptor.phase = .reply ∧ adaptor.untilReply = 1 ∨
      adaptor.phase ≠ .reply ∧ after.untilReply < adaptor.untilReply := by
  unfold Drained at drained
  cases part with
  | stops stopped => exact absurd stopped running
  | message now later =>
    rw [later] at drained
    have few : after.queueMessagesDisplayToUi.length ≤ 2 := drained.display
    right
    simp only [Adaptor.untilReply, now, later]
    exact ⟨by decide, by omega⟩
  | display now later fewer =>
    right
    simp only [Adaptor.untilReply, now, later]
    exact ⟨by decide, by omega⟩
  | displays now later =>
    right
    simp only [Adaptor.untilReply, now, later]
    exact ⟨by decide, by omega⟩
  | request now later => exact .inr (by simp [Adaptor.untilReply, now, later])
  | reply now later => exact .inl ⟨now, by simp [Adaptor.untilReply, now]⟩
  | send now later fewer =>
    right
    simp only [Adaptor.untilReply, now, later]
    exact ⟨by decide, by omega⟩
  | sent now later =>
    right
    simp only [Adaptor.untilReply, now, later]
    exact ⟨by decide, by omega⟩
  | newUsers now later => exact .inr (by simp [Adaptor.untilReply, now, later])

/-- One of the two queues of received messages, and what the main loop does about it. -/
structure Inbox (α : Type) where
  /-- The part of the loop that takes something out of it. -/
  phase : Phase
  /-- How many parts are executed at most until then. -/
  ahead : Adaptor → Nat
  /-- What waits in it. -/
  queue : Adaptor → List α
  /-- What has been put into it. -/
  received : Logbook → List α
  /-- What has been handled. -/
  handled : Logbook → List α

/-- The queue for messages of the testing tool; some may be waiting at the start. -/
def testingToolInbox (waiting : List TtMessage) : Inbox TtMessage where
  phase := .testingTool
  ahead := untilMessage
  queue := (·.queueMessagesFromTt)
  received := fun logbook => waiting ++ logbook.messages
  handled := (·.tasks.filterMap Task.message?)

/-- The queue for replies. -/
def usersInbox : Inbox UiReply where
  phase := .reply
  ahead := untilReply
  queue := (·.queueMessagesFromUi)
  received := (·.replies)
  handled := (·.tasks.filterMap Task.reply?)

namespace Inbox

variable {α : Type}

/-- The main loop looks after a queue. -/
structure Served (inbox : Inbox α) : Prop where
  /-- It never takes long until something is taken out of it. -/
  short : ∀ adaptor : Adaptor, adaptor.Drained → inbox.ahead adaptor ≤ roundLength
  /-- It is always some parts away. -/
  away : ∀ adaptor : Adaptor, adaptor.phase ≠ .stopped → 1 ≤ inbox.ahead adaptor
  /-- Each part takes something out of it, or is one of those until then. -/
  part : ∀ adaptor after : Adaptor, Part adaptor after → after.Drained → after.phase ≠ .stopped →
    adaptor.phase = inbox.phase ∧ inbox.ahead adaptor = 1 ∨
      adaptor.phase ≠ inbox.phase ∧ inbox.ahead after < inbox.ahead adaptor
  /-- What is taken out of it is handled. -/
  handles : ∀ setup adaptor circumstances logbook,
    inbox.handled (log setup logbook adaptor (.proceed circumstances)) =
      inbox.handled logbook ++
        (if adaptor.phase = inbox.phase then (inbox.queue adaptor).head?.toList else [])
  /-- Nothing else changes how far away it is or what has been handled. -/
  waits : ∀ setup adaptor action logbook, action.proceeds = false →
    (adaptor.next setup action).phase ≠ .stopped →
      inbox.ahead (adaptor.next setup action) = inbox.ahead adaptor ∧
        inbox.handled (log setup logbook adaptor action) = inbox.handled logbook
  /-- What has been put into it stays noted. -/
  grows : ∀ setup adaptor action logbook, inbox.received logbook <+:
    inbox.received (log setup logbook adaptor action)

/-- What the main thread does not do itself. -/
theorem next_waits {setup : Setup} {action : Action} (logbook : Logbook)
    (idle : action.proceeds = false)
    (running : (adaptor.next setup action).phase ≠ .stopped) :
    (adaptor.next setup action).phase = adaptor.phase ∧
      (adaptor.next setup action).books = adaptor.books ∧
        (adaptor.next setup action).queueMessagesDisplayToUi = adaptor.queueMessagesDisplayToUi ∧
          (log setup logbook adaptor action).tasks = logbook.tasks := by
  cases action with
  | fromTt message =>
    simp only [next, log]
    split <;> exact ⟨rfl, rfl, rfl, rfl⟩
  | fromUi reply =>
    simp only [next, log]
    split <;> exact ⟨rfl, rfl, rfl, rfl⟩
  | proceed circumstances => exact absurd idle (by simp [Action.proceeds])
  | interrupt => exact absurd rfl running

/-- The main loop looks after the messages of the testing tool. -/
theorem testingToolInbox_served (waiting : List TtMessage) : (testingToolInbox waiting).Served where
  short _ drained := drained.untilMessage_le
  away adaptor running := by
    cases phase : adaptor.phase <;> simp [testingToolInbox, untilMessage, phase] at running ⊢ <;>
      omega
  part _ _ part drained running := part.untilMessage drained running
  handles setup adaptor circumstances logbook := by
    cases phase : adaptor.phase <;> cases queue : adaptor.queueMessagesFromTt <;>
      cases replies : adaptor.queueMessagesFromUi <;>
      simp [testingToolInbox, log, nextTask, phase, queue, replies, Task.message?,
        List.filterMap_cons]
  waits setup adaptor action logbook idle running := by
    obtain ⟨phase, books, displays, tasks⟩ := next_waits logbook idle running
    have chained := congrArg Books.chained books
    change (adaptor.next setup action).queueMessagesToTt = adaptor.queueMessagesToTt at chained
    simp only [testingToolInbox, untilMessage, phase, displays, chained, tasks, and_self]
  grows setup adaptor action logbook := by
    cases action with
    | fromTt message =>
      simp only [testingToolInbox, log]
      split <;> simp
    | fromUi reply =>
      simp only [testingToolInbox, log]
      split <;> exact List.prefix_rfl
    | proceed circumstances => exact List.prefix_rfl
    | interrupt => exact List.prefix_rfl

/-- The main loop looks after the replies. -/
theorem usersInbox_served : usersInbox.Served where
  short _ drained := drained.untilReply_le
  away adaptor running := by
    cases phase : adaptor.phase <;> simp [usersInbox, untilReply, phase] at running ⊢ <;> omega
  part _ _ part drained running := part.untilReply drained running
  handles setup adaptor circumstances logbook := by
    cases phase : adaptor.phase <;> cases queue : adaptor.queueMessagesFromTt <;>
      cases replies : adaptor.queueMessagesFromUi <;>
      simp [usersInbox, log, nextTask, phase, queue, replies, Task.reply?, List.filterMap_cons]
  waits setup adaptor action logbook idle running := by
    obtain ⟨phase, books, displays, tasks⟩ := next_waits logbook idle running
    have chained := congrArg Books.chained books
    change (adaptor.next setup action).queueMessagesToTt = adaptor.queueMessagesToTt at chained
    simp only [usersInbox, untilReply, phase, displays, chained, tasks, and_self]
  grows setup adaptor action logbook := by
    cases action with
    | fromTt message =>
      simp only [usersInbox, log]
      split <;> exact List.prefix_rfl
    | fromUi reply =>
      simp only [usersInbox, log]
      split <;> simp
    | proceed circumstances => exact List.prefix_rfl
    | interrupt => exact List.prefix_rfl

/-- What has gone through a queue, and what waits in it, while the main loop is running. -/
structure Accounted (inbox : Inbox α) (target : Nat) (pair : Adaptor × Logbook) : Prop where
  drained : pair.1.Drained
  all : inbox.handled pair.2 ++ inbox.queue pair.1 = inbox.received pair.2
  enough : target ≤ (inbox.received pair.2).length

/-- As long as something waits, the main loop gets closer to it with each of its parts. -/
theorem Served.closer {inbox : Inbox α} (served : inbox.Served) {setup : Setup} {target : Nat}
    {pair : Adaptor × Logbook} (accounted : inbox.Accounted target pair) (action : Action)
    (drained : (pair.1.next setup action).Drained)
    (running : (pair.1.next setup action).phase ≠ .stopped)
    (missing : (inbox.handled (log setup pair.2 pair.1 action)).length < target) :
    roundLength * (inbox.handled pair.2).length + (roundLength - inbox.ahead pair.1) +
        action.proceeds.toNat ≤
      roundLength * (inbox.handled (log setup pair.2 pair.1 action)).length +
        (roundLength - inbox.ahead (pair.1.next setup action)) := by
  cases idle : action.proceeds with
  | false =>
    obtain ⟨same, handled⟩ := served.waits setup pair.1 action pair.2 idle running
    rw [same, handled]
    exact le_rfl
  | true =>
    obtain ⟨circumstances, rfl⟩ : ∃ circumstances, action = .proceed circumstances := by
      cases action <;> simp [Action.proceeds] at idle ⊢
    have before := served.short pair.1 accounted.drained
    have after := served.short _ drained
    have handles := served.handles setup pair.1 circumstances pair.2
    rw [handles, List.length_append] at missing ⊢
    rw [Bool.toNat_true]
    rcases served.part _ _ (proceed_part setup circumstances pair.1) drained running with
      ⟨here, last⟩ | ⟨elsewhere, fewer⟩
    · have some_wait : inbox.queue pair.1 ≠ [] := by
        intro none_wait
        have all := accounted.all
        rw [none_wait, List.append_nil] at all
        have enough := accounted.enough
        rw [← all] at enough
        omega
      obtain ⟨first, rest, queue⟩ := List.exists_cons_of_ne_nil some_wait
      rw [if_pos here, queue] at missing ⊢
      simp only [List.head?_cons, Option.toList_some, List.length_singleton] at missing ⊢
      rw [last]
      simp only [roundLength] at *
      omega
    · rw [if_neg elsewhere]
      change inbox.ahead (pair.1.next setup (.proceed circumstances)) < _ at fewer
      simp only [List.length_nil, Nat.add_zero]
      omega

/-- What has been handled stays noted, as long as the main loop is running. -/
theorem Served.handled_grows {inbox : Inbox α} (served : inbox.Served) {setup : Setup}
    {action : Action} (running : (adaptor.next setup action).phase ≠ .stopped) :
    (inbox.handled logbook).length ≤ (inbox.handled (log setup logbook adaptor action)).length := by
  cases idle : action.proceeds with
  | false => exact (served.waits setup adaptor action logbook idle running).2 ▸ le_rfl
  | true =>
    obtain ⟨circumstances, rfl⟩ : ∃ circumstances, action = .proceed circumstances := by
      cases action <;> simp [Action.proceeds] at idle ⊢
    rw [served.handles, List.length_append]
    exact Nat.le_add_right _ _

/-- Nothing starts the main thread again. -/
theorem stays_stopped {setup : Setup} {action : Action} (stopped : adaptor.phase = .stopped) :
    (adaptor.next setup action).phase = .stopped := by
  cases action with
  | fromTt message =>
    simp only [next]
    split <;> exact stopped
  | fromUi reply =>
    simp only [next]
    split <;> exact stopped
  | proceed circumstances =>
    simp only [next, proceed, stopped]
  | interrupt => rfl

/-- In every state that is reached, few messages wait and the main loop has done what a clerk does. -/
theorem reached_drained {pair : Adaptor × Logbook} (reached : Logged setup mapping waiting pair) :
    pair.1.Drained ∧ Follows setup mapping waiting pair.1 pair.2 := by
  induction reached with
  | init => exact ⟨⟨Nat.zero_le _, Nat.zero_le _, Nat.zero_le _⟩, follows_initial ..⟩
  | @step state action _ _ ih =>
    exact ⟨(nextWithin_drained le_rfl le_rfl le_rfl ih.1 action).2, ih.2.step action⟩

/-- **What waits is handled in time**, unless the main loop ends. -/
theorem Served.in_time {inbox : Inbox α} (served : inbox.Served)
    (whole : ∀ pair : Adaptor × Logbook, Follows setup mapping waiting pair.1 pair.2 →
      inbox.handled pair.2 ++ inbox.queue pair.1 = inbox.received pair.2)
    {pair : Adaptor × Logbook} (reached : Logged setup mapping waiting pair)
    (actions : List Action) (k : Nat) (enough : roundLength * k ≤ actions.countP Action.proceeds) :
    (actions.foldl (observed (next setup) (log setup)) pair).1.phase = .stopped ∨
      inbox.handled pair.2 ++ (inbox.queue pair.1).take k <+:
        inbox.handled (actions.foldl (observed (next setup) (log setup)) pair).2 := by
  have started := reached_drained reached
  have front : inbox.handled pair.2 ++ (inbox.queue pair.1).take k <+: inbox.received pair.2 := by
    rw [← whole pair started.2]
    exact (List.prefix_append_right_inj _).mpr (List.take_prefix _ _)
  generalize wanted : inbox.handled pair.2 ++ (inbox.queue pair.1).take k = target at front ⊢
  obtain ⟨⟨drained, follows, kept⟩, outcome⟩ := @reached_or_grown _ _ (observed (next setup) (log setup))
    (fun state => state.1.phase = .stopped ∨ target.length ≤ (inbox.handled state.2).length) pair
    Action.proceeds
    (fun pair => roundLength * (inbox.handled pair.2).length +
      (roundLength - inbox.ahead pair.1))
    (fun state => state.1.Drained ∧ Follows setup mapping waiting state.1 state.2 ∧
      inbox.received pair.2 <+: inbox.received state.2)
    (fun state action ⟨drained, follows, kept⟩ =>
      ⟨(nextWithin_drained le_rfl le_rfl le_rfl drained action).2, follows.step action,
        kept.trans (served.grows _ _ _ _)⟩)
    (fun state action there => by
      by_cases running : (state.1.next setup action).phase = .stopped
      · exact .inl running
      · have before := there.resolve_left fun stopped => running (stays_stopped stopped)
        exact .inr (before.trans (served.handled_grows running)))
    (fun state action ⟨drained, follows, kept⟩ missing => by
      obtain ⟨running, few⟩ := not_or.mp missing
      exact served.closer ⟨drained, whole state follows, front.length_le.trans kept.length_le⟩ action
        (nextWithin_drained le_rfl le_rfl le_rfl drained action).2 running (Nat.lt_of_not_le few))
    ⟨started.1, started.2, List.prefix_rfl⟩ actions
  generalize actions.foldl (observed (next setup) (log setup)) pair = later at *
  by_cases running : later.1.phase = .stopped
  · exact .inl running
  · right
    have long : target.length ≤ (inbox.handled later.2).length := by
      rcases outcome with reached | grown
      · exact reached.resolve_left running
      · have away := served.away later.1 running
        have length : target.length ≤ (inbox.handled pair.2).length + k := by
          rw [← wanted, List.length_append]
          exact Nat.add_le_add_left (List.length_take_le _ _) _
        simp only [roundLength] at grown enough
        omega
    have handled : inbox.handled later.2 <+: inbox.received later.2 := by
      rw [← whole later follows]
      exact List.prefix_append _ _
    exact List.prefix_of_prefix_length_le (front.trans kept) handled long

end Inbox

/-- **Nothing waits for long.** However many messages and replies arrive meanwhile: once the main
thread has executed nine parts of the loop for each of the first `k` messages that wait, it has handled
them, and so it has the first `k` replies; or the loop has ended. -/
theorem handled_in_time (setup : Setup) (mapping : RoleMapping) (waiting : List TtMessage)
    (adaptor : Adaptor) (logbook : Logbook)
    (reached : Logged setup mapping waiting (adaptor, logbook)) (actions : List Action) (k : Nat)
    (enough : roundLength * k ≤ actions.countP Action.proceeds) :
    let later := actions.foldl (observed (next setup) (log setup)) (adaptor, logbook)
    later.1.phase = .stopped ∨
      (logbook.tasks.filterMap Task.message? ++ adaptor.queueMessagesFromTt.take k <+:
        later.2.tasks.filterMap Task.message?) ∧
      logbook.tasks.filterMap Task.reply? ++ adaptor.queueMessagesFromUi.take k <+:
        later.2.tasks.filterMap Task.reply? := by
  have messages := (Inbox.testingToolInbox_served waiting).in_time
    (fun _ follows => follows.messages) reached actions k enough
  have replies := Inbox.usersInbox_served.in_time (fun _ follows => follows.replies) reached actions
    k enough
  by_cases ended :
      (actions.foldl (observed (next setup) (log setup)) (adaptor, logbook)).1.phase = .stopped
  · exact .inl ended
  · exact .inr ⟨messages.resolve_left ended, replies.resolve_left ended⟩

/-- Of a step that a user verifies. -/
theorem handled_in_time_verified :
    let later := verified.foldl (observed (next .plain) (log .plain))
      (initial .empty [{ type := .stepVerifyExecute }], {})
    (later.1.phase = .stopped ∨
      ([] ++ List.take 2 [{ type := .stepVerifyExecute }] <+:
        later.2.tasks.filterMap Task.message?) ∧
      [] ++ List.take 2 [] <+: later.2.tasks.filterMap Task.reply?) ∧ later.1.phase ≠ .stopped :=
  ⟨handled_in_time .plain .empty [{ type := .stepVerifyExecute }] _ _ .init verified 2
    (by decide), by decide +kernel⟩

end Adaptor

end Ioppytest.UiAdaptor
