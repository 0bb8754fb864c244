import Ioppytest.UiAdaptor.UiTasks

/-!
# The waiting room

A shared session waits for a second user, and gives up when the retries are used up. Whether they
are is all that is looked at after the waiting, so that a second user who joins at the last moment
comes too late.
-/

namespace Ioppytest.UiAdaptor

open Raising

namespace UiTask

variable {setup : TaskSetup} {ui : Ui} {polls : Nat → List String}

/-- The lists of users that the UI gives, poll by poll. -/
def Answers (ui : Ui) (polls : Nat → List String) : Prop :=
  ∀ poll, usersOnline (ui.sessionConfiguration poll) = .ok (polls poll)

/-- Fewer users than a shared session needs. -/
def Alone (users : List String) : Prop := users.length < 2

/-- The users are counted. -/
instance (users : List String) : Decidable (Alone users) := inferInstanceAs (Decidable (_ < _))

/-- The room has expired. -/
def Expired (result : EStateM.Result PyException Conversation Unit) : Prop :=
  ∃ message, raised result = some (.sessionError message)

/-- The waiting is over: nobody came before, and somebody came now or the retries are used up. -/
structure Waited (polls : Nat → List String) (first retries more : Nat) : Prop where
  /-- Nobody came before. -/
  alone : ∀ poll < more, Alone (polls (first + poll))
  /-- The retries were not used up before. -/
  bounded : retries + more ≤ waitingTimeForSecondUser + 1
  /-- Somebody came, or the retries are used up. -/
  ended : ¬ Alone (polls (first + more)) ∨ retries + more = waitingTimeForSecondUser + 1

/-- The waiting is over already. -/
theorem Waited.here {first retries : Nat} (bounded : retries ≤ waitingTimeForSecondUser + 1)
    (ended : ¬ Alone (polls first) ∨ retries = waitingTimeForSecondUser + 1) :
    Waited polls first retries 0 where
  alone := by simp
  bounded := bounded
  ended := ended

/-- The waiting is over after another poll. -/
theorem Waited.later {first retries more : Nat} (alone : Alone (polls first))
    (waited : Waited polls (first + 1) (retries + 1) more) :
    Waited polls first retries (more + 1) where
  alone poll earlier := by
    cases poll with
    | zero => exact alone
    | succ poll =>
      rw [← Nat.add_assoc, Nat.add_right_comm]
      exact waited.alone poll (by omega)
  bounded := by
    have bounded := waited.bounded
    omega
  ended := by
    rw [← Nat.add_assoc, ← Nat.add_assoc, Nat.add_right_comm first, Nat.add_right_comm retries]
    exact waited.ended

/-- One turn of the loop asks for the users once. -/
theorem waitForUsers_turn (answers : Answers ui polls) {users : List String} {retries : Nat}
    (alone : Alone users) (some_left : retries ≤ waitingTimeForSecondUser)
    (conversation : Conversation) :
    ∃ after, after.polls = conversation.polls + 1 ∧
      (waitForUsers setup ui 2 users retries).run conversation =
        (waitForUsers setup ui 2 (polls conversation.polls) (retries + 1)).run after := by
  have asked (before : Conversation) :
      (getCurrentUsersOnline ui >>= fun onlineUsers =>
        waitForUsers setup ui 2 onlineUsers (retries + 1)).run before =
      (waitForUsers setup ui 2 (polls before.polls) (retries + 1)).run
        { before with polls := before.polls + 1 } := by
    rw [EStateM.run_bind, getCurrentUsersOnline_run, answers, run_lift_ok]
  rw [waitForUsers, if_pos ⟨alone, some_left⟩]
  split
  · exact ⟨_, rfl, asked (conversation.display setup _)⟩
  · exact ⟨_, rfl, asked conversation⟩

/-- The loop asks for the users until the waiting is over. -/
theorem waitForUsers_run (answers : Answers ui polls) {first retries : Nat}
    (bounded : retries ≤ waitingTimeForSecondUser + 1) (conversation : Conversation)
    (asked : conversation.polls = first + 1) :
    ∃ more after, (waitForUsers setup ui 2 (polls first) retries).run conversation =
        .ok (polls (first + more), retries + more) after ∧
      after.polls = first + 1 + more ∧ Waited polls first retries more := by
  -- By induction on the retries that are left.
  induction left : waitingTimeForSecondUser + 1 - retries
    generalizing first retries conversation with
  | zero =>
    have used_up : retries = waitingTimeForSecondUser + 1 := by omega
    refine ⟨0, conversation, ?_, asked, .here bounded (.inr used_up)⟩
    rw [waitForUsers, if_neg (by omega)]
    rfl
  | succ n ih =>
    by_cases alone : Alone (polls first)
    · obtain ⟨before, polled, turn⟩ := @waitForUsers_turn setup ui polls answers _ retries alone
        (by omega) conversation
      rw [asked] at polled turn
      obtain ⟨more, after, run, polled, waited⟩ :=
        @ih (first + 1) (retries + 1) (by omega) before polled (by omega)
      refine ⟨more + 1, after, ?_, by omega, waited.later alone⟩
      rw [turn, run]
      simp only [Nat.add_assoc, Nat.add_comm 1]
    · refine ⟨0, conversation, ?_, asked, .here bounded (.inl alone)⟩
      rw [waitForUsers, if_neg fun waiting => alone waiting.1]
      rfl

/-- How waiting for all users ends: the room expires exactly if the retries are used up. -/
theorem waitForAllUsersToJoinSession_run (answers : Answers ui polls)
    {sessionConfiguration : UiSessionConfiguration}
    (shared : sessionConfiguration.shared = some true)
    (named : sessionConfiguration.users ≠ none) (conversation : Conversation) :
    ∃ more, Waited polls conversation.polls 0 more ∧
      let result :=
        (waitForAllUsersToJoinSession setup ui sessionConfiguration).run conversation
      (finalState result).polls = conversation.polls + 1 + more ∧
        (Expired result ↔ more = waitingTimeForSecondUser + 1) := by
  have present : sessionConfiguration.users.isNone ≠ true := by simpa using named
  unfold waitForAllUsersToJoinSession
  rw [if_pos shared, if_neg present, EStateM.run_bind, getCurrentUsersOnline_run, answers,
    run_lift_ok]
  obtain ⟨more, after, run, polled, waited⟩ := @waitForUsers_run setup ui polls answers
    conversation.polls 0 (by omega)
    (Conversation.display setup invitation { conversation with polls := conversation.polls + 1 }) rfl
  refine ⟨more, waited, ?_⟩
  have bounded := waited.bounded
  simp only [EStateM.run_bind, EStateM.run_modify, run]
  split
  · have used_up : more = waitingTimeForSecondUser + 1 := by omega
    exact ⟨polled, iff_of_true ⟨_, rfl⟩ used_up⟩
  · have some_left : more ≠ waitingTimeForSecondUser + 1 := by omega
    refine ⟨polled, iff_of_false ?_ some_left⟩
    rintro ⟨message, raises⟩
    cases raises

/-- Without the users nothing is waited for. -/
theorem waitForAllUsersToJoinSession_missing {sessionConfiguration : UiSessionConfiguration}
    (shared : sessionConfiguration.shared = some true)
    (missing : sessionConfiguration.users = none) (conversation : Conversation) :
    (waitForAllUsersToJoinSession setup ui sessionConfiguration).run conversation =
      .error (.uiResponseError "No users information in UI's session configuration response ")
        conversation := by
  unfold waitForAllUsersToJoinSession
  rw [if_pos shared, missing]
  rfl

/-- The room expires exactly if nobody came, after a bounded number of polls. -/
structure ExpiresAlone (polls : Nat → List String) (conversation : Conversation)
    (result : EStateM.Result PyException Conversation Unit) : Prop where
  /-- The UI is asked a bounded number of times. -/
  bounded : (finalState result).polls ≤ conversation.polls + (waitingTimeForSecondUser + 2)
  /-- The error is raised exactly if no list had a second user, the last one included. -/
  expired : Expired result ↔ ∀ poll, conversation.polls ≤ poll → poll < (finalState result).polls →
    Alone (polls poll)

/-- The second user is there for the last poll only. -/
def LastMoment (polls : Nat → List String) (first : Nat) : Prop :=
  (∀ poll < waitingTimeForSecondUser + 1, Alone (polls (first + poll))) ∧
    ¬ Alone (polls (first + (waitingTimeForSecondUser + 1)))

/-- The polls up to some other one. -/
theorem alone_until {first more : Nat} :
    (∀ poll, first ≤ poll → poll < first + 1 + more → Alone (polls poll)) ↔
      (∀ poll < more, Alone (polls (first + poll))) ∧ Alone (polls (first + more)) := by
  constructor
  · intro alone
    exact ⟨fun poll earlier => alone _ (by omega) (by omega), alone _ (by omega) (by omega)⟩
  · rintro ⟨before, last⟩ poll started earlier
    obtain ⟨poll, rfl⟩ := Nat.exists_eq_add_of_le started
    rcases Nat.lt_or_ge poll more with sooner | later
    · exact before poll sooner
    · obtain rfl : poll = more := by omega
      exact last

/-- The room does not expire as it should if the second user is there for the last poll only. -/
theorem ExpiresAlone.timely (answers : Answers ui polls)
    {sessionConfiguration : UiSessionConfiguration}
    (shared : sessionConfiguration.shared = some true)
    (named : sessionConfiguration.users ≠ none) {conversation : Conversation}
    (expires : ExpiresAlone polls conversation
      ((waitForAllUsersToJoinSession setup ui sessionConfiguration).run conversation)) :
    ¬ LastMoment polls conversation.polls := by
  rintro ⟨before, last⟩
  obtain ⟨more, waited, polled, expired⟩ :=
    @waitForAllUsersToJoinSession_run setup ui polls answers _ shared named conversation
  have bounded := waited.bounded
  have right := expires.expired
  rw [expired, polled, alone_until] at right
  have used_up : more = waitingTimeForSecondUser + 1 := by
    rcases waited.ended with came | used_up
    · have late : ¬ more < waitingTimeForSecondUser + 1 := fun sooner => came (before more sooner)
      omega
    · omega
  subst used_up
  exact last (right.mp rfl).2

/-- A room with a list of users is left in time unless the second user is there for the last poll
only. -/
theorem expiresAlone_of_timely (answers : Answers ui polls)
    {sessionConfiguration : UiSessionConfiguration}
    (shared : sessionConfiguration.shared = some true)
    (named : sessionConfiguration.users ≠ none) {conversation : Conversation}
    (timely : ¬ LastMoment polls conversation.polls) :
    ExpiresAlone polls conversation
      ((waitForAllUsersToJoinSession setup ui sessionConfiguration).run conversation) := by
  obtain ⟨more, waited, polled, expired⟩ :=
    @waitForAllUsersToJoinSession_run setup ui polls answers _ shared named conversation
  have bounded := waited.bounded
  refine ⟨by omega, ?_⟩
  rw [expired, polled, alone_until]
  constructor
  · rintro rfl
    refine ⟨waited.alone, ?_⟩
    by_contra came
    exact timely ⟨waited.alone, came⟩
  · rintro ⟨-, last⟩
    rcases waited.ended with came | used_up
    · exact absurd last came
    · omega

/-- **The waiting room expires exactly when nobody came**, unless the second user is there for the
last poll only. -/
theorem expiresAlone_iff (setup : TaskSetup) (ui : Ui) (polls : Nat → List String)
    (answers : Answers ui polls) (sessionConfiguration : UiSessionConfiguration)
    (shared : sessionConfiguration.shared = some true) (conversation : Conversation) :
    ExpiresAlone polls conversation
        ((waitForAllUsersToJoinSession setup ui sessionConfiguration).run conversation) ↔
      sessionConfiguration.users ≠ none ∧ ¬ LastMoment polls conversation.polls := by
  by_cases named : sessionConfiguration.users = none
  · rw [waitForAllUsersToJoinSession_missing shared named]
    refine iff_of_false (fun expires => ?_) (fun present => present.1 named)
    obtain ⟨message, raises⟩ := expires.expired.mpr fun poll started earlier =>
      absurd earlier (Nat.not_lt.mpr started)
    cases raises
  · exact ⟨fun expires => ⟨named, expires.timely answers shared named⟩,
      fun present => expiresAlone_of_timely answers shared named present.2⟩

/-- A UI that gives these lists of users and no answer to questions. -/
def uiWithUsers (polls : Nat → List String) : Ui where
  sessionConfiguration poll := .ok (some (sharedSession (polls poll)))
  questionRadio := .error .amqpSynchCallTimeoutError

/-- Two users who are there from the beginning. -/
theorem expiresAlone_together : ExpiresAlone (fun _ => ["alice", "bob"]) {}
    ((waitForAllUsersToJoinSession quietSetup (uiWithUsers fun _ => ["alice", "bob"])
      (sharedSession ["alice"])).run {}) :=
  (expiresAlone_iff quietSetup _ _ (fun _ => rfl) (sharedSession ["alice"]) rfl {}).mpr
    ⟨Option.some_ne_none _, fun late => absurd (late.1 0 (by decide)) (by decide)⟩

/-- A second user who joins before the last poll. -/
def joinsLast (poll : Nat) : List String :=
  if poll < waitingTimeForSecondUser + 1 then ["alice"] else ["alice", "bob"]

/-- The last poll has two users, and the session expires. -/
theorem joinsLast_expires : ¬ ExpiresAlone joinsLast {}
    ((waitForAllUsersToJoinSession quietSetup (uiWithUsers joinsLast)
      (sharedSession ["alice"])).run {}) := by
  have answers : Answers (uiWithUsers joinsLast) joinsLast := fun poll => by
    simp only [uiWithUsers, joinsLast]
    split <;> rfl
  refine fun expires => expires.timely answers rfl (Option.some_ne_none _)
    ⟨fun poll earlier => ?_, by decide⟩
  have before : joinsLast (0 + poll) = ["alice"] := by
    rw [Nat.zero_add, joinsLast, if_pos earlier]
  rw [before]
  decide

end UiTask

end Ioppytest.UiAdaptor
