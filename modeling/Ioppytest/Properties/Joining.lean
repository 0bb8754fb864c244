import Ioppytest.UiAdaptor.UiTasks
import Ioppytest.Lib.Runs
import Mathlib.Data.List.MinMax

/-!
# Users who join

The list of users that is stored for the comparison is the longest one so far, and not the one of
the previous poll. A user who joins is noticed if there have never been that many users, and if they
are not on the list that is stored; then it is also never one of the previous poll who is reported.
-/

namespace Ioppytest.UiAdaptor

open Runs

/-- The list that is stored, and all lists so far. -/
abbrev Watch : Type := List String × List (List String)

namespace Watch

/-- The user is reported for this poll. -/
def Reported (onlineUsers polled : List String) (user : String) : Prop :=
  ∃ diff, (newUsers onlineUsers polled).1 = some diff ∧ user ∈ diff

/-- The first list is stored as it is. -/
def start (first : List String) : Watch := (first, [first])

/-- The next poll; an observer notes the list. -/
def next : Watch → List String → Watch :=
  observed (fun onlineUsers polled => (newUsers onlineUsers polled).2)
    fun lists _ polled => lists ++ [polled]

/-- The user was in the previous poll. -/
def WasOnline (watch : Watch) (user : String) : Prop := ∃ last ∈ watch.2.getLast?, user ∈ last

/-- Who joins is reported, and who was in the previous poll is not. -/
structure Noticed (watch : Watch) (polled : List String) : Prop where
  /-- Everybody who joins is reported. -/
  joining : ∀ user ∈ polled, ¬ watch.WasOnline user → Reported watch.1 polled user
  /-- Nobody else is. -/
  staying : ∀ user, Reported watch.1 polled user → ¬ watch.WasOnline user

/-- Who joins makes the list longer than all the lists before, and is not on the first of the longest
of these. -/
def JoinsAnew (watch : Watch) (polled : List String) : Prop :=
  ∀ user ∈ polled, ¬ watch.WasOnline user → ∀ longest ∈ watch.2.argmax List.length,
    longest.length < polled.length ∧ user ∉ longest

variable {watch : Watch} {polled onlineUsers : List String} {user : String}

/-- A user is reported exactly if the list is longer than the stored one, which does not have them. -/
theorem reported_iff : Reported onlineUsers polled user ↔
    onlineUsers.length < polled.length ∧ user ∈ polled ∧ user ∉ onlineUsers := by
  unfold Reported newUsers
  split
  · rename_i longer
    simp [longer]
  · rename_i shorter
    simp [shorter]

/-- The stored list is the longest so far, and has the users of the previous poll. -/
structure Current (watch : Watch) : Prop where
  /-- It is the first of the longest lists. -/
  longest : watch.2.argmax List.length = some watch.1
  /-- Who was in the previous poll is on it. -/
  covers : ∀ user, watch.WasOnline user → user ∈ watch.1

/-- The list at the start is the longest one. -/
theorem start_current (first : List String) : (start first).Current where
  longest := rfl
  covers user := by
    rintro ⟨last, here, member⟩
    obtain rfl : first = last := by simpa [start] using here
    exact member

/-- The longest list is stored, whoever is on it. -/
theorem next_longest (longest : watch.2.argmax List.length = some watch.1)
    (polled : List String) :
    (watch.next polled).2.argmax List.length = some (watch.next polled).1 := by
  obtain ⟨onlineUsers, lists⟩ := watch
  change (lists ++ [polled]).argmax List.length = some (newUsers onlineUsers polled).2
  rw [List.argmax_concat, longest, newUsers]
  dsimp only
  split <;> rfl

/-- After a poll it is the users of this poll who were online. -/
theorem next_wasOnline : (watch.next polled).WasOnline user ↔ user ∈ polled := by
  obtain ⟨onlineUsers, lists⟩ := watch
  simp [WasOnline, next, observed]

/-- With the stored list current, a poll is noticed exactly if users join anew. -/
theorem Current.noticed (current : watch.Current) (polled : List String) :
    Noticed watch polled ↔ JoinsAnew watch polled := by
  constructor
  · intro noticed user member joins longest best
    obtain rfl : watch.1 = longest := Option.some.inj (current.longest.symm.trans best)
    obtain ⟨longer, -, absent⟩ := reported_iff.mp (noticed.joining user member joins)
    exact ⟨longer, absent⟩
  · refine fun anew => ⟨fun user member joins => ?_, fun user reported was => ?_⟩
    · obtain ⟨longer, absent⟩ := anew user member joins watch.1 current.longest
      exact reported_iff.mpr ⟨longer, member, absent⟩
    · exact (reported_iff.mp reported).2.2 (current.covers user was)

/-- A poll that is noticed keeps the stored list current. -/
theorem Current.next (current : watch.Current) (noticed : Noticed watch polled) :
    (watch.next polled).Current where
  longest := next_longest current.longest polled
  covers user was := by
    have member : user ∈ polled := next_wasOnline.mp was
    change user ∈ (newUsers watch.1 polled).2
    unfold newUsers
    split
    · exact member
    · rename_i shorter
      by_contra absent
      have joins : ¬ watch.WasOnline user := fun was => absent (current.covers user was)
      exact shorter (reported_iff.mp (noticed.joining user member joins)).1

/-- **Every joining user is noticed exactly if users join anew**: in each poll with a new user the
list is longer than ever before, and nobody comes back who is still on the longest list. -/
theorem joins_noticed_iff (first : List String) (lists : List (List String)) :
    AllAllowed next Noticed (start first) lists ↔
      AllAllowed next JoinsAnew (start first) lists :=
  allAllowed_congr (fun _ polled current => current.noticed polled)
    (fun _ _ current noticed => current.next noticed) (start_current first) lists

/-- Bob leaves while Carol joins, and she is not reported. -/
theorem carol_unnoticed :
    ¬ AllAllowed next Noticed (start ["alice", "bob"]) [["alice", "carol"]] := by
  rintro ⟨noticed, -⟩
  have reported := noticed.joining "carol" (by decide) fun ⟨last, here, member⟩ => by
    obtain rfl : ["alice", "bob"] = last := by simpa [start] using here
    exact absurd member (by decide)
  exact absurd (reported_iff.mp reported).1 (by decide)

end Watch

namespace UiTask

/-- The comparison is made with the list of the poll. -/
theorem getNewUserOnSession_run {ui : Ui} {conversation : Conversation} {polled : List String}
    (answer : usersOnline (ui.sessionConfiguration conversation.polls) = .ok polled)
    (onlineUsers : List String) :
    (getNewUserOnSession ui onlineUsers).run conversation =
      .ok (newUsers onlineUsers polled) { conversation with polls := conversation.polls + 1 } := by
  unfold getNewUserOnSession
  rw [EStateM.run_bind, getCurrentUsersOnline_run, answer]
  rfl

end UiTask

end Ioppytest.UiAdaptor
