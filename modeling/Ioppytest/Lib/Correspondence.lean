import Mathlib.Data.List.Nodup

/-!
# Requests, replies and answers

Requests are made under keys, and replies to them arrive under keys too: late, more than once, or
under keys that nobody knows. A table says which requests are pending. As long as every request has
a key of its own, a request that stays pending until the first reply to it is answered at most once,
and after a reply.
-/

/-- What has been asked, replied and answered so far, in order. -/
structure Correspondence (κ μ : Type) where
  /-- The keys of the requests. -/
  requests : List κ := []
  /-- The keys of the replies. -/
  replies : List κ := []
  /-- The answers, each with the key of the reply that it was made of. -/
  answers : List (κ × μ) := []

namespace Correspondence

variable {κ μ : Type}

/-- Note what was asked, the reply that was handled and the answers that were made of it. -/
def record (noted : Correspondence κ μ) (asked : List κ) (reply : Option κ) (answers : List μ) :
    Correspondence κ μ where
  requests := noted.requests ++ asked
  replies := noted.replies ++ reply.toList
  answers := noted.answers ++ reply.toList.flatMap fun key => answers.map (key, ·)

/-- What was asked before was asked of different keys if all was. -/
theorem unique_of_record {noted : Correspondence κ μ} {asked : List κ} {reply : Option κ}
    {answers : List μ} (unique : (noted.record asked reply answers).requests.Nodup) :
    noted.requests.Nodup ∧ ∀ key ∈ asked, key ∉ noted.requests := by
  obtain ⟨before, -, apart⟩ := List.nodup_append.mp unique
  exact ⟨before, fun key now earlier => apart key earlier key now rfl⟩

/-- Each request was answered at most once, after a reply to it, and is not pending any more. -/
structure Balanced (pending : κ → Prop) (noted : Correspondence κ μ) : Prop where
  /-- What is pending was asked. -/
  asked : ∀ key, pending key → key ∈ noted.requests
  /-- What was answered was asked, was replied to, and is not pending. -/
  answered : ∀ answer ∈ noted.answers,
    answer.1 ∈ noted.requests ∧ answer.1 ∈ noted.replies ∧ ¬ pending answer.1
  /-- Nothing was answered twice. -/
  once : (noted.answers.map Prod.fst).Nodup

variable {pending later : κ → Prop} {noted : Correspondence κ μ} {key : κ}

/-- Nothing has happened. -/
theorem balanced_empty (nothing : ∀ key, ¬ pending key) :
    Balanced pending ({} : Correspondence κ μ) where
  asked key there := absurd there (nothing key)
  answered _ member := by cases member
  once := List.nodup_nil

/-- A request is made under a new key. -/
theorem Balanced.ask (balanced : Balanced pending noted) (fresh : key ∉ noted.requests)
    (more : ∀ other, later other → pending other ∨ other = key) :
    Balanced later (noted.record [key] none []) where
  asked other there := by
    rcases more other there with earlier | rfl
    · exact List.mem_append_left _ (balanced.asked other earlier)
    · exact List.mem_append_right _ List.mem_cons_self
  answered answer member := by
    have before : answer ∈ noted.answers := by simpa [record] using member
    obtain ⟨asked, replied, gone⟩ := balanced.answered answer before
    refine ⟨List.mem_append_left _ asked, List.mem_append_left _ replied, fun there => ?_⟩
    rcases more _ there with earlier | same
    · exact gone earlier
    · exact fresh (same ▸ asked)
  once := by simpa [record] using balanced.once

/-- A reply that is not answered, if there is one at all; fewer requests may be pending. -/
theorem Balanced.note (balanced : Balanced pending noted) (reply : Option κ)
    (fewer : ∀ other, later other → pending other) : Balanced later (noted.record [] reply []) where
  asked other there := List.mem_append_left _ (balanced.asked other (fewer other there))
  answered answer member := by
    have before : answer ∈ noted.answers := by simpa [record] using member
    obtain ⟨asked, replied, gone⟩ := balanced.answered answer before
    exact ⟨List.mem_append_left _ asked, List.mem_append_left _ replied,
      fun there => gone (fewer _ there)⟩
  once := by
    cases reply <;> simpa [record] using balanced.once

/-- A reply to a pending request is answered, and the request is not pending any more. -/
theorem Balanced.answer (balanced : Balanced pending noted) (message : μ) (there : pending key)
    (fewer : ∀ other, later other → pending other ∧ other ≠ key) :
    Balanced later (noted.record [] (some key) [message]) where
  asked other remains := List.mem_append_left _ (balanced.asked other (fewer other remains).1)
  answered answer member := by
    rcases List.mem_append.mp member with before | now
    · obtain ⟨asked, replied, gone⟩ := balanced.answered answer before
      exact ⟨List.mem_append_left _ asked, List.mem_append_left _ replied,
        fun remains => gone (fewer _ remains).1⟩
    · obtain rfl : answer = (key, message) := by simpa using now
      exact ⟨List.mem_append_left _ (balanced.asked key there),
        List.mem_append_right _ (by simp), fun remains => (fewer key remains).2 rfl⟩
  once := by
    have unanswered : key ∉ noted.answers.map Prod.fst := by
      intro member
      obtain ⟨earlier, inside, same⟩ := List.mem_map.mp member
      exact (balanced.answered earlier inside).2.2 (same ▸ there)
    have appended : ((noted.record [] (some key) [message]).answers.map Prod.fst) =
        noted.answers.map Prod.fst ++ [key] := by simp [record]
    rw [appended]
    exact List.Nodup.append balanced.once (List.nodup_singleton _)
      (List.disjoint_singleton.mpr unanswered)

end Correspondence
