import Ioppytest.Lib.Runs

/-!
# What a system comes to

A goal is inevitable if every way of going on leads to it: as long as it is not reached some input is
allowed, and no choice of allowed inputs avoids it for ever. The rule proves it from an invariant,
from progress and from a quantity that every allowed step decreases.
-/

namespace Runs

variable {σ ι : Type}

/-- Every way of going on leads to the goal. -/
inductive Inevitable (next : σ → ι → σ) (allowed : σ → ι → Prop) (goal : σ → Prop) : σ → Prop where
  /-- The goal is reached. -/
  | reached {state : σ} : goal state → Inevitable next allowed goal state
  /-- Something is allowed, and whatever is done leads to the goal. -/
  | ahead {state : σ} : (∃ input, allowed state input) →
      (∀ input, allowed state input → Inevitable next allowed goal (next state input)) →
      Inevitable next allowed goal state

variable {next : σ → ι → σ} {allowed : σ → ι → Prop} {goal : σ → Prop} {state : σ}

/-- A system that makes progress while an invariant holds, and whose steps keep the invariant and
decrease a quantity, comes to its goal. -/
theorem inevitable_of_decreasing {α : Type} {smaller : α → α → Prop}
    (wellFounded : WellFounded smaller) (quantity : σ → α) {invariant : σ → Prop}
    (progress : ∀ state, invariant state → goal state ∨ ∃ input, allowed state input)
    (kept : ∀ state input, invariant state → allowed state input →
      invariant (next state input) ∧ smaller (quantity (next state input)) (quantity state))
    (initially : invariant state) : Inevitable next allowed goal state := by
  induction measured : quantity state using wellFounded.induction generalizing state with
  | _ amount ih =>
    rcases progress state initially with reached | possible
    · exact .reached reached
    · refine .ahead possible fun input permitted => ?_
      obtain ⟨later, less⟩ := kept state input initially permitted
      exact ih _ (measured ▸ less) later rfl

/-- The states that inputs lead to one after the other. -/
def trail (next : σ → ι → σ) (state : σ) (inputs : Nat → ι) : Nat → σ
  | 0 => state
  | n + 1 => next (trail next state inputs n) (inputs n)

/-- The first input may be taken before the others. -/
theorem trail_succ (state : σ) (inputs : Nat → ι) (n : Nat) :
    trail next state inputs (n + 1) =
      trail next (next state (inputs 0)) (fun k => inputs (k + 1)) n := by
  induction n with
  | zero => rfl
  | succ n ih => rw [trail, ih, trail]

/-- No endless choice of allowed inputs avoids an inevitable goal. -/
theorem Inevitable.trail (inevitable : Inevitable next allowed goal state) (inputs : Nat → ι)
    (permitted : ∀ n, allowed (trail next state inputs n) (inputs n)) :
    ∃ n, goal (Runs.trail next state inputs n) := by
  induction inevitable generalizing inputs with
  | reached here => exact ⟨0, here⟩
  | ahead _ _ ih =>
    obtain ⟨n, later⟩ := ih (inputs 0) (permitted 0) (fun k => inputs (k + 1))
      fun n => (trail_succ _ inputs n : _ = _) ▸ permitted (n + 1)
    exact ⟨n + 1, by rwa [trail_succ]⟩

/-- Where nothing is allowed any more at the goal, nothing goes on for ever. -/
theorem Inevitable.halts (inevitable : Inevitable next allowed goal state)
    (stopped : ∀ state input, goal state → ¬ allowed state input) (inputs : Nat → ι) :
    ¬ ∀ n, allowed (Runs.trail next state inputs n) (inputs n) := by
  intro permitted
  obtain ⟨n, reached⟩ := inevitable.trail inputs permitted
  exact stopped _ _ reached (permitted n)

/-- A quantity that grows with every input that counts, until a lasting goal is reached, has grown by
as much as there were such inputs, or the goal is reached. -/
theorem reached_or_grown {counts : ι → Bool} {quantity : σ → Nat} {invariant : σ → Prop}
    (kept : ∀ state input, invariant state → invariant (next state input))
    (lasting : ∀ state input, goal state → goal (next state input))
    (grows : ∀ state input, invariant state → ¬ goal (next state input) →
      quantity state + (counts input).toNat ≤ quantity (next state input))
    (initially : invariant state) (inputs : List ι) :
    invariant (inputs.foldl next state) ∧ (goal (inputs.foldl next state) ∨
      quantity state + inputs.countP counts ≤ quantity (inputs.foldl next state)) := by
  induction inputs using List.reverseRecOn with
  | nil => exact ⟨initially, .inr le_rfl⟩
  | append_singleton inputs input ih =>
    obtain ⟨holds, earlier⟩ := ih
    rw [List.foldl_concat]
    refine ⟨kept _ input holds, ?_⟩
    by_cases reached : goal (next (inputs.foldl next state) input)
    · exact .inl reached
    · right
      have grown := earlier.resolve_left fun there => reached (lasting _ input there)
      have step := grows _ input holds reached
      rw [List.countP_append, List.countP_singleton]
      cases counted : counts input with
      | true =>
        rw [counted, Bool.toNat_true] at step
        rw [if_pos rfl]
        omega
      | false =>
        rw [counted, Bool.toNat_false] at step
        rw [if_neg Bool.false_ne_true]
        omega

end Runs
