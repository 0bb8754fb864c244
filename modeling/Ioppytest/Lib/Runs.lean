import Mathlib.Data.List.Infix

/-!
# Runs of a deterministic reactive system

A system answers each input with its next state. A guard says which inputs may be given in which
state, so one definition covers runs of arbitrary inputs, runs of well-formed inputs and runs that
avoid a given kind of step. Invariants are proved once by induction on the run.
-/

namespace Runs

variable {σ ι : Type}

/-- The states reached from `init` by inputs that the guard allows. -/
inductive Reachable (next : σ → ι → σ) (allowed : σ → ι → Prop) (init : σ) : σ → Prop where
  | init : Reachable next allowed init init
  | step {state : σ} {input : ι} : Reachable next allowed init state → allowed state input →
      Reachable next allowed init (next state input)

variable {next : σ → ι → σ} {allowed : σ → ι → Prop} {init state : σ}

/-- A property of the initial state that every allowed step keeps holds of every reached state. -/
theorem Reachable.invariant {property : σ → Prop} (initially : property init)
    (kept : ∀ state input, Reachable next allowed init state → property state →
      allowed state input → property (next state input))
    (reached : Reachable next allowed init state) : property state := by
  induction reached with
  | init => exact initially
  | step earlier permitted ih => exact kept _ _ earlier ih permitted

/-- A run goes on from where another one ended. -/
theorem Reachable.trans {later : σ} (reached : Reachable next allowed init state)
    (further : Reachable next allowed state later) : Reachable next allowed init later := by
  induction further with
  | init => exact reached
  | step _ permitted ih => exact .step ih permitted

/-- Inputs that the guard allows one after the other. -/
def AllAllowed (next : σ → ι → σ) (allowed : σ → ι → Prop) : σ → List ι → Prop
  | _, [] => True
  | state, input :: rest => allowed state input ∧ AllAllowed next allowed (next state input) rest

/-- A guard that can be decided is decided along a run. -/
instance decidableAllAllowed [∀ state input, Decidable (allowed state input)] :
    (state : σ) → (inputs : List ι) → Decidable (AllAllowed next allowed state inputs)
  | _, [] => inferInstanceAs (Decidable True)
  | state, input :: rest =>
    have := decidableAllAllowed (next state input) rest
    inferInstanceAs (Decidable (_ ∧ _))

/-- Allowed inputs lead to a reached state. -/
theorem AllAllowed.reachable {inputs : List ι} (permitted : AllAllowed next allowed state inputs) :
    Reachable next allowed state (inputs.foldl next state) := by
  induction inputs generalizing state with
  | nil => exact .init
  | cons input rest ih => exact Reachable.trans (.step .init permitted.1) (ih permitted.2)

/-- Where every input is allowed, any inputs lead to a reached state. -/
theorem reachable_foldl (free : ∀ state input, allowed state input) (inputs : List ι) :
    Reachable next allowed state (inputs.foldl next state) := by
  induction inputs generalizing state with
  | nil => exact .init
  | cons input rest ih => exact Reachable.trans (.step .init (free state input)) ih

/-- Guards that agree as long as an invariant holds allow the same runs, if the steps that they
allow keep the invariant. -/
theorem allAllowed_congr {invariant : σ → Prop} {other : σ → ι → Prop}
    (agree : ∀ state input, invariant state → (allowed state input ↔ other state input))
    (kept : ∀ state input, invariant state → allowed state input → invariant (next state input))
    (initially : invariant state) (inputs : List ι) :
    AllAllowed next allowed state inputs ↔ AllAllowed next other state inputs := by
  induction inputs generalizing state with
  | nil => exact Iff.rfl
  | cons input rest ih =>
    simp only [AllAllowed]
    rw [agree state input initially]
    refine and_congr_right fun permitted => ?_
    have before := (agree state input initially).mpr permitted
    exact ih (kept state input initially before)

/-- A step that may get stuck, and is the given one wherever an invariant holds that it keeps, never
gets stuck. -/
theorem foldlM_total {invariant : σ → Prop} {stuck : σ → ι → Option σ}
    (total : ∀ state input, invariant state →
      stuck state input = some (next state input) ∧ invariant (next state input))
    (initially : invariant state) (inputs : List ι) :
    inputs.foldlM stuck state = some (inputs.foldl next state) ∧
      invariant (inputs.foldl next state) := by
  induction inputs generalizing state with
  | nil => exact ⟨rfl, initially⟩
  | cons input rest ih =>
    obtain ⟨steps, kept⟩ := total state input initially
    rw [List.foldlM_cons, steps]
    exact ih kept

/-- A property holds all along a run exactly if it holds first and after each input. -/
theorem always_iff {property : σ → Prop} (state : σ) (inputs : List ι) :
    (∀ before, before <+: inputs → property (before.foldl next state)) ↔
      property state ∧
        AllAllowed next (fun state input => property (next state input)) state inputs := by
  induction inputs generalizing state with
  | nil => simp [AllAllowed]
  | cons input rest ih =>
    have later := ih (next state input)
    constructor
    · intro always
      refine ⟨always [] (List.nil_prefix), always [input] ⟨rest, rfl⟩, (later.mp ?_).2⟩
      exact fun before front => always (input :: before) ((List.cons_prefix_cons).mpr ⟨rfl, front⟩)
    · rintro ⟨first, second, further⟩ before front
      cases before with
      | nil => exact first
      | cons other before =>
        obtain ⟨rfl, remaining⟩ := List.cons_prefix_cons.mp front
        exact later.mpr ⟨second, further⟩ before remaining

/-- A weaker guard reaches at least as many states. -/
theorem Reachable.mono {weaker : σ → ι → Prop}
    (weaken : ∀ state input, allowed state input → weaker state input)
    (reached : Reachable next allowed init state) : Reachable next weaker init state := by
  induction reached with
  | init => exact .init
  | step _ permitted ih => exact .step ih (weaken _ _ permitted)

section Observed

variable {γ : Type} {observe : γ → σ → ι → γ}

/-- A system together with what an observer has noted about its steps. -/
def observed (next : σ → ι → σ) (observe : γ → σ → ι → γ) : σ × γ → ι → σ × γ :=
  fun (state, noted) input => (next state input, observe noted state input)

/-- The states and notes reached by inputs that the guard allows. -/
abbrev Observed (next : σ → ι → σ) (allowed : σ → ι → Prop) (observe : γ → σ → ι → γ)
    (init : σ × γ) : σ × γ → Prop :=
  Reachable (observed next observe) (fun pair => allowed pair.1) init

/-- An observer does not change what a system does. -/
theorem Reachable.unobserved {noted : γ} {pair : σ × γ}
    (reached : Observed next allowed observe (init, noted) pair) :
    Reachable next allowed init pair.1 := by
  induction reached with
  | init => exact .init
  | step _ permitted ih => exact .step ih permitted

end Observed

end Runs
