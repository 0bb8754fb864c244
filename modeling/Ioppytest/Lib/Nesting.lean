import Ioppytest.Lib.Transitions

/-!
# A bound on nested triggers

An engine that fires nested triggers needs a bound on their depth. The bound is never met when the
triggers can be ranked so that the callbacks of a trigger fire only triggers of a smaller rank: then no
trigger raises the exception that stands for triggers nesting too deeply.
-/

namespace Raising

variable {ε σ α β : Type}

/-- Whatever state it is run in, a computation does not raise an exception. -/
def Spares (exception : ε) (body : EStateM ε σ α) : Prop :=
  ∀ state, raised (body.run state) ≠ some exception

namespace Spares

variable {exception : ε}

/-- Returning a value. -/
theorem value (value : α) : Spares exception (pure value : EStateM ε σ α) :=
  fun _ raises => by cases raises

/-- Raising another exception. -/
theorem raise {other : ε} (apart : other ≠ exception) :
    Spares exception (throw other : EStateM ε σ α) :=
  fun _ raises => apart (Option.some.inj raises)

/-- Reading the state. -/
theorem read : Spares exception (get : EStateM ε σ σ) := fun _ raises => by cases raises

/-- Changing the state. -/
theorem change (change : σ → σ) : Spares exception (modify change : EStateM ε σ Unit) :=
  fun _ raises => by cases raises

/-- A pure check. -/
theorem check {checked : Except ε α} (apart : checked ≠ .error exception) :
    Spares exception (lift checked : EStateM ε σ α) := by
  cases checked with
  | ok found => exact value found
  | error other => exact raise fun same => apart (congrArg Except.error same)

/-- A value that must be there. -/
theorem needed {other : ε} (apart : other ≠ exception) (found : Option α) :
    Spares exception (expect other found : EStateM ε σ α) := by
  cases found with
  | some found => exact value found
  | none => exact raise apart

/-- One computation and then another one. -/
theorem seq {first : EStateM ε σ α} {rest : α → EStateM ε σ β} (head : Spares exception first)
    (tail : ∀ value, Spares exception (rest value)) : Spares exception (first >>= rest) := by
  intro state
  have before := head state
  rw [EStateM.run_bind]
  cases run : first.run state with
  | error other between =>
    rw [run] at before
    exact before
  | ok value between => exact tail value between

/-- One of two computations. -/
theorem branch {condition : Prop} [Decidable condition] {first second : EStateM ε σ α}
    (holds : Spares exception first) (fails : Spares exception second) :
    Spares exception (if condition then first else second) := by
  split
  · exact holds
  · exact fails

/-- A computation that another exception guards. -/
theorem guarded {condition : Prop} [Decidable condition] {other : ε}
    {rest : Unit → EStateM ε σ β} (apart : other ≠ exception) (tail : Spares exception (rest ())) :
    Spares exception (if condition then throw other >>= rest else rest ()) :=
  branch (fun _ raises => apart (Option.some.inj raises)) tail

/-- A computation whose exceptions are handled. -/
theorem handled {body : EStateM ε σ α} {handler : ε → EStateM ε σ α} (head : Spares exception body)
    (handles : ∀ other, other ≠ exception → Spares exception (handler other)) :
    Spares exception (tryCatch body handler) := by
  intro state
  have before := head state
  rw [run_tryCatch]
  cases run : body.run state with
  | ok value after => exact fun raises => by cases raises
  | error other after =>
    rw [run] at before
    exact handles other (fun same => before (congrArg some same)) after

end Spares

end Raising

namespace Transitions

open Raising

variable {S T C P A ε σ : Type} {machine : Machine S T C P} {model : Model S T C P A ε σ}

/-- The callbacks that run when an edge is followed from a state. -/
def Machine.run (machine : Machine S T C P) (source : S) (edge : Edge S C P) : List C :=
  edge.before ++ (machine.states source).onExit ++ (machine.states edge.dest).onEnter ++ edge.after

/-- The callbacks fire certain triggers only, and nothing but these can nest too deeply. -/
structure Model.Fires (model : Model S T C P A ε σ) (fires : C → List (Trigger S T)) : Prop where
  /-- A callback that fires triggers that do not nest too deeply does not either. -/
  callback : ∀ fire name args,
    (∀ nested ∈ fires name, ∀ args, Spares model.recursionError (fire nested args)) →
      Spares model.recursionError (model.callback fire name args)
  /-- Conditions fire nothing. -/
  condition : ∀ name args, Spares model.recursionError (model.condition name args)
  /-- A trigger without a transition is another exception. -/
  machineError : ∀ fired source, model.machineError fired source ≠ model.recursionError

namespace Model.Fires

variable {fires : C → List (Trigger S T)} {fire : Trigger S T → A → EStateM ε σ Bool}

/-- Callbacks in order. -/
theorem callbacks (sound : model.Fires fires) {names : List C} {args : A}
    (nested : ∀ name ∈ names, ∀ inner ∈ fires name, ∀ args,
      Spares model.recursionError (fire inner args)) :
    Spares model.recursionError (Transitions.callbacks model fire names args) := by
  induction names with
  | nil => exact Spares.value ()
  | cons name rest ih =>
    exact (sound.callback fire name args (nested name List.mem_cons_self)).seq fun _ =>
      ih fun name member => nested name (List.mem_cons_of_mem _ member)

/-- Conditions in order. -/
theorem check (sound : model.Fires fires) (conditions : List (P × Bool)) (args : A) :
    Spares model.recursionError (Transitions.check model conditions args) := by
  induction conditions with
  | nil => exact Spares.value true
  | cons head rest ih =>
    exact (sound.condition head.1 args).seq fun _ => Spares.branch ih (Spares.value false)

/-- An edge. -/
theorem execute (sound : model.Fires fires) {source : S} {edge : Edge S C P} {args : A}
    (nested : ∀ name ∈ machine.run source edge, ∀ inner ∈ fires name, ∀ args,
      Spares model.recursionError (fire inner args)) :
    Spares model.recursionError (Transitions.execute machine model fire source edge args) := by
  have part {names : List C} (within : ∀ name ∈ names, name ∈ machine.run source edge) :
      Spares model.recursionError (Transitions.callbacks model fire names args) :=
    sound.callbacks fun name member => nested name (within name member)
  have changed : Spares model.recursionError
      (changeState machine model fire source edge.dest args) :=
    (part fun name member => by simp [Machine.run, member]).seq fun _ =>
      (Spares.change _).seq fun _ => part fun name member => by simp [Machine.run, member]
  exact (sound.check edge.conditions args).seq fun _ => Spares.branch
    ((part fun name member => by simp [Machine.run, member]).seq fun _ => changed.seq fun _ =>
      (part fun name member => by simp [Machine.run, member]).seq fun _ => Spares.value true)
    (Spares.value false)

/-- The edges in order. -/
theorem process (sound : model.Fires fires) {source : S} {edges : List (Edge S C P)} {args : A}
    (nested : ∀ edge ∈ edges, ∀ name ∈ machine.run source edge, ∀ inner ∈ fires name, ∀ args,
      Spares model.recursionError (fire inner args)) :
    Spares model.recursionError (Transitions.process machine model fire source edges args) := by
  induction edges with
  | nil => exact Spares.value false
  | cons edge rest ih =>
    exact (sound.execute (nested edge List.mem_cons_self)).seq fun _ => Spares.branch
      (Spares.value true) (ih fun edge member => nested edge (List.mem_cons_of_mem _ member))

end Model.Fires

section Ranking

variable [DecidableEq S] [DecidableEq T]

/-- The triggers can be ranked so that each callback fires only triggers of a smaller rank than the
trigger that runs it. -/
def Machine.Ranked (machine : Machine S T C P) (fires : C → List (Trigger S T))
    (rank : Trigger S T → Nat) : Prop :=
  ∀ fired source, ∀ edge ∈ machine.edges fired source, ∀ name ∈ machine.run source edge,
    ∀ nested ∈ fires name, rank nested < rank fired

/-- **A trigger does not nest too deeply** if the bound is above its rank. -/
theorem Machine.Ranked.trigger {fires : C → List (Trigger S T)} {rank : Trigger S T → Nat}
    (ranked : machine.Ranked fires rank) (sound : model.Fires fires) {depth : Nat}
    {fired : Trigger S T} (bounded : rank fired < depth) (args : A) :
    Spares model.recursionError (Transitions.trigger machine model depth fired args) := by
  induction depth generalizing fired args with
  | zero => omega
  | succ depth ih =>
    refine Spares.read.seq fun state => ?_
    have inner : Spares model.recursionError (Transitions.process machine model
        (Transitions.trigger machine model depth) (model.state state)
        (machine.edges fired (model.state state)) args) :=
      sound.process fun edge member name runs nested fires args =>
        ih (Nat.lt_of_lt_of_le (ranked fired _ edge member name runs nested fires)
          (Nat.le_of_lt_succ bounded)) args
    dsimp only
    split
    · exact Spares.branch (Spares.value false) (Spares.raise (sound.machineError _ _))
    · rename_i found
      rw [found] at inner
      exact inner

end Ranking

end Transitions
