import Ioppytest.Lib.Raising
import Mathlib.Data.List.Basic

/-!
# Lists as mutable objects

A Python list is an object: names refer to it, and `remove` and `pop` change it for all of them.
Here a memory is the lists that have been created, in order, and a reference is a position in it.
What is done to a copy leaves all older lists as they are.
-/

namespace MutableLists

open Raising

variable {α ε : Type}

/-- The lists that have been created. -/
abbrev Memory (α : Type) : Type := List (List α)

/-- The list that a reference stands for. -/
def read (memory : Memory α) (reference : Nat) : List α := memory.getD reference []

/-- A new list. -/
def new (elements : List α) : EStateM ε (Memory α) Nat := fun memory =>
  .ok memory.length (memory ++ [elements])

/-- `list.copy()`. -/
def copy (reference : Nat) : EStateM ε (Memory α) Nat := do
  new (read (← get) reference)

/-- `list.remove(element)`; the exception is raised if there is none. -/
def remove [DecidableEq α] (missing : ε) (reference : Nat) (element : α) :
    EStateM ε (Memory α) Unit := do
  let elements := read (← get) reference
  if element ∈ elements then modify (·.set reference (elements.erase element)) else throw missing

/-- `list.pop()`; the exception is raised if the list is empty. -/
def pop (empty : ε) (reference : Nat) : EStateM ε (Memory α) α := do
  let elements := read (← get) reference
  let last ← expect empty elements.getLast?
  modify (·.set reference elements.dropLast)
  return last

variable {memory after : Memory α} {elements : List α}

/-- The list that was allocated last. -/
@[simp] theorem read_last : read (memory ++ [elements]) memory.length = elements := by
  simp [read]

/-- Older lists are the same in a memory that has grown. -/
theorem getElem?_grown {reference : Nat} (grown : memory <+: after)
    (stored : memory[reference]? = some elements) : after[reference]? = some elements := by
  obtain ⟨newer, rfl⟩ := grown
  obtain ⟨inside, -⟩ := List.getElem?_eq_some_iff.mp stored
  rw [List.getElem?_append_left inside, stored]

/-- Allocating a list. -/
@[simp] theorem run_new : (new elements : EStateM ε (Memory α) Nat).run memory =
    .ok memory.length (memory ++ [elements]) := rfl

/-- A copy is the newest list. -/
theorem run_copy {reference : Nat} (stored : memory[reference]? = some elements) :
    (copy reference : EStateM ε (Memory α) Nat).run memory =
      .ok memory.length (memory ++ [elements]) := by
  have same : read memory reference = elements := by
    rw [read, List.getD_eq_getElem?_getD, stored, Option.getD_some]
  change (new (read memory reference)).run memory = _
  rw [same, run_new]

/-- An element is removed from the newest list. -/
theorem run_remove [DecidableEq α] {missing : ε} {element : α} (member : element ∈ elements) :
    (remove missing memory.length element).run (memory ++ [elements]) =
      .ok () (memory ++ [elements.erase element]) := by
  unfold remove
  simp only [EStateM.run_bind, EStateM.run_get, read_last, if_pos member, EStateM.run_modify]
  simp

/-- The last element of the newest list is taken from it, if it has one. -/
theorem run_pop {empty : ε} :
    (pop empty memory.length).run (memory ++ [elements]) =
      match elements.getLast? with
      | some last => .ok last (memory ++ [elements.dropLast])
      | none => .error empty (memory ++ [elements]) := by
  unfold pop
  simp only [EStateM.run_bind, EStateM.run_get, read_last]
  cases elements.getLast? with
  | none => rfl
  | some last =>
    simp only [run_expect_some, EStateM.run_modify]
    simp

end MutableLists
