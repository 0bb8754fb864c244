import Mathlib.Data.List.Basic

/-!
# Things in flight

What is under way between components is a list from which anything may be taken next, in any order.
Taking it replaces it by what becomes of it, or removes it.
-/

namespace InFlight

variable {α : Type}

/-- Replace the thing at a place by what becomes of it. -/
def alter (things : List α) (n : Nat) (change : α → Option α) : List α :=
  things.take n ++ (things[n]?.bind change).toList ++ things.drop (n + 1)

variable {things : List α} {n : Nat} {change : α → Option α} {thing : α}

/-- What is there afterwards was there before, or comes of what was changed. -/
theorem mem_alter (member : thing ∈ alter things n change) :
    thing ∈ things ∨ ∃ earlier, things[n]? = some earlier ∧ change earlier = some thing := by
  rcases List.mem_append.mp member with early | late
  · rcases List.mem_append.mp early with early | changed
    · exact .inl (List.mem_of_mem_take early)
    · exact .inr (Option.bind_eq_some_iff.mp (Option.mem_toList.mp changed))
  · exact .inl (List.mem_of_mem_drop late)

/-- What is in flight lies before or after the place that a change is about. -/
theorem split (there : things[n]? = some thing) :
    things = things.take n ++ thing :: things.drop (n + 1) := by
  obtain ⟨inside, same⟩ := List.getElem?_eq_some_iff.mp there
  rw [← same, List.getElem_cons_drop, List.take_append_drop]

/-- Where nothing is, nothing is changed. -/
theorem alter_none (nothing : things[n]? = none) : alter things n change = things := by
  have short : things.length ≤ n := List.getElem?_eq_none_iff.mp nothing
  simp [alter, nothing, List.take_of_length_le short,
    List.drop_of_length_le (Nat.le_succ_of_le short)]

section Observed

variable {β : Type} {observe : α → Option β}

/-- A change that an observer does not see. -/
theorem filterMap_alter (unseen : ∀ thing, (change thing).bind observe = observe thing) :
    (alter things n change).filterMap observe = things.filterMap observe := by
  cases there : things[n]? with
  | none => rw [alter_none there]
  | some thing =>
    have seen : (change thing).toList.filterMap observe = (observe thing).toList := by
      rw [← unseen thing]
      cases change thing with
      | none => rfl
      | some changed => cases seen : observe changed <;> simp [seen]
    have whole : things.filterMap observe = (things.take n).filterMap observe ++
        ((observe thing).toList ++ (things.drop (n + 1)).filterMap observe) := by
      conv_lhs => rw [split there]
      rw [List.filterMap_append, List.filterMap_cons]
      cases observe thing <;> rfl
    rw [alter, there, Option.bind_some, List.filterMap_append, List.filterMap_append, seen, whole,
      List.append_assoc]

/-- Taking a thing away takes what is observed of it away. -/
theorem filterMap_remove (observe : α → Option β) {seen : β} (there : things[n]? = some thing)
    (observed : observe thing = some seen) :
    ∃ before after, things.filterMap observe = before ++ seen :: after ∧
      (alter things n fun _ => none).filterMap observe = before ++ after := by
  refine ⟨(things.take n).filterMap observe, (things.drop (n + 1)).filterMap observe, ?_, ?_⟩
  · conv_lhs => rw [split there]
    rw [List.filterMap_append, List.filterMap_cons, observed]
  · rw [alter, there]
    simp [List.filterMap_append]

end Observed

/-- What things weigh together. -/
def load (weight : α → Nat) : List α → Nat
  | [] => 0
  | thing :: rest => weight thing + load weight rest

/-- The load of two parts. -/
theorem load_append (weight : α → Nat) (early late : List α) :
    load weight (early ++ late) = load weight early + load weight late := by
  induction early with
  | nil => exact (Nat.zero_add _).symm
  | cons thing rest ih => rw [List.cons_append, load, load, ih, Nat.add_assoc]

/-- A change adds the weight of what becomes of a thing, and takes its own away. -/
theorem load_alter (weight : α → Nat) (change : α → Option α) (there : things[n]? = some thing) :
    load weight (alter things n change) + weight thing =
      load weight things + (change thing).elim 0 weight := by
  have whole : load weight things =
      load weight (things.take n) + (weight thing + load weight (things.drop (n + 1))) := by
    conv_lhs => rw [split there]
    rw [load_append, load]
  have changed : load weight (change thing).toList = (change thing).elim 0 weight := by
    cases change thing <;> rfl
  rw [whole, alter, there, Option.bind_some, load_append, load_append, changed]
  omega

end InFlight
