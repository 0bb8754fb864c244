import Mathlib.Order.Lattice
import Mathlib.Data.List.Basic

/-!
# A running maximum that keeps the last element attaining it

Elements are compared by a key. A later element replaces the running one unless its key is smaller,
so what a fold ends with is the last of the elements with the greatest key. Its key depends only on
which elements there are, not on their order, and it grows with them.
-/

namespace RunningMax

variable {ε α : Type} [LinearOrder α] {key : ε → α}

/-- The running element after one more. -/
def take (key : ε → α) (running next : ε) : ε :=
  if key running ≤ key next then next else running

/-- The last of the elements with the greatest key. -/
structure LastMax (key : ε → α) (elements : List ε) (best : ε) : Prop where
  /-- It is one of the elements, and the later ones have smaller keys. -/
  last : ∃ before after, elements = before ++ best :: after ∧ ∀ other ∈ after, key other < key best
  /-- No element has a greater key. -/
  le : ∀ other ∈ elements, key other ≤ key best

variable {elements others : List ε} {best other start : ε}

/-- The last maximum is one of the elements. -/
theorem LastMax.mem (maximal : LastMax key elements best) : best ∈ elements := by
  obtain ⟨before, after, rfl, -⟩ := maximal.last
  simp

/-- More elements have at least as great a maximum. -/
theorem LastMax.mono (maximal : LastMax key elements best) (further : LastMax key others other)
    (among : elements ⊆ others) : key best ≤ key other :=
  further.le best (among maximal.mem)

/-- The same elements in another order have the same maximum. -/
theorem LastMax.perm (maximal : LastMax key elements best) (shuffled : LastMax key others other)
    (same : elements.Perm others) : key best = key other :=
  le_antisymm (maximal.mono shuffled same.subset) (shuffled.mono maximal same.symm.subset)

/-- One more element. -/
theorem LastMax.append (maximal : LastMax key elements best) (next : ε) :
    LastMax key (elements ++ [next]) (take key best next) := by
  unfold take
  split
  · rename_i greater
    refine ⟨⟨elements, [], rfl, by simp⟩, fun other member => ?_⟩
    rcases List.mem_append.mp member with earlier | here
    · exact le_trans (maximal.le other earlier) greater
    · rw [List.mem_singleton.mp here]
  · rename_i smaller
    obtain ⟨before, after, whole, below⟩ := maximal.last
    have less : key next < key best := lt_of_not_ge smaller
    refine ⟨⟨before, after ++ [next], by simp [whole], fun other member => ?_⟩,
      fun other member => ?_⟩
    · rcases List.mem_append.mp member with earlier | here
      · exact below other earlier
      · rwa [List.mem_singleton.mp here]
    · rcases List.mem_append.mp member with earlier | here
      · exact maximal.le other earlier
      · rw [List.mem_singleton.mp here]
        exact le_of_lt less

/-- A fold ends with the last maximum of the elements and of what it starts from. -/
theorem foldl_take (elements : List ε) (start : ε) :
    LastMax key (start :: elements) (elements.foldl (take key) start) := by
  have folded (earlier : List ε) (running : ε) (maximal : LastMax key earlier running) :
      LastMax key (earlier ++ elements) (elements.foldl (take key) running) := by
    induction elements generalizing earlier running with
    | nil => simpa using maximal
    | cons next rest ih =>
      have further := ih (earlier ++ [next]) _ (maximal.append next)
      rwa [List.append_assoc] at further
  exact folded [start] start ⟨⟨[], [], rfl, by simp⟩, by simp⟩

/-- A start below all elements is forgotten as soon as there is an element. -/
theorem foldl_take_of_le (nonempty : elements ≠ [])
    (least : ∀ other ∈ elements, key start ≤ key other) :
    LastMax key elements (elements.foldl (take key) start) := by
  have maximal : LastMax key (start :: elements) (elements.foldl (take key) start) :=
    foldl_take elements start
  obtain ⟨before, after, whole, below⟩ := maximal.last
  refine ⟨?_, fun other member => maximal.le other (List.mem_cons_of_mem _ member)⟩
  cases before with
  | nil =>
    obtain ⟨first, rfl⟩ := List.cons.inj whole
    obtain ⟨other, member⟩ := List.exists_mem_of_ne_nil _ nonempty
    rw [← first] at below
    exact absurd (below other member) (not_lt_of_ge (least other member))
  | cons first before => exact ⟨before, after, (List.cons.inj whole).2, below⟩

end RunningMax
