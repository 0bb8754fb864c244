import Mathlib.Order.Fin.Basic

/-!
# Search round a cycle with a countdown

Iterating a cyclic iterator never ends by itself, so a search over one keeps its own count of the
moves left and gives up when the count would turn negative. Starting at the first of `n` elements
with `n` moves, the search looks at every element once and at the first one twice; it finds the
first element in order that satisfies the predicate, or proves that there is none.
-/

namespace CyclicSearch

variable {n : Nat}

/-- The element after this one, the first one after the last. -/
def next (i : Fin n) : Fin n := ⟨(i.val + 1) % n, Nat.mod_lt _ i.pos⟩

/-- Look at `i`; while nothing is found and a move is left, look at the next element. -/
def search (found : Fin n → Bool) : Nat → Fin n → Option (Fin n)
  | 0, i => if found i then some i else none
  | moves + 1, i => if found i then some i else search found moves (next i)

/-- From `i`, with the moves to reach the first element again, the search returns the first hit at
or after `i`, and otherwise what it finds at the first element. -/
theorem search_from (found : Fin n → Bool) (first : Fin n) (zero : first.val = 0)
    (moves : Nat) (i : Fin n) (enough : i.val + moves = n) :
    (∃ j, search found moves i = some j ∧ found j = true ∧ i ≤ j ∧
      ∀ k, i ≤ k → k < j → found k = false) ∨
    ((∀ k, i ≤ k → found k = false) ∧
      search found moves i = if found first then some first else none) := by
  induction moves generalizing i with
  | zero => have bound := i.isLt; omega
  | succ moves ih =>
    cases hit : found i with
    | true =>
      refine .inl ⟨i, by simp [search, hit], hit, le_refl i, fun k after before => ?_⟩
      exact absurd before (not_lt_of_ge after)
    | false =>
      have unfolded : search found (moves + 1) i = search found moves (next i) := by
        simp [search, hit]
      rw [unfolded]
      by_cases last : i.val + 1 = n
      · -- The last element: the only move left leads back to the first one.
        have none_left : moves = 0 := by omega
        have wrapped : next i = first := Fin.ext (by simp [next, last, zero])
        subst none_left
        refine .inr ⟨fun k after => ?_, by simp [search, wrapped]⟩
        have same : k = i := Fin.ext (by have := k.isLt; have : i.val ≤ k.val := after; omega)
        rw [same, hit]
      · have stepped : (next i).val = i.val + 1 :=
          Nat.mod_eq_of_lt (by have := i.isLt; omega)
        have split (k : Fin n) (after : i ≤ k) : k = i ∨ next i ≤ k := by
          have : i.val ≤ k.val := after
          rcases Nat.lt_or_eq_of_le this with later | same
          · exact .inr (show (next i).val ≤ k.val by omega)
          · exact .inl (Fin.ext same.symm)
        rcases ih (next i) (by omega) with ⟨j, result, holds, after, earlier⟩ | ⟨nothing, result⟩
        · refine .inl ⟨j, result, holds, ?_, fun k low high => ?_⟩
          · exact show i.val ≤ j.val by have : (next i).val ≤ j.val := after; omega
          · rcases split k low with same | beyond
            · rw [same, hit]
            · exact earlier k beyond high
        · refine .inr ⟨fun k low => ?_, result⟩
          rcases split k low with same | beyond
          · rw [same, hit]
          · exact nothing k beyond

/-- The whole search returns the first hit in order, or finds that there is none. -/
theorem search_all (found : Fin n → Bool) (first : Fin n) (zero : first.val = 0) :
    (∃ j, search found n first = some j ∧ found j = true ∧ ∀ k, k < j → found k = false) ∨
    ((∀ k, found k = false) ∧ search found n first = none) := by
  have least (k : Fin n) : first ≤ k := show first.val ≤ k.val by omega
  rcases search_from found first zero n first (by omega) with
    ⟨j, result, holds, -, earlier⟩ | ⟨nothing, result⟩
  · exact .inl ⟨j, result, holds, fun k => earlier k (least k)⟩
  · exact .inr ⟨fun k => nothing k (least k), by rw [result, nothing first (least first)]; rfl⟩

/-- What the search returns is the first hit in order. -/
theorem search_eq_some {found : Fin n → Bool} {first i : Fin n} (zero : first.val = 0) :
    search found n first = some i ↔ found i = true ∧ ∀ k, k < i → found k = false := by
  rcases search_all found first zero with ⟨j, result, holds, earlier⟩ | ⟨nothing, result⟩
  · rw [result, Option.some.injEq]
    refine ⟨fun same => same ▸ ⟨holds, earlier⟩, fun ⟨hit, before⟩ => ?_⟩
    rcases lt_trichotomy j i with low | same | high
    · exact absurd (before j low) (by simp [holds])
    · exact same
    · exact absurd (earlier i high) (by simp [hit])
  · simp [result, nothing]

/-- The search returns nothing exactly when no element satisfies the predicate. -/
theorem search_eq_none {found : Fin n → Bool} {first : Fin n} (zero : first.val = 0) :
    search found n first = none ↔ ∀ k, found k = false := by
  rcases search_all found first zero with ⟨j, result, holds, -⟩ | ⟨nothing, result⟩
  · simp only [result, reduceCtorEq, false_iff, not_forall]
    exact ⟨j, by simp [holds]⟩
  · simp [result, nothing]

end CyclicSearch
