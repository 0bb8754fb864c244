import Mathlib.Data.List.Nodup

/-!
# Insertion-ordered dictionaries

A dictionary keeps its entries in the order in which their keys were first inserted; assigning to
a key that is present replaces the value in place. That no key occurs twice is a field of the
structure.
-/

/-- A dictionary with its entries in insertion order. -/
structure OrderedDict (κ ν : Type) where
  /-- Entries in insertion order. -/
  items : List (κ × ν)
  /-- Every key occurs once. -/
  nodup : (items.map Prod.fst).Nodup

namespace OrderedDict

variable {κ ν : Type} [DecidableEq κ]

omit [DecidableEq κ] in
/-- The empty dictionary. -/
def empty : OrderedDict κ ν := ⟨[], List.nodup_nil⟩

/-- The value at a key, if the key is present. -/
def get? (dict : OrderedDict κ ν) (key : κ) : Option ν :=
  (dict.items.find? fun item => item.1 == key).map Prod.snd

/-- Replace the value of an entry whose key is the given one. -/
def replace (key : κ) (value : ν) (item : κ × ν) : κ × ν :=
  if item.1 = key then (item.1, value) else item

/-- Replacing a value keeps the key of its entry. -/
theorem replace_fst (key : κ) (value : ν) (item : κ × ν) : (replace key value item).1 = item.1 := by
  unfold replace
  split <;> rfl

/-- Assign a value to a key: in place when the key is present, at the end otherwise. -/
def insert (dict : OrderedDict κ ν) (key : κ) (value : ν) : OrderedDict κ ν :=
  if present : key ∈ dict.items.map Prod.fst then
    ⟨dict.items.map (replace key value), by
      have keys : (dict.items.map (replace key value)).map Prod.fst = dict.items.map Prod.fst := by
        simp [Function.comp_def, replace_fst]
      rw [keys]
      exact dict.nodup⟩
  else
    ⟨dict.items ++ [(key, value)], by
      rw [List.map_append, List.nodup_append]
      refine ⟨dict.nodup, by simp, fun first inside second last => ?_⟩
      simp only [List.map_cons, List.map_nil, List.mem_cons, List.not_mem_nil, or_false] at last
      rw [last]
      exact fun same => present (same ▸ inside)⟩

/-- Remove the entry of a key, if it is present. -/
def erase (dict : OrderedDict κ ν) (key : κ) : OrderedDict κ ν :=
  ⟨dict.items.filter fun item => item.1 ≠ key, dict.nodup.sublist (List.filter_sublist.map _)⟩

/-- Assign the entries of a second dictionary in order, as `dict.update` does. -/
def update (dict other : OrderedDict κ ν) : OrderedDict κ ν :=
  other.items.foldl (fun table item => table.insert item.1 item.2) dict

/-- Nothing is found in an empty dictionary. -/
@[simp] theorem get?_empty (key : κ) : (empty : OrderedDict κ ν).get? key = none := rfl

/-- The value at a key after an assignment. -/
theorem get?_insert (dict : OrderedDict κ ν) (key other : κ) (value : ν) :
    (dict.insert key value).get? other = if other = key then some value else dict.get? other := by
  have unmoved : (fun item : κ × ν => item.1 == other) ∘ replace key value =
      fun item => item.1 == other := by
    funext item
    simp [replace_fst]
  unfold insert
  split
  · rename_i present
    simp only [get?, List.find?_map, unmoved, Option.map_map]
    cases found : dict.items.find? fun item => item.1 == other with
    | none =>
      have absent : other ≠ key := by
        rintro rfl
        obtain ⟨item, inside, same⟩ := List.mem_map.mp present
        have missed := List.find?_eq_none.mp found item inside
        simp [same] at missed
      simp [absent]
    | some item =>
      have here : item.1 = other := by simpa using List.find?_some found
      by_cases same : other = key
      · simp [replace, here, same]
      · simp [replace, here, same]
  · rename_i missing
    simp only [get?, List.find?_append]
    by_cases same : other = key
    · subst same
      have absent : dict.items.find? (fun item => item.1 == other) = none := by
        rw [List.find?_eq_none]
        intro item inside hit
        exact missing (List.mem_map.mpr ⟨item, inside, by simpa using hit⟩)
      simp [absent]
    · have apart : ¬ key = other := fun equal => same equal.symm
      simp [same, apart]

/-- The value at a key after a removal. -/
theorem get?_erase (dict : OrderedDict κ ν) (key other : κ) :
    (dict.erase key).get? other = if other = key then none else dict.get? other := by
  have entry (item : κ × ν) : decide (decide (item.1 ≠ key) = true ∧ (item.1 == other) = true) =
      (!decide (other = key) && item.1 == other) := by
    by_cases here : item.1 = other
    · simp [here]
    · simp [here]
  simp only [get?, erase, List.find?_filter, entry]
  by_cases same : other = key
  · simp [same]
  · simp [same]

/-- Assigning entries in order: the last one for a key counts. -/
theorem get?_foldl_insert (items : List (κ × ν)) (dict : OrderedDict κ ν) (key : κ) :
    (items.foldl (fun table item => table.insert item.1 item.2) dict).get? key =
      ((items.reverse.find? fun item => item.1 == key).map Prod.snd).or (dict.get? key) := by
  induction items generalizing dict with
  | nil => rfl
  | cons item rest ih =>
    rw [List.foldl_cons, ih, get?_insert, List.reverse_cons, List.find?_append]
    cases rest.reverse.find? fun item => item.1 == key with
    | some later => simp
    | none =>
      by_cases same : key = item.1
      · simp [same]
      · have apart : ¬ item.1 = key := fun equal => same equal.symm
        simp [same, apart]

/-- The value at a key after an update. -/
theorem get?_update (dict other : OrderedDict κ ν) (key : κ) :
    (dict.update other).get? key = (other.get? key).or (dict.get? key) := by
  rw [update, get?_foldl_insert]
  congr 1
  -- Keys are distinct, so the last entry for a key is the first one.
  have distinct := other.nodup
  unfold get?
  generalize other.items = items at distinct
  induction items with
  | nil => rfl
  | cons item rest ih =>
    rw [List.map_cons, List.nodup_cons] at distinct
    rw [List.reverse_cons, List.find?_append, Option.map_or, ih distinct.2, List.find?_cons]
    by_cases same : item.1 = key
    · have absent : rest.find? (fun item => item.1 == key) = none := by
        rw [List.find?_eq_none]
        intro later inside hit
        refine distinct.1 (List.mem_map.mpr ⟨later, inside, ?_⟩)
        simpa [same] using hit
      simp [same, absent]
    · have missed : (item.1 == key) = false := beq_eq_false_iff_ne.mpr same
      simp [missed]

/-- Assigning entries with new keys adds them at the end. -/
theorem items_foldl_insert {items : List (κ × ν)} (distinct : (items.map Prod.fst).Nodup)
    {dict : OrderedDict κ ν} (fresh : ∀ item ∈ items, item.1 ∉ dict.items.map Prod.fst) :
    (items.foldl (fun table item => table.insert item.1 item.2) dict).items = dict.items ++ items := by
  induction items generalizing dict with
  | nil => simp
  | cons item rest ih =>
    rw [List.map_cons, List.nodup_cons] at distinct
    have added : (dict.insert item.1 item.2).items = dict.items ++ [item] := by
      unfold insert
      rw [dif_neg (fresh item List.mem_cons_self)]
    have further : ∀ later ∈ rest, later.1 ∉ (dict.insert item.1 item.2).items.map Prod.fst := by
      intro later inside
      have new := fresh later (List.mem_cons_of_mem _ inside)
      have other : later.1 ≠ item.1 := fun same =>
        distinct.1 (same ▸ List.mem_map.mpr ⟨later, inside, rfl⟩)
      rw [added, List.map_append, List.mem_append]
      simpa [other] using new
    rw [List.foldl_cons, ih distinct.2 further, added, List.append_assoc]
    rfl

/-- Updating the empty dictionary gives the other one. -/
theorem update_empty (dict : OrderedDict κ ν) : empty.update dict = dict := by
  have items : (empty.update dict).items = dict.items := by
    have fresh : ∀ item ∈ dict.items, item.1 ∉ (empty : OrderedDict κ ν).items.map Prod.fst :=
      fun item _ => by simp [empty]
    exact items_foldl_insert dict.nodup fresh
  obtain ⟨listed, nodup⟩ := dict
  generalize empty.update ⟨listed, nodup⟩ = updated at items
  obtain ⟨others, distinct⟩ := updated
  obtain rfl : others = listed := items
  rfl

/-- The value at a key is the one of its entry. -/
theorem get?_eq_some {dict : OrderedDict κ ν} {key : κ} {value : ν} :
    dict.get? key = some value ↔ (key, value) ∈ dict.items := by
  have distinct := dict.nodup
  unfold get?
  generalize dict.items = items at distinct
  induction items with
  | nil => simp
  | cons item rest ih =>
    rw [List.map_cons, List.nodup_cons] at distinct
    rw [List.find?_cons, List.mem_cons]
    by_cases same : item.1 = key
    · have absent : (key, value) ∉ rest := fun inside =>
        distinct.1 (same ▸ List.mem_map.mpr ⟨_, inside, rfl⟩)
      have here : (item.1 == key) = true := beq_iff_eq.mpr same
      rw [here]
      constructor
      · intro found
        exact .inl (Prod.ext same.symm (Option.some.inj found).symm)
      · intro inside
        rw [← inside.resolve_right absent]
        rfl
    · have missed : (item.1 == key) = false := beq_eq_false_iff_ne.mpr same
      have apart : (key, value) ≠ item := fun equal => same (by rw [← equal])
      rw [missed]
      exact (ih distinct.2).trans (or_iff_right apart).symm

/-- A key without a value is not among the keys. -/
theorem get?_eq_none {dict : OrderedDict κ ν} {key : κ} :
    dict.get? key = none ↔ key ∉ dict.items.map Prod.fst := by
  rw [Option.eq_none_iff_forall_ne_some]
  constructor
  · intro absent inside
    obtain ⟨item, member, rfl⟩ := List.mem_map.mp inside
    exact absent item.2 (get?_eq_some.mpr member)
  · intro absent value found
    exact absent (List.mem_map.mpr ⟨_, get?_eq_some.mp found, rfl⟩)

/-- A value is assigned to a new key at the end. -/
theorem items_insert {dict : OrderedDict κ ν} {key : κ} (fresh : dict.get? key = none) (value : ν) :
    (dict.insert key value).items = dict.items ++ [(key, value)] := by
  unfold insert
  rw [dif_neg (get?_eq_none.mp fresh)]

/-- Removing an entry removes it only. -/
theorem perm_erase {dict : OrderedDict κ ν} {key : κ} {value : ν} (found : dict.get? key = some value) :
    dict.items.Perm ((key, value) :: (dict.erase key).items) := by
  have member := get?_eq_some.mp found
  have distinct := dict.nodup
  change dict.items.Perm ((key, value) :: dict.items.filter fun item => item.1 ≠ key)
  generalize dict.items = items at member distinct
  induction items with
  | nil => cases member
  | cons item rest ih =>
    rw [List.map_cons, List.nodup_cons] at distinct
    by_cases here : (key, value) = item
    · subst here
      have others : rest.filter (fun item => decide (item.1 ≠ key)) = rest := by
        refine List.filter_eq_self.mpr fun other inside => decide_eq_true fun same => ?_
        exact distinct.1 (List.mem_map.mpr ⟨other, inside, same⟩)
      rw [List.filter_cons_of_neg (by simp), others]
    · have inside := (List.mem_cons.mp member).resolve_left here
      have apart : item.1 ≠ key := fun same =>
        distinct.1 (same ▸ List.mem_map.mpr ⟨_, inside, rfl⟩)
      rw [List.filter_cons_of_pos (by simpa using apart)]
      exact ((ih inside distinct.2).cons item).trans (List.Perm.swap _ _ _)

end OrderedDict
