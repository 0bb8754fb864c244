import Ioppytest.Lib.OrderedDict
import Mathlib.Data.List.Dedup
import Mathlib.Data.List.Induction

/-!
# Catalogues

A dictionary that values are put into under a key of their own. What it holds in the end are the
values whose key no later one has, in the order in which the keys were first seen.
-/

/-- A dictionary of values under their own keys. -/
structure Catalogue (κ ν : Type) (key : ν → κ) where
  /-- The dictionary. -/
  dict : OrderedDict κ ν
  /-- Every value is under its key. -/
  keyed : ∀ item ∈ dict.items, item.1 = key item.2

namespace Catalogue

variable {κ ν : Type} {key : ν → κ}

/-- The empty catalogue. -/
def empty : Catalogue κ ν key := ⟨⟨[], List.nodup_nil⟩, fun _ member => by cases member⟩

/-- The values in order. -/
def values (catalogue : Catalogue κ ν key) : List ν := catalogue.dict.items.map Prod.snd

/-- The keys of the values are those of the dictionary. -/
theorem values_keys (catalogue : Catalogue κ ν key) :
    catalogue.values.map key = catalogue.dict.items.map Prod.fst := by
  rw [values, List.map_map]
  exact List.map_congr_left fun item member => (catalogue.keyed item member).symm

/-- The values have different keys. -/
theorem distinct (catalogue : Catalogue κ ν key) : (catalogue.values.map key).Nodup := by
  rw [values_keys]
  exact catalogue.dict.nodup

variable [DecidableEq κ]

/-- The value that takes the place of another one if it has its key. -/
def supersede (key : ν → κ) (value earlier : ν) : ν := if key earlier = key value then value else earlier

/-- Put a value under its key. -/
def add (catalogue : Catalogue κ ν key) (value : ν) : Catalogue κ ν key where
  dict := catalogue.dict.insert (key value) value
  keyed item member := by
    unfold OrderedDict.insert at member
    split at member
    · obtain ⟨earlier, inside, rfl⟩ := List.mem_map.mp member
      unfold OrderedDict.replace
      split
      · assumption
      · exact catalogue.keyed earlier inside
    · rcases List.mem_append.mp member with inside | last
      · exact catalogue.keyed item inside
      · rw [List.mem_singleton.mp last]

/-- The values after one was put in. -/
theorem values_add (catalogue : Catalogue κ ν key) (value : ν) :
    (catalogue.add value).values =
      if key value ∈ catalogue.values.map key then catalogue.values.map (supersede key value)
      else catalogue.values ++ [value] := by
  rw [values_keys]
  simp only [values, add, OrderedDict.insert]
  split
  · rw [List.map_map, List.map_map]
    apply List.map_congr_left
    intro item member
    simp only [Function.comp_apply, OrderedDict.replace, supersede, catalogue.keyed item member]
    split <;> rfl
  · simp

/-- What is in it after a value was put in. -/
theorem mem_add {catalogue : Catalogue κ ν key} {value other : ν}
    (member : other ∈ (catalogue.add value).values) : other = value ∨ other ∈ catalogue.values := by
  rw [values_add] at member
  split at member
  · obtain ⟨earlier, inside, rfl⟩ := List.mem_map.mp member
    unfold supersede
    split
    · exact .inl rfl
    · exact .inr inside
  · rcases List.mem_append.mp member with inside | last
    · exact .inr inside
    · exact .inl (List.mem_singleton.mp last)

/-- Put values in one after the other. -/
def addAll (catalogue : Catalogue κ ν key) (values : List ν) : Catalogue κ ν key :=
  values.foldl add catalogue

/-- The last value with a key. -/
def last? (key : ν → κ) (values : List ν) (wanted : κ) : Option ν :=
  values.reverse.find? fun value => key value = wanted

/-- The keys of values, in the order in which they were first seen. -/
def firstSeen (key : ν → κ) (values : List ν) : List κ := (values.map key).reverse.dedup.reverse

/-- For each key that was seen the last value that has it. -/
def latest (key : ν → κ) (values : List ν) : List ν :=
  (firstSeen key values).filterMap (last? key values)

/-- A key is seen exactly if a value has it. -/
theorem mem_firstSeen {values : List ν} {wanted : κ} :
    wanted ∈ firstSeen key values ↔ wanted ∈ values.map key := by
  simp [firstSeen]

/-- The last value with a key, when one more is appended. -/
theorem last?_append (values : List ν) (value : ν) (wanted : κ) :
    last? key (values ++ [value]) wanted =
      if key value = wanted then some value else last? key values wanted := by
  unfold last?
  rw [List.reverse_append, List.reverse_singleton, List.singleton_append, List.find?_cons]
  by_cases same : key value = wanted <;> simp [same]

/-- The value that is found has the key. -/
theorem last?_key {values : List ν} {value : ν} {wanted : κ}
    (found : last? key values wanted = some value) : key value = wanted := by
  simpa using List.find?_some found

/-- A key that is seen has a last value. -/
theorem last?_isSome {values : List ν} {wanted : κ} (seen : wanted ∈ values.map key) :
    ∃ value, last? key values wanted = some value := by
  obtain ⟨value, member, same⟩ := List.mem_map.mp seen
  apply Option.isSome_iff_exists.mp
  rw [last?, List.find?_isSome]
  exact ⟨value, List.mem_reverse.mpr member, by simp [same]⟩

/-- A key that was seen keeps its place, and another one comes last. -/
theorem firstSeen_append (values : List ν) (value : ν) :
    firstSeen key (values ++ [value]) =
      if key value ∈ values.map key then firstSeen key values
      else firstSeen key values ++ [key value] := by
  have reversed : ((values ++ [value]).map key).reverse = key value :: (values.map key).reverse := by
    simp
  unfold firstSeen
  rw [reversed]
  by_cases seen : key value ∈ values.map key
  · rw [if_pos seen, List.dedup_cons_of_mem (List.mem_reverse.mpr seen)]
  · have fresh : key value ∉ (values.map key).reverse := fun member =>
      seen (List.mem_reverse.mp member)
    rw [if_neg seen, List.dedup_cons_of_notMem fresh, List.reverse_cons]

/-- One value more. -/
theorem latest_append (values : List ν) (value : ν) :
    latest key (values ++ [value]) =
      if key value ∈ values.map key then (latest key values).map (supersede key value)
      else latest key values ++ [value] := by
  unfold latest
  rw [firstSeen_append]
  split
  · rw [List.map_filterMap]
    apply List.filterMap_congr
    intro wanted member
    obtain ⟨earlier, found⟩ := last?_isSome (mem_firstSeen.mp member)
    rw [last?_append, found, Option.map_some, supersede, last?_key found]
    by_cases same : key value = wanted
    · simp [same]
    · simp [same, Ne.symm same]
  · rename_i unseen
    have here : [key value].filterMap (last? key (values ++ [value])) = [value] := by
      simp [last?_append]
    rw [List.filterMap_append, here]
    congr 1
    apply List.filterMap_congr
    intro wanted member
    have apart : key value ≠ wanted := fun same => unseen (same ▸ mem_firstSeen.mp member)
    rw [last?_append, if_neg apart]

/-- The keys of what is left are those that were seen. -/
theorem latest_keys (values : List ν) : (latest key values).map key = firstSeen key values := by
  rw [latest, List.map_filterMap]
  have kept : ∀ wanted ∈ firstSeen key values,
      (last? key values wanted).map key = some wanted := by
    intro wanted member
    obtain ⟨value, found⟩ := last?_isSome (mem_firstSeen.mp member)
    rw [found, Option.map_some, last?_key found]
  rw [List.filterMap_congr kept, List.filterMap_some]

/-- **What a catalogue holds are the latest values.** -/
theorem values_addAll (values : List ν) :
    ((empty : Catalogue κ ν key).addAll values).values = latest key values := by
  induction values using List.reverseRecOn with
  | nil => rfl
  | append_singleton values value ih =>
    have seen : key value ∈ (latest key values).map key ↔ key value ∈ values.map key := by
      rw [latest_keys, mem_firstSeen]
    rw [addAll, List.foldl_concat, ← addAll, values_add, ih, latest_append]
    by_cases already : key value ∈ values.map key
    · rw [if_pos already, if_pos (seen.mpr already)]
    · rw [if_neg already, if_neg fun member => already (seen.mp member)]

/-- Values with different keys are all kept. -/
theorem latest_eq {values : List ν} (distinct : (values.map key).Nodup) :
    latest key values = values := by
  induction values using List.reverseRecOn with
  | nil => rfl
  | append_singleton values value ih =>
    rw [List.map_append, List.nodup_append] at distinct
    have unseen : key value ∉ values.map key := fun member =>
      distinct.2.2 _ member _ (by simp) rfl
    rw [latest_append, if_neg unseen, ih distinct.1]

end Catalogue
