/-
This file packs a finite map from texts together with the order of its keys, so that two maps with
the same look-ups are the same map.
-/

import BeanContainer.Collection.Keyed

namespace BeanContainer

structure SortedMap (Value : Type) where
  entries : List (String × Value)
  ascending : Keyed.Ascending entries

namespace SortedMap

variable {Value : Type}

def empty : SortedMap Value := ⟨[], List.Pairwise.nil⟩

instance : EmptyCollection (SortedMap Value) := ⟨empty⟩

instance : Inhabited (SortedMap Value) := ⟨empty⟩

def get? (map : SortedMap Value) (key : String) : Option Value := map.entries.lookup key

def contains (map : SortedMap Value) (key : String) : Bool := (map.get? key).isSome

def size (map : SortedMap Value) : Nat := map.entries.length

def keys (map : SortedMap Value) : List String := map.entries.map Prod.fst

def insert (map : SortedMap Value) (key : String) (value : Value) : SortedMap Value :=
  ⟨Keyed.insert key value map.entries, map.ascending.insert⟩

def erase (map : SortedMap Value) (key : String) : SortedMap Value :=
  ⟨Keyed.erase key map.entries, map.ascending.erase⟩

def ofPairs (pairs : List (String × Value)) : SortedMap Value :=
  ⟨Keyed.ofPairs pairs, Keyed.ascending_ofPairs pairs⟩

/-- The value that was inserted is found, and all others are kept. -/
theorem get?_insert (map : SortedMap Value) (key other : String) (value : Value) :
    (map.insert key value).get? other = if other = key then some value else map.get? other := by
  by_cases same : other = key
  · subst same
    simp [get?, insert, Keyed.lookup_insert_self]
  · simp [get?, insert, same, Keyed.lookup_insert_of_ne same]

/-- An erased key has no value, and all others keep theirs. -/
theorem get?_erase (map : SortedMap Value) (key other : String) :
    (map.erase key).get? other = if other = key then none else map.get? other :=
  Keyed.lookup_erase key other map.entries

/-- A look-up finds just the entries. -/
theorem get?_eq_some_iff (map : SortedMap Value) (key : String) (value : Value) :
    map.get? key = some value ↔ (key, value) ∈ map.entries :=
  map.ascending.lookup_eq_some_iff key value

/-- Two maps with the same look-ups are the same map. -/
theorem ext_get? {first second : SortedMap Value}
    (same : ∀ key, first.get? key = second.get? key) : first = second := by
  obtain ⟨firstEntries, firstAscending⟩ := first
  obtain ⟨secondEntries, secondAscending⟩ := second
  congr 1
  exact firstAscending.ext secondAscending same

/-- Inserting makes its key present. -/
theorem contains_insert (map : SortedMap Value) (key other : String) (value : Value) :
    (map.insert key value).contains other = (other == key || map.contains other) := by
  by_cases same : other = key <;> simp [contains, get?_insert, same]

/-- Erasing makes its key absent. -/
theorem contains_erase (map : SortedMap Value) (key other : String) :
    (map.erase key).contains other = (other != key && map.contains other) := by
  by_cases same : other = key <;> simp [contains, get?_erase, same]

/-- Erasing an absent key changes nothing. -/
theorem erase_eq_self {map : SortedMap Value} {key : String} (absent : map.get? key = none) :
    map.erase key = map := by
  refine ext_get? fun other => ?_
  rw [get?_erase]
  split
  · rename_i same
    rw [same, absent]
  · rfl

/-- Inserting what is there changes nothing. -/
theorem insert_eq_self {map : SortedMap Value} {key : String} {value : Value}
    (present : map.get? key = some value) : map.insert key value = map := by
  refine ext_get? fun other => ?_
  rw [get?_insert]
  split
  · rename_i same
    rw [same, present]
  · rfl

/-- Values under different keys may be inserted in either order. -/
theorem insert_comm (map : SortedMap Value) {key other : String} (different : key ≠ other)
    (value otherValue : Value) :
    (map.insert key value).insert other otherValue =
      (map.insert other otherValue).insert key value := by
  apply ext_get?
  intro asked
  rw [get?_insert, get?_insert, get?_insert, get?_insert]
  split
  · rename_i isOther
    rw [if_neg fun isKey => different (isKey.symm.trans isOther)]
  · rfl

/-- The keys are the names that are present. -/
theorem mem_keys_iff (map : SortedMap Value) (key : String) :
    key ∈ map.keys ↔ map.contains key = true := by
  rw [contains, Option.isSome_iff_exists]
  simp only [get?_eq_some_iff]
  simp [keys]

/-- No key comes twice. -/
theorem keys_nodup (map : SortedMap Value) : map.keys.Nodup := by
  refine List.pairwise_map.mpr (List.Pairwise.imp ?_ map.ascending)
  intro one other below same
  rw [same] at below
  exact String.lt_irrefl _ below

end SortedMap

end BeanContainer
