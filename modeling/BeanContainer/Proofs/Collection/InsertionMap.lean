/-
This file describes a finite map from texts whose keys stand in the order in which they were first
bound. It is what a registry has to look like from outside.
-/

import BeanContainer.Collection.Keyed

namespace BeanContainer

structure InsertionMap (Value : Type) where
  entries : List (String × Value)
  distinct : (entries.map Prod.fst).Nodup

namespace InsertionMap

variable {Value : Type}

/-- The new value takes the place of an old value of the same key, or the last place. -/
def putEntry (key : String) (value : Value) : List (String × Value) → List (String × Value)
  | [] => [(key, value)]
  | entry :: rest =>
      if entry.1 = key then (key, value) :: rest else entry :: putEntry key value rest

/-- A key that is bound anew keeps its place, and a new key comes last. -/
theorem fst_putEntry (key : String) (value : Value) (entries : List (String × Value)) :
    (putEntry key value entries).map Prod.fst =
      if key ∈ entries.map Prod.fst then entries.map Prod.fst
      else entries.map Prod.fst ++ [key] := by
  induction entries with
  | nil => rfl
  | cons entry rest inductionHypothesis =>
      rw [putEntry]
      by_cases same : entry.1 = key
      · simp [same]
      · rw [if_neg same, List.map_cons, inductionHypothesis]
        have elsewhere : key ≠ entry.1 := fun equal => same equal.symm
        simp only [List.map_cons, List.mem_cons, elsewhere, false_or]
        split <;> rfl

/-- The entry that was put is found, and all others are kept. -/
theorem lookup_putEntry (key other : String) (value : Value) (entries : List (String × Value)) :
    (putEntry key value entries).lookup other =
      if other = key then some value else entries.lookup other := by
  induction entries with
  | nil =>
      by_cases hit : other = key
      · simp [putEntry, hit]
      · simp [putEntry, List.lookup_cons, hit, beq_false_of_ne hit]
  | cons entry rest inductionHypothesis =>
      obtain ⟨entryKey, entryValue⟩ := entry
      rw [putEntry]
      by_cases same : entryKey = key
      · subst same
        by_cases hit : other = entryKey
        · simp [hit]
        · simp [List.lookup_cons, hit, beq_false_of_ne hit]
      · rw [if_neg same, List.lookup_cons, List.lookup_cons, inductionHypothesis]
        by_cases hit : other = entryKey
        · subst hit
          simp [same]
        · rw [beq_false_of_ne hit]

/-- Putting an entry repeats no key. -/
theorem distinct_putEntry (key : String) (value : Value) {entries : List (String × Value)}
    (distinct : (entries.map Prod.fst).Nodup) :
    ((putEntry key value entries).map Prod.fst).Nodup := by
  rw [fst_putEntry]
  split
  · exact distinct
  · rename_i absent
    have apart : ∀ other ∈ entries.map Prod.fst, ∀ last ∈ [key], other ≠ last := by
      intro other member last isLast same
      rw [same, List.mem_singleton.mp isLast] at member
      exact absent member
    exact List.nodup_append.mpr ⟨distinct, List.pairwise_singleton _ _, apart⟩

/-- Erasing a key keeps the order of the others. -/
theorem fst_erase (key : String) (entries : List (String × Value)) :
    (Keyed.erase key entries).map Prod.fst =
      (entries.map Prod.fst).filter fun other => other != key := by
  rw [List.filter_map]
  rfl

def empty : InsertionMap Value := ⟨[], List.nodup_nil⟩

def keys (map : InsertionMap Value) : List String := map.entries.map Prod.fst

def get? (map : InsertionMap Value) (key : String) : Option Value := map.entries.lookup key

def put (map : InsertionMap Value) (key : String) (value : Value) : InsertionMap Value :=
  ⟨putEntry key value map.entries, distinct_putEntry key value map.distinct⟩

def remove (map : InsertionMap Value) (key : String) : InsertionMap Value :=
  ⟨Keyed.erase key map.entries, by
    rw [fst_erase]
    exact map.distinct.filter _⟩

/-- A bound key keeps its place, and any other key comes last. -/
theorem keys_put (map : InsertionMap Value) (key : String) (value : Value) :
    (map.put key value).keys = if key ∈ map.keys then map.keys else map.keys ++ [key] :=
  fst_putEntry key value map.entries

/-- Removing a key keeps the order of the others. -/
theorem keys_remove (map : InsertionMap Value) (key : String) :
    (map.remove key).keys = map.keys.filter fun other => other != key :=
  fst_erase key map.entries

/-- The value that was put is found, and all others are kept. -/
theorem get?_put (map : InsertionMap Value) (key other : String) (value : Value) :
    (map.put key value).get? other = if other = key then some value else map.get? other :=
  lookup_putEntry key other value map.entries

/-- A removed key has no value, and all others keep theirs. -/
theorem get?_remove (map : InsertionMap Value) (key other : String) :
    (map.remove key).get? other = if other = key then none else map.get? other :=
  Keyed.lookup_erase key other map.entries

/-- A key has a value just if it is among the keys. -/
theorem isSome_get?_iff (map : InsertionMap Value) (key : String) :
    (map.get? key).isSome = true ↔ key ∈ map.keys := by
  unfold get? keys
  induction map.entries with
  | nil => simp
  | cons entry rest inductionHypothesis =>
      obtain ⟨entryKey, value⟩ := entry
      rw [List.map_cons, List.mem_cons, ← inductionHypothesis, List.lookup_cons]
      by_cases hit : key = entryKey
      · simp [hit]
      · simp [hit, beq_false_of_ne hit]

end InsertionMap

end BeanContainer
