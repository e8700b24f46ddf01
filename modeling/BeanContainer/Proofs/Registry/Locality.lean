/-
This file shows that each request about a single name is all or nothing. A refused request leaves
the registry as it was, and an accepted one reaches no further than the names that it is given.
-/

import BeanContainer.Proofs.Registry.Operations

namespace BeanContainer.Registry

/-- Nothing differs beyond the definitions of these beans, their places in the order of the names
and the bindings of these aliases. -/
structure AgreesBeyond (beanNames aliasNames : List String) (first last : Registry) : Prop where
  definition? : ∀ other, other ∉ beanNames → last.definition? other = first.definition? other
  order : last.names.filter (fun other => other ∉ beanNames) =
    first.names.filter fun other => other ∉ beanNames
  binding : ∀ other, other ∉ aliasNames → last.aliases.get? other = first.aliases.get? other
  allowOverriding : last.allowOverriding = first.allowOverriding

/-! The three changes. -/

/-- A definition takes its name away from an alias, so it can release that alias. -/
theorem agreesBeyond_bind (registry : Registry) (name : String) (definition : BeanDefinition) :
    AgreesBeyond [name] [name] registry (registry.bind name definition) where
  definition? other outside := by
    rw [definition?_bind, if_neg (by simpa using outside)]
  order := by
    unfold bind
    dsimp only
    split
    · rfl
    · simp
  binding other outside := by
    rw [bind, SortedMap.get?_erase, if_neg (by simpa using outside)]
  allowOverriding := rfl

/-- A removal reaches its own name only. -/
theorem agreesBeyond_unbind (registry : Registry) (name : String) :
    AgreesBeyond [name] [] registry (registry.unbind name) where
  definition? other outside := by
    rw [definition?_unbind, if_neg (by simpa using outside)]
  order := by
    rw [unbind, List.filter_filter]
    refine List.filter_congr fun other _ => ?_
    by_cases same : other = name <;> simp [same]
  binding _ _ := rfl
  allowOverriding := rfl

/-- A connection reaches its own alias only. -/
theorem agreesBeyond_connect (registry : Registry) (name aliasName : String) :
    AgreesBeyond [] [aliasName] registry (registry.connect name aliasName) where
  definition? _ _ := rfl
  order := rfl
  binding other outside := by
    have different : other ≠ aliasName := by simpa using outside
    unfold connect
    dsimp only
    split
    · rw [SortedMap.get?_erase, if_neg different]
    · rw [SortedMap.get?_insert, if_neg different]
  allowOverriding := rfl

/-- An alias is bound to the name, and released where it is that name. -/
theorem get?_connect (registry : Registry) (name aliasName : String) :
    (registry.connect name aliasName).aliases.get? aliasName =
      if aliasName = name then none else some name := by
  unfold connect
  dsimp only
  split
  · rw [SortedMap.get?_erase, if_pos rfl]
  · rw [SortedMap.get?_insert, if_pos rfl]

/-! The three requests. -/

/-- A refused request changes nothing. An accepted one does what it is asked for, and every other
definition, the order of the other names and every other alias stay as they were: a registration can
only release the alias of its own name, a removal leaves all aliases alone, and a new alias all
definitions. -/
theorem requests_atomic (registry : Registry) (name : String) :
    (∀ definition,
      match (register name definition).run registry with
      | .error _ left => left = registry
      | .ok _ left => left.definition? name = some definition ∧ left.isAlias name = false ∧
          AgreesBeyond [name] [name] registry left) ∧
    (match (remove name).run registry with
      | .error _ left => left = registry
      | .ok removed left => registry.definition? name = some removed ∧
          left.definition? name = none ∧ AgreesBeyond [name] [] registry left) ∧
    ∀ aliasName,
      match (registerAlias name aliasName).run registry with
      | .error _ left => left = registry
      | .ok _ left =>
          left.aliases.get? aliasName = (if aliasName = name then none else some name) ∧
            AgreesBeyond [] [aliasName] registry left := by
  refine ⟨fun definition => ?_, ?_, fun aliasName => ?_⟩
  · rw [register_run]
    cases registry.bindingFault? name with
    | some cause => rfl
    | none =>
        refine ⟨?_, ?_, registry.agreesBeyond_bind name definition⟩
        · rw [definition?_bind, if_pos rfl]
        · rw [isAlias_bind, bne_self_eq_false, Bool.false_and]
  · rw [remove_run]
    cases known : registry.definition? name with
    | none => rfl
    | some removed =>
        refine ⟨rfl, ?_, registry.agreesBeyond_unbind name⟩
        rw [definition?_unbind, if_pos rfl]
  · rw [registerAlias_run]
    cases registry.aliasFault? name aliasName with
    | some cause => rfl
    | none => exact ⟨registry.get?_connect name aliasName, registry.agreesBeyond_connect name aliasName⟩

end BeanContainer.Registry
