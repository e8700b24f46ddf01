/-
This file shows that the definitions of a registry and the order of their names never come apart.
Together they are an insertion-ordered map, whatever requests came before and whichever of them were
refused.
-/

import BeanContainer.Proofs.Collection.InsertionMap
import BeanContainer.Proofs.Registry.Operations

namespace BeanContainer.Registry

/-! The registry beside the map that it shows. -/

/-- The two fields of the registry that are changed one after the other give one map. -/
structure Shows (registry : Registry) (map : InsertionMap BeanDefinition) : Prop where
  names : registry.names = map.keys
  definition? : ∀ name, registry.definition? name = map.get? name
  solid : ∀ name ∈ registry.names, Text.isBlank name = false

/-- What a request does to the map, which is nothing if it is refused. A refused alias of a holder
comes too late to undo the definition. -/
def Request.write (request : Request) (registry : Registry) (map : InsertionMap BeanDefinition) :
    InsertionMap BeanDefinition :=
  match request with
  | .register name definition =>
      match (Registry.register name definition).run registry with
      | .ok _ _ => map.put name definition
      | .error _ _ => map
  | .remove name =>
      match (Registry.remove name).run registry with
      | .ok _ _ => map.remove name
      | .error _ _ => map
  | .registerHolder holder =>
      match (Registry.register holder.beanName holder.definition).run registry with
      | .ok _ _ => map.put holder.beanName holder.definition
      | .error _ _ => map
  | .registerAlias _ _ => map
  | .setAllowOverriding _ => map

/-- The map after the requests, each of which finds the registry as the one before it has left it. -/
def shownAfter (registry : Registry) (map : InsertionMap BeanDefinition) :
    List Request → InsertionMap BeanDefinition
  | [] => map
  | request :: rest => shownAfter (request.after registry) (request.write registry map) rest

namespace Shows

variable {registry : Registry} {map : InsertionMap BeanDefinition}

/-- The names in order are the names that have a definition. -/
theorem contains_iff (shows : Shows registry map) (name : String) :
    registry.contains name = true ↔ name ∈ registry.names := by
  rw [contains, shows.definition?, shows.names, map.isSome_get?_iff]

/-- A change of the aliases or of the overriding flag does not show. -/
theorem unchanged (shows : Shows registry map) {changed : Registry}
    (sameNames : changed.names = registry.names)
    (sameDefinitions : changed.definitions = registry.definitions) : Shows changed map where
  names := sameNames.trans shows.names
  definition? name := by
    rw [← shows.definition?, Registry.definition?, sameDefinitions, Registry.definition?]
  solid := by
    rw [sameNames]
    exact shows.solid

/-- An accepted definition is put into the map. -/
theorem bind (shows : Shows registry map) {name : String}
    (free : registry.bindingFault? name = none) (definition : BeanDefinition) :
    Shows (registry.bind name definition) (map.put name definition) where
  names := by
    rw [InsertionMap.keys_put, ← shows.names]
    simp only [Registry.bind, shows.contains_iff name]
  definition? other := by rw [definition?_bind, InsertionMap.get?_put, shows.definition?]
  solid := by
    intro other member
    unfold Registry.bind at member
    dsimp only at member
    split at member
    · exact shows.solid other member
    · rcases List.mem_append.mp member with old | new
      · exact shows.solid other old
      · rw [List.mem_singleton.mp new]
        exact ((registry.bindingFault?_eq_none_iff name).mp free).1

/-- A removed definition is taken out of the map. -/
theorem unbind (shows : Shows registry map) (name : String) :
    Shows (registry.unbind name) (map.remove name) where
  names := by
    rw [InsertionMap.keys_remove, ← shows.names]
    rfl
  definition? other := by rw [definition?_unbind, InsertionMap.get?_remove, shows.definition?]
  solid other member := shows.solid other (List.mem_filter.mp member).1

end Shows

/-- The empty registry shows the empty map. -/
theorem empty_shows (allowOverriding : Bool) : Shows (.empty allowOverriding) .empty where
  names := rfl
  definition? _ := rfl
  solid _ member := absurd member List.not_mem_nil

/-! One request, and then a run of them. -/

/-- Whether it is refused or not, a request changes the map and the registry alike. -/
theorem Shows.write {registry : Registry} {map : InsertionMap BeanDefinition}
    (shows : Shows registry map) (request : Request) :
    Shows (request.after registry) (request.write registry map) := by
  cases request with
  | register name definition =>
      rw [Request.after_register, Request.write, register_run]
      cases fault : registry.bindingFault? name with
      | some cause => exact shows
      | none => exact shows.bind fault definition
  | remove name =>
      rw [Request.after_remove, Request.write, remove_run]
      cases known : registry.definition? name with
      | none => exact shows
      | some removed => exact shows.unbind name
  | registerAlias name aliasName =>
      have listed : aliasName ∈ [aliasName] := List.mem_singleton.mpr rfl
      obtain ⟨sameNames, sameDefinitions⟩ :=
        Connection.kept (registerAlias_stepwise name listed registry)
      exact shows.unchanged sameNames sameDefinitions
  | registerHolder holder =>
      rw [Request.after_registerHolder, Request.write, register_run]
      obtain ⟨cause, fault, same⟩ | ⟨free, connections⟩ := registerHolder_leftBy holder registry
      · rw [fault, same]
        exact shows
      · obtain ⟨sameNames, sameDefinitions⟩ := Connection.kept connections
        rw [free]
        exact (shows.bind free holder.definition).unchanged sameNames sameDefinitions
  | setAllowOverriding allow => exact shows.unchanged rfl rfl

/-- After any requests the registry shows what the accepted writes make of the map. -/
theorem Shows.run {registry : Registry} {map : InsertionMap BeanDefinition}
    (shows : Shows registry map) (requests : List Request) :
    Shows (registry.run requests) (shownAfter registry map requests) := by
  induction requests generalizing registry map with
  | nil => exact shows
  | cons request rest inductionHypothesis => exact inductionHypothesis (shows.write request)

/-! What the names and the definitions tell about each other. -/

/-- The names are the keys of the definitions, each once and none of them blank. -/
structure InStep (registry : Registry) : Prop where
  nodup : registry.names.Nodup
  solid : ∀ name ∈ registry.names, Text.isBlank name = false
  known : ∀ name, (∃ definition, registry.definition name = .ok definition) ↔
    name ∈ registry.names
  count : registry.count = registry.definitions.size

/-- A definition is found exactly for the names that are known. -/
theorem definition_ok_iff (registry : Registry) (name : String) :
    (∃ definition, registry.definition name = .ok definition) ↔
      registry.contains name = true := by
  unfold Registry.definition contains
  cases registry.definition? name <;> simp

/-- A registry that shows a map has its names and its definitions in step. -/
theorem Shows.inStep {registry : Registry} {map : InsertionMap BeanDefinition}
    (shows : Shows registry map) : InStep registry := by
  have nodup : registry.names.Nodup := by
    rw [shows.names]
    exact map.distinct
  have sameNames (name : String) : name ∈ registry.names ↔ name ∈ registry.definitions.keys := by
    rw [← shows.contains_iff, SortedMap.mem_keys_iff]
    rfl
  have permuted : registry.names.Perm registry.definitions.keys :=
    (List.perm_ext_iff_of_nodup nodup registry.definitions.keys_nodup).mpr sameNames
  refine ⟨nodup, shows.solid, fun name => ?_, ?_⟩
  · rw [definition_ok_iff, shows.contains_iff]
  · rw [count, permuted.length_eq, SortedMap.keys, List.length_map, SortedMap.size]

/-- No run of requests brings the names and the definitions out of step. -/
theorem Reachable.inStep {registry : Registry} (reachable : registry.Reachable) :
    registry.InStep := by
  obtain ⟨requests, rfl⟩ := reachable
  exact ((empty_shows false).run requests).inStep

/-- What a registration does to the names and definitions. -/
def Registered (registry : Registry) (name : String) (definition : BeanDefinition)
    (changed : Registry) : Prop :=
  changed.names = (if name ∈ registry.names then registry.names else registry.names ++ [name]) ∧
    ∀ other, changed.definition? other =
      if other = name then some definition else registry.definition? other

/-- What a removal does to the names and definitions. -/
def Removed (registry : Registry) (name : String) (changed : Registry) : Prop :=
  changed.names = (registry.names.filter fun other => other != name) ∧
    ∀ other, changed.definition? other =
      if other = name then none else registry.definition? other

/-- A registration puts its definition at the place of its name, or it changes nothing. -/
theorem Shows.register {registry : Registry} {map : InsertionMap BeanDefinition}
    (shows : Shows registry map) (name : String) (definition : BeanDefinition) :
    match (Registry.register name definition).run registry with
    | .ok _ changed => Registered registry name definition changed
    | .error _ changed => changed = registry := by
  rw [register_run]
  cases registry.bindingFault? name with
  | some cause => rfl
  | none =>
      refine ⟨?_, fun other => definition?_bind registry name other definition⟩
      simp only [Registry.bind, shows.contains_iff name]

/-- The removed name is forgotten, so that it comes last when it is bound anew. -/
theorem Shows.remove {registry : Registry} {map : InsertionMap BeanDefinition}
    (shows : Shows registry map) (name : String) :
    match (Registry.remove name).run registry with
    | .ok removed changed =>
        registry.definition? name = some removed ∧ Removed registry name changed ∧
          ∀ definition,
            match (Registry.register name definition).run changed with
            | .ok _ again => again.names = changed.names ++ [name]
            | .error _ again => again = changed
    | .error _ changed => changed = registry := by
  rw [remove_run]
  cases known : registry.definition? name with
  | none => rfl
  | some removed =>
      refine ⟨rfl, ⟨rfl, definition?_unbind registry name⟩, fun definition => ?_⟩
      have effect := (shows.unbind name).register name definition
      have forgotten : name ∉ (registry.unbind name).names := by simp [Registry.unbind]
      split at effect
      · rw [effect.1, if_neg forgotten]
      · exact effect

/-- After every run of requests the names and the definitions are in step, and they show the
insertion-ordered map that the requests describe. A name is added at the end, keeps its place when
it is bound anew, and loses it when it is removed. -/
theorem run_insertionOrder (requests : List Request) :
    let registry := Registry.empty.run requests
    registry.InStep ∧
      registry.Shows (shownAfter .empty .empty requests) ∧
      (∀ name definition,
        match (register name definition).run registry with
        | .ok _ changed => Registered registry name definition changed
        | .error _ changed => changed = registry) ∧
      ∀ name,
        match (remove name).run registry with
        | .ok removed changed =>
            registry.definition? name = some removed ∧ Removed registry name changed ∧
              ∀ definition,
                match (register name definition).run changed with
                | .ok _ again => again.names = changed.names ++ [name]
                | .error _ again => again = changed
        | .error _ changed => changed = registry := by
  intro registry
  have shows : registry.Shows (shownAfter .empty .empty requests) :=
    (empty_shows false).run requests
  exact ⟨shows.inStep, shows, shows.register, shows.remove⟩

example : (Registry.empty.run [.register "cart" {}, .register "desk" {}, .remove "cart",
    .register "cart" {}]).names = ["desk", "cart"] := by decide +kernel

end BeanContainer.Registry
