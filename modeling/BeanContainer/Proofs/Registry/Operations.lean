/-
This file says what each request does to a registry: when it is refused, and what it changes
otherwise. Every invariant of a run follows from the few changes that are listed here.
-/

import BeanContainer.Registry.Request
import Mathlib.Logic.Relation

namespace BeanContainer.Registry

/-! The operations as a refusal or a change. -/

/-- Why no definition can be bound to the name, if that is so. -/
def bindingFault? (registry : Registry) (name : String) : Option DefinitionError :=
  if Text.isBlank name then some (.invalidBeanName .blankName)
  else if registry.allowOverriding then none
  else
    match registry.aliases.get? name, registry.definition? name with
    | some target, _ => some (.duplicateBeanName name (aliasBindingText target))
    | none, some existing => some (.duplicateBeanName name existing.resourceDescription)
    | none, none => none

def bind (registry : Registry) (name : String) (definition : BeanDefinition) : Registry :=
  { registry with
    definitions := registry.definitions.insert name definition
    names := if registry.contains name then registry.names else registry.names ++ [name]
    aliases := registry.aliases.erase name }

def unbind (registry : Registry) (name : String) : Registry :=
  { registry with
    definitions := registry.definitions.erase name
    names := registry.names.filter fun other => other != name }

/-- Why the alias cannot be bound to the name, if that is so. -/
def aliasFault? (registry : Registry) (name aliasName : String) : Option DefinitionError :=
  if Text.isBlank name || Text.isBlank aliasName then some (.invalidBeanName .blankNameOrAlias)
  else if aliasName = name ∨ registry.aliases.get? aliasName = some name then none
  else
    match registry.aliases.get? aliasName, registry.allowOverriding with
    | some existing, false => some (.aliasConflict aliasName name existing)
    | _, _ =>
        if registry.closesCycle name aliasName then
          some (.invalidBeanName (.aliasCycle aliasName name))
        else none

def connect (registry : Registry) (name aliasName : String) : Registry :=
  { registry with
    aliases :=
      if aliasName = name then registry.aliases.erase aliasName
      else registry.aliases.insert aliasName name }

/-- A binding that stands in the way of a definition gives way only with permission. -/
theorem releaseAlias_run (name : String) (registry : Registry) :
    (releaseAlias name).run registry =
      match registry.aliases.get? name, registry.allowOverriding with
      | none, _ => .ok () registry
      | some _, true => .ok () { registry with aliases := registry.aliases.erase name }
      | some target, false =>
          .error (.duplicateBeanName name (aliasBindingText target)) registry := by
  cases bound : registry.aliases.get? name <;> cases allowed : registry.allowOverriding <;>
    simp [releaseAlias, bound, allowed]

/-- A registration is refused before it changes anything. -/
theorem register_run (name : String) (definition : BeanDefinition) (registry : Registry) :
    (register name definition).run registry =
      match registry.bindingFault? name with
      | some cause => .error cause registry
      | none => .ok definition (registry.bind name definition) := by
  unfold register bindingFault? bind
  by_cases blank : Text.isBlank name
  · simp [blank]
  · cases bound : registry.aliases.get? name <;>
      cases known : registry.definitions.get? name <;>
      cases allowed : registry.allowOverriding <;>
      simp [blank, releaseAlias_run, definition?, contains, bound, known, allowed,
        SortedMap.erase_eq_self, -bind_pure_comp]

/-- A removal is refused only where there is nothing to remove. -/
theorem remove_run (name : String) (registry : Registry) :
    (remove name).run registry =
      match registry.definition? name with
      | some removed => .ok removed (registry.unbind name)
      | none => .error (.noSuchBeanDefinition name) registry := by
  cases known : registry.definition? name with
  | none =>
      simp [remove, known]
      rfl
  | some removed => simp [remove, unbind, known, -bind_pure_comp]

/-- An alias is refused before it changes anything, and otherwise bound as the connection says. -/
theorem registerAlias_run (name aliasName : String) (registry : Registry) :
    (registerAlias name aliasName).run registry =
      match registry.aliasFault? name aliasName with
      | some cause => .error cause registry
      | none => .ok () (registry.connect name aliasName) := by
  unfold registerAlias aliasFault? connect
  by_cases blank : (Text.isBlank name || Text.isBlank aliasName) = true
  · rw [if_pos blank, if_pos blank]
    simp
  · rw [if_neg blank, if_neg blank]
    by_cases same : aliasName = name
    · simp [same]
    · cases bound : registry.aliases.get? aliasName with
      | none => cases round : registry.closesCycle name aliasName <;> simp [same, bound, round]
      | some existing =>
          by_cases already : existing = name
          · simp [same, bound, already, SortedMap.insert_eq_self]
          · cases allowed : registry.allowOverriding <;>
              cases round : registry.closesCycle name aliasName <;>
              simp [same, bound, already, allowed, round]

/-- What a request leaves behind does not depend on what becomes of its result. -/
theorem leftBy_discard {Value : Type} (registry : Registry) (request : RegistryM Value) :
    registry.leftBy (discard request) = registry.leftBy request := by
  unfold leftBy discard
  rw [map_const, Function.comp_apply, map_eq_pure_bind, EStateM.run_bind]
  cases request.run registry <;> rfl

/-- A registration binds its name, or it leaves the registry as it was. -/
theorem Request.after_register (name : String) (definition : BeanDefinition)
    (registry : Registry) :
    (Request.register name definition).after registry =
      match registry.bindingFault? name with
      | some _ => registry
      | none => registry.bind name definition := by
  rw [Request.after, Request.perform, leftBy_discard, leftBy, register_run]
  cases registry.bindingFault? name <;> rfl

/-- A removal unbinds its name, or it leaves the registry as it was. -/
theorem Request.after_remove (name : String) (registry : Registry) :
    (Request.remove name).after registry =
      match registry.definition? name with
      | some _ => registry.unbind name
      | none => registry := by
  rw [Request.after, Request.perform, leftBy_discard, leftBy, remove_run]
  cases registry.definition? name <;> rfl

/-- An alias is connected, or it leaves the registry as it was. -/
theorem Request.after_registerAlias (name aliasName : String) (registry : Registry) :
    (Request.registerAlias name aliasName).after registry =
      match registry.aliasFault? name aliasName with
      | some _ => registry
      | none => registry.connect name aliasName := by
  rw [Request.after, Request.perform, leftBy, registerAlias_run]
  cases registry.aliasFault? name aliasName <;> rfl

/-- A holder leaves behind what its registration does, with or without the definition returned. -/
theorem Request.after_registerHolder (holder : BeanDefinitionHolder) (registry : Registry) :
    (Request.registerHolder holder).after registry =
      registry.leftBy (Registry.registerHolder holder) :=
  leftBy_discard registry (Registry.registerHolder holder)

/-! What the registry holds after a change. -/

/-- A bound name has its new definition, and all other names keep theirs. -/
theorem definition?_bind (registry : Registry) (name other : String)
    (definition : BeanDefinition) :
    (registry.bind name definition).definition? other =
      if other = name then some definition else registry.definition? other :=
  registry.definitions.get?_insert name other definition

/-- Binding a name makes it known and no other name. -/
theorem contains_bind (registry : Registry) (name other : String) (definition : BeanDefinition) :
    (registry.bind name definition).contains other = (other == name || registry.contains other) :=
  registry.definitions.contains_insert name other definition

/-- A name that is new adds its definition to all that was there before. -/
theorem definition?_bind_eq_some_iff {registry : Registry} {name : String}
    (absent : registry.contains name = false) (definition : BeanDefinition) (other : String)
    (given : BeanDefinition) :
    (registry.bind name definition).definition? other = some given ↔
      registry.definition? other = some given ∨ other = name ∧ given = definition := by
  have unknown : registry.definition? name = none := by simpa [contains] using absent
  rw [definition?_bind]
  by_cases same : other = name
  · simp [same, unknown, eq_comm]
  · simp [same]

/-- A bound name is no alias any more, and all other aliases stay. -/
theorem isAlias_bind (registry : Registry) (name other : String) (definition : BeanDefinition) :
    (registry.bind name definition).isAlias other = (other != name && registry.isAlias other) :=
  registry.aliases.contains_erase name other

/-- An unbound name has no definition, and all other names keep theirs. -/
theorem definition?_unbind (registry : Registry) (name other : String) :
    (registry.unbind name).definition? other =
      if other = name then none else registry.definition? other :=
  registry.definitions.get?_erase name other

theorem contains_unbind (registry : Registry) (name other : String) :
    (registry.unbind name).contains other = (other != name && registry.contains other) :=
  registry.definitions.contains_erase name other

/-- A connection makes its alias an alias, except where the alias is the name itself and is
released. -/
theorem isAlias_connect (registry : Registry) (name aliasName other : String) :
    (registry.connect name aliasName).isAlias other =
      if aliasName = name then other != aliasName && registry.isAlias other
      else other == aliasName || registry.isAlias other := by
  unfold isAlias connect
  split
  · exact registry.aliases.contains_erase aliasName other
  · exact registry.aliases.contains_insert aliasName other name

/-! When a name can be bound. -/

/-- A definition is accepted under a name that is not blank and is unused or may be bound anew. -/
theorem bindingFault?_eq_none_iff (registry : Registry) (name : String) :
    registry.bindingFault? name = none ↔
      Text.isBlank name = false ∧
        (registry.allowOverriding = true ∨ registry.isNameInUse name = false) := by
  unfold bindingFault? isNameInUse contains isAlias SortedMap.contains
  cases Text.isBlank name <;> cases registry.allowOverriding <;>
    cases registry.aliases.get? name <;> cases registry.definition? name <;> simp

/-- Without the permission to bind names anew, only a name that is not in use is free. -/
theorem isNameInUse_of_free {registry : Registry} (fixedNames : registry.allowOverriding = false)
    {name : String} (free : registry.bindingFault? name = none) :
    registry.isNameInUse name = false := by
  obtain ⟨_, permitted | unused⟩ := (registry.bindingFault?_eq_none_iff name).mp free
  · rw [fixedNames] at permitted
    contradiction
  · exact unused

/-- Permission only matters to an alias that is bound to another name. -/
theorem aliasFault?_eq_none_iff (registry : Registry) (name aliasName : String) :
    registry.aliasFault? name aliasName = none ↔
      (Text.isBlank name || Text.isBlank aliasName) = false ∧
        ((aliasName = name ∨ registry.aliases.get? aliasName = some name) ∨
          (registry.aliases.get? aliasName = none ∨ registry.allowOverriding = true) ∧
            registry.closesCycle name aliasName = false) := by
  unfold aliasFault?
  by_cases blank : (Text.isBlank name || Text.isBlank aliasName) = true
  · simp [blank]
  · by_cases settled : aliasName = name ∨ registry.aliases.get? aliasName = some name
    · simp only [if_neg blank, if_pos settled]
      simp [blank, settled]
    · rw [if_neg blank, if_neg settled]
      cases bound : registry.aliases.get? aliasName <;>
        cases allowed : registry.allowOverriding <;>
        simp_all

/-- Another name that is bound meanwhile makes no difference. -/
theorem bindingFault?_bind_of_ne (registry : Registry) {name other : String}
    (different : other ≠ name) (definition : BeanDefinition) :
    (registry.bind name definition).bindingFault? other = registry.bindingFault? other := by
  have sameAlias : (registry.bind name definition).aliases.get? other =
      registry.aliases.get? other := by
    rw [Registry.bind, SortedMap.get?_erase, if_neg different]
  have sameDefinition : (registry.bind name definition).definition? other =
      registry.definition? other := by
    rw [definition?_bind, if_neg different]
  unfold bindingFault?
  rw [sameAlias, sameDefinition]
  rfl

/-- A name that already has just this meaning is all that a binding does not change. -/
theorem bind_eq_self_iff (registry : Registry) (name : String) (definition : BeanDefinition) :
    registry.bind name definition = registry ↔
      registry.definition? name = some definition ∧ registry.isAlias name = false := by
  constructor
  · intro same
    have known := definition?_bind registry name name definition
    have unbound := isAlias_bind registry name name definition
    rw [same] at known unbound
    simpa using And.intro known unbound
  · rintro ⟨known, unbound⟩
    have present : registry.contains name = true := by rw [contains, known, Option.isSome_some]
    have absent : registry.aliases.get? name = none := by
      simpa [isAlias, SortedMap.contains] using unbound
    unfold Registry.bind
    rw [SortedMap.insert_eq_self known, if_pos present, SortedMap.erase_eq_self absent]

/-! Every request is a sequence of changes. -/

/-- Binds one of these aliases to the name. -/
inductive Connection (name : String) (aliases : List String) : Registry → Registry → Prop where
  | connect {registry : Registry} {aliasName : String} (listed : aliasName ∈ aliases)
      (free : registry.aliasFault? name aliasName = none) :
      Connection name aliases registry (registry.connect name aliasName)

/-- A refused request changes nothing, and a holder makes one change for its definition and one
for each alias up to a refused one. -/
inductive Change : Registry → Registry → Prop where
  | bind {registry : Registry} {name : String} (definition : BeanDefinition)
      (free : registry.bindingFault? name = none) : Change registry (registry.bind name definition)
  | unbind {registry : Registry} {name : String} (known : registry.contains name = true) :
      Change registry (registry.unbind name)
  | connect {registry : Registry} {name aliasName : String}
      (free : registry.aliasFault? name aliasName = none) :
      Change registry (registry.connect name aliasName)
  | setOverriding (registry : Registry) (allow : Bool) :
      Change registry { registry with allowOverriding := allow }

/-- Whether it is refused or not, the request only takes such steps one after the other. -/
def Stepwise (step : Registry → Registry → Prop) {Value : Type} (request : RegistryM Value) :
    Prop :=
  ∀ registry, Relation.ReflTransGen step registry (registry.leftBy request)

section Stepwise

variable {step : Registry → Registry → Prop} {First Second Item : Type}

/-- A request that only answers takes no step. -/
theorem Stepwise.pure (value : First) : Stepwise step (pure value) := fun _ => .refl

/-- Requests that proceed by steps still do so one after the other. -/
theorem Stepwise.bind {first : RegistryM First} {next : First → RegistryM Second}
    (firstStepwise : Stepwise step first) (nextStepwise : ∀ value, Stepwise step (next value)) :
    Stepwise step (first >>= next) := by
  intro registry
  have steps := firstStepwise registry
  unfold leftBy at steps ⊢
  rw [EStateM.run_bind]
  cases outcome : first.run registry with
  | error cause changed => simpa only [outcome] using steps
  | ok value changed =>
      rw [outcome] at steps
      exact steps.trans (nextStepwise value changed)

/-- A loop proceeds by steps if each of its turns does. -/
theorem Stepwise.forM {request : Item → RegistryM PUnit} {items : List Item}
    (stepwise : ∀ item ∈ items, Stepwise step (request item)) :
    Stepwise step (items.forM request) := by
  induction items with
  | nil => exact .pure _
  | cons item rest inductionHypothesis =>
      refine (stepwise item List.mem_cons_self).bind fun _ => inductionHypothesis ?_
      exact fun other member => stepwise other (List.mem_cons_of_mem _ member)

/-- Steps of one kind are steps of every wider kind. -/
theorem Stepwise.mono {weaker : Registry → Registry → Prop} {request : RegistryM First}
    (stepwise : Stepwise step request)
    (weaken : ∀ first second, step first second → weaker first second) :
    Stepwise weaker request :=
  fun registry => Relation.ReflTransGen.mono weaken _ _ (stepwise registry)

end Stepwise

/-- A connection of a holder is one of the changes that any request may make. -/
theorem Connection.change {name : String} {aliases : List String} (first second : Registry)
    (connection : Connection name aliases first second) : Change first second := by
  cases connection with
  | connect listed free => exact .connect free

/-- A registration makes one change or none. -/
theorem register_stepwise (name : String) (definition : BeanDefinition) :
    Stepwise Change (register name definition) := by
  intro registry
  rw [leftBy, register_run]
  cases fault : registry.bindingFault? name with
  | some cause => exact .refl
  | none => exact .single (.bind definition fault)

/-- A removal makes one change or none. -/
theorem remove_stepwise (name : String) : Stepwise Change (remove name) := by
  intro registry
  rw [leftBy, remove_run]
  cases known : registry.definition? name with
  | none => exact .refl
  | some removed => exact .single (.unbind (by simp [contains, known]))

/-- An alias from the list of a holder makes one connection of that holder or none. -/
theorem registerAlias_stepwise (name : String) {aliasName : String} {aliases : List String}
    (listed : aliasName ∈ aliases) :
    Stepwise (Connection name aliases) (registerAlias name aliasName) := by
  intro registry
  rw [leftBy, registerAlias_run]
  cases fault : registry.aliasFault? name aliasName with
  | some cause => exact .refl
  | none => exact .single (.connect listed fault)

/-- The aliases of a holder make connections of that holder and nothing else. -/
theorem registerAliases_stepwise (name : String) (aliases : List String) :
    Stepwise (Connection name aliases)
      (aliases.forM fun aliasName => registerAlias name aliasName) :=
  .forM fun _ listed => registerAlias_stepwise name listed

/-- A holder makes several changes one by one, also where its registration is refused. -/
theorem registerHolder_stepwise (holder : BeanDefinitionHolder) :
    Stepwise Change (registerHolder holder) := by
  refine (register_stepwise _ _).bind fun registered => ?_
  exact ((registerAliases_stepwise _ _).mono Connection.change).bind fun _ => .pure registered

/-- A holder whose bean name is refused changes nothing, and after any other only its aliases
differ from what the definition alone leads to. -/
theorem registerHolder_leftBy (holder : BeanDefinitionHolder) (registry : Registry) :
    (∃ cause, registry.bindingFault? holder.beanName = some cause ∧
        registry.leftBy (registerHolder holder) = registry) ∨
      registry.bindingFault? holder.beanName = none ∧
        Relation.ReflTransGen (Connection holder.beanName holder.aliases)
          (registry.bind holder.beanName holder.definition)
          (registry.leftBy (registerHolder holder)) := by
  unfold registerHolder
  cases fault : registry.bindingFault? holder.beanName with
  | some cause => exact Or.inl ⟨cause, rfl, by simp [leftBy, register_run, fault]⟩
  | none =>
      have rest : Stepwise (Connection holder.beanName holder.aliases) (do
          holder.aliases.forM fun aliasName => registerAlias holder.beanName aliasName
          return holder.definition) :=
        (registerAliases_stepwise _ _).bind fun _ => .pure _
      have steps := rest (registry.bind holder.beanName holder.definition)
      refine Or.inr ⟨rfl, ?_⟩
      unfold leftBy at steps ⊢
      rwa [EStateM.run_bind, register_run, fault]

/-- The bindings of aliases leave the definitions and their order alone. -/
theorem Connection.kept {name : String} {aliases : List String} {first last : Registry}
    (connections : Relation.ReflTransGen (Connection name aliases) first last) :
    last.names = first.names ∧ last.definitions = first.definitions := by
  induction connections with
  | refl => exact ⟨rfl, rfl⟩
  | tail _ connection inductionHypothesis =>
      cases connection with
      | connect listed free => exact inductionHypothesis

/-- Connections leave the permission to bind names anew alone. -/
theorem Connection.allowOverriding_eq {name : String} {aliases : List String}
    {first last : Registry}
    (connections : Relation.ReflTransGen (Connection name aliases) first last) :
    last.allowOverriding = first.allowOverriding := by
  induction connections with
  | refl => rfl
  | tail _ connection inductionHypothesis =>
      cases connection with
      | connect listed free => exact inductionHypothesis

/-- Every request proceeds by the listed changes, be it refused or not. -/
theorem Request.perform_stepwise (request : Request) : Stepwise Change request.perform := by
  cases request with
  | register name definition => exact (register_stepwise name definition).bind fun _ => .pure _
  | remove name => exact (remove_stepwise name).bind fun _ => .pure _
  | registerAlias name aliasName =>
      exact (registerAlias_stepwise name (List.mem_singleton.mpr rfl)).mono Connection.change
  | registerHolder holder => exact (registerHolder_stepwise holder).bind fun _ => .pure _
  | setAllowOverriding allow => exact fun registry => .single (.setOverriding registry allow)

/-! What every change keeps holds after every run. -/

theorem run_concat (registry : Registry) (requests : List Request) (request : Request) :
    registry.run (requests ++ [request]) = request.after (registry.run requests) := by
  rw [run, List.foldl_append]
  rfl

/-- A run of requests is a chain of the listed changes. -/
theorem run_changes (registry : Registry) (requests : List Request) :
    Relation.ReflTransGen Change registry (registry.run requests) := by
  induction requests generalizing registry with
  | nil => exact .refl
  | cons request rest inductionHypothesis =>
      exact (request.perform_stepwise registry).trans (inductionHypothesis _)

/-- What holds at first and is kept by each change holds of every reachable registry. -/
theorem Reachable.invariant {Holds : Registry → Prop} (start : Holds .empty)
    (kept : ∀ first second, Change first second → Holds first → Holds second)
    {registry : Registry} (reachable : Reachable registry) : Holds registry := by
  obtain ⟨requests, rfl⟩ := reachable
  have changes := run_changes .empty requests
  generalize Registry.empty.run requests = last at changes
  induction changes with
  | refl => exact start
  | tail _ change inductionHypothesis => exact kept _ _ change inductionHypothesis

end BeanContainer.Registry
