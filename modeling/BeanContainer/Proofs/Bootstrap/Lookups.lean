/-
This file says which names of a started container lead to a bean, and for which of them the
container itself finds the definition of that bean. It looks at definitions only, and an alias leads
to nothing there.
-/

import BeanContainer.Proofs.Bootstrap.Phases
import BeanContainer.Proofs.Bootstrap.Roster
import BeanContainer.Proofs.Registry.SharedNames

namespace BeanContainer

open Relation

namespace Registry

variable {sanctioned : BeanDefinition → Prop} {first last registry : Registry}

/-! What the aliases of a started container are bound to. -/

/-- No name comes back to itself, and each alias is bound to a name that has a definition. -/
structure Anchored (registry : Registry) : Prop where
  acyclic : registry.aliases.Acyclic
  contains_target : ∀ {aliasName target : String},
    registry.aliases.get? aliasName = some target → registry.contains target = true

/-- Without aliases none leads to an unknown name. -/
theorem empty_anchored (allowOverriding : Bool) : Anchored (.empty allowOverriding) :=
  ⟨empty_acyclic allowOverriding, fun bound => nomatch bound⟩

/-- A new definition keeps the targets of all aliases known. -/
theorem Anchored.contains_of_bind (anchored : Anchored registry) {name : String}
    {definition : BeanDefinition} {aliasName target : String}
    (bound : (registry.bind name definition).aliases.get? aliasName = some target) :
    (registry.bind name definition).contains target = true := by
  rw [Registry.bind, SortedMap.get?_erase] at bound
  split at bound
  · contradiction
  · rw [contains_bind, anchored.contains_target bound, Bool.or_true]

/-- An alias of a known name leads to a known name. -/
theorem Anchored.contains_of_connect (anchored : Anchored registry) {name newAlias : String}
    (known : registry.contains name = true) {aliasName target : String}
    (bound : (registry.connect name newAlias).aliases.get? aliasName = some target) :
    (registry.connect name newAlias).contains target = true := by
  have old (bound : registry.aliases.get? aliasName = some target) :
      (registry.connect name newAlias).contains target = true := anchored.contains_target bound
  unfold Registry.connect at bound
  dsimp only at bound
  split at bound
  · rw [SortedMap.get?_erase] at bound
    split at bound
    · contradiction
    · exact old bound
  · rw [SortedMap.get?_insert] at bound
    split at bound
    · cases bound
      exact known
    · exact old bound

/-- A placement makes aliases of known names only. -/
theorem Placement.anchored (placement : Placement sanctioned first last)
    (anchored : Anchored first) : Anchored last := by
  refine ⟨placement.write.change.acyclic anchored.acyclic, fun bound => ?_⟩
  cases placement with
  | place allowed free => exact anchored.contains_of_bind bound
  | hide allowed free => exact anchored.contains_of_bind bound
  | front byClass behind free => exact anchored.contains_of_bind bound
  | connect known free => exact anchored.contains_of_connect known bound

/-- Placements one after the other make aliases of known names only. -/
theorem Anchored.of_placements (placements : ReflTransGen (Placement sanctioned) first last)
    (anchored : Anchored first) : Anchored last := by
  induction placements with
  | refl => exact anchored
  | tail _ placement inductionHypothesis => exact placement.anchored inductionHypothesis

/-- From a name with a definition, each further binding leads to another such name. -/
theorem Anchored.contains_follow (anchored : Anchored registry) (steps : Nat) {name : String}
    (known : registry.contains name = true) :
    registry.contains (registry.aliases.follow steps name) = true := by
  induction steps generalizing name with
  | zero => exact known
  | succ steps inductionHypothesis =>
      unfold AliasMap.follow
      split
      · rename_i target bound
        exact inductionHypothesis (anchored.contains_target bound)
      · exact known

/-- Just the names that are in use lead to a definition. -/
theorem Anchored.contains_canonicalName (anchored : Anchored registry) (name : String) :
    registry.contains (registry.canonicalName name) = registry.isNameInUse name := by
  unfold isNameInUse isAlias SortedMap.contains
  cases bound : registry.aliases.get? name with
  | none =>
      rw [canonicalName, AliasMap.canonicalName_eq_self bound, Option.isSome_none, Bool.or_false]
  | some target =>
      have listed : 0 < registry.aliases.size :=
        List.length_pos_of_mem ((registry.aliases.get?_eq_some_iff name target).mp bound)
      obtain ⟨steps, size⟩ := Nat.exists_eq_add_one.mpr listed
      rw [canonicalName, AliasMap.canonicalName, size, AliasMap.follow, bound,
        anchored.contains_follow steps (anchored.contains_target bound), Option.isSome_some,
        Bool.or_true]

/-- Where aliases lead to known names the canonical name is no alias. -/
theorem Anchored.isAlias_canonicalName (anchored : Anchored registry) (name : String) :
    registry.isAlias (registry.canonicalName name) = false := by
  rw [isAlias, SortedMap.contains, Option.isSome_eq_false_iff, Option.isNone_iff_eq_none]
  exact anchored.acyclic.get?_canonicalName name

end Registry

/-! Looking a definition up. -/

namespace Context

variable {context : Context} {name other : String}

/-- The definition of another bean is found only where it stands under this name as well. -/
theorem definition_eq_iff (known : context.factory.registry.contains other = true) :
    context.definition name = (context.factory.registry.definition other).mapError .definition ↔
      context.factory.registry.definition? name = context.factory.registry.definition? other := by
  unfold Registry.contains at known
  unfold Context.definition Registry.definition
  cases present : context.factory.registry.definition? other with
  | none => simp [present] at known
  | some definition =>
      cases context.factory.registry.definition? name with
      | none => exact iff_of_false nofun nofun
      | some given => simp [Except.mapError]

/-- The container finds no definition just for the names that have none. -/
theorem definition_eq_error_iff :
    context.definition name = .error (.definition (.noSuchBeanDefinition name)) ↔
      context.factory.registry.contains name = false := by
  unfold Context.definition Registry.definition Registry.contains
  cases context.factory.registry.definition? name with
  | none => exact iff_of_true rfl rfl
  | some definition => exact iff_of_false nofun nofun

end Context

/-! The registry of a started container. -/

namespace Bootstrap

/-- Components place definitions of classes and nothing else. -/
theorem registerComponents_places {sanctioned : BeanDefinition → Prop}
    (allowed : ∀ metadata definition, IsClassDefinition metadata definition →
      sanctioned definition) (classes : List ClassMetadata) (names : SortedMap String) :
    Respects (Order.Preimage RegistrationState.registry
      (ReflTransGen (Registry.Placement sanctioned))) (registerComponents classes names) := by
  induction classes generalizing names with
  | nil => exact .pure names
  | cons metadata rest inductionHypothesis =>
      unfold registerComponents
      split
      · exact inductionHypothesis names
      · apply (annotationReader.registerComponent_places none (allowed metadata)).bind
        intro holder _
        exact inductionHypothesis _

/-- All that a start does to the empty registry are placements, whether names may be bound anew or
not. -/
theorem outcome_places {sanctioned : BeanDefinition → Prop}
    (ofInfrastructure : ∀ bean : InfrastructureBean, sanctioned (bean.definition none))
    (ofClass : ∀ metadata definition, IsClassDefinition metadata definition → sanctioned definition)
    (ofMethod : ∀ configuration method definition, IsProduct configuration method definition →
      sanctioned definition)
    {input : BootstrapInput} {context : Context} (started : outcome input = .ok context) :
    ReflTransGen (Registry.Placement sanctioned) (.empty input.allowOverriding)
      context.factory.registry := by
  obtain ⟨factory, names, _, _, last, holders, components, _, loaded, rfl⟩ :=
    outcome_eq_ok_iff.mp started
  obtain ⟨_, prepared, left, infrastructure, registered, rfl⟩ :=
    componentFactory_eq_ok_iff.mp components
  obtain ⟨finished, loading, rfl⟩ := loadModel_eq_ok_iff.mp loaded
  have begun : ReflTransGen (Registry.Placement sanctioned) (.empty input.allowOverriding)
      prepared :=
    (Registry.registerInfrastructure_places none input.isPresent ofInfrastructure).of_ok
      infrastructure
  have continued : ReflTransGen (Registry.Placement sanctioned) prepared left.registry :=
    (registerComponents_places ofClass _ _).of_ok registered
  have ended : ReflTransGen (Registry.Placement sanctioned) left.registry
      finished.registration.registry :=
    (annotationReader.loadModel_places ofClass ofMethod).of_ok loading
  exact (begun.trans continued).trans ended

/-- In a started container every alias leads to a known name. -/
theorem outcome_anchored {input : BootstrapInput} {context : Context}
    (started : outcome input = .ok context) : context.factory.registry.Anchored := by
  have placements : ReflTransGen (Registry.Placement fun _ => True)
      (.empty input.allowOverriding) context.factory.registry :=
    outcome_places (fun _ => trivial) (fun _ _ _ => trivial) (fun _ _ _ _ => trivial) started
  exact .of_placements placements (Registry.empty_anchored _)

end Bootstrap

namespace ContainerBuilder

/-- Every name that is in use leads to a bean of a started container, but the container gives the
definition of that bean only under names that are no alias, and under an alias that has the same
definition of its own. It finds nothing under any other alias. -/
theorem build_definition_iff (builder : ContainerBuilder) (shared : ContainerProperties)
    {context : Context} (started : (builder.build shared).1 = .ok context) (name : String) :
    let registry := context.factory.registry
    let canonical := registry.canonicalName name
    (registry.isAlias canonical = false ∧
      registry.contains canonical = registry.isNameInUse name) ∧
    (context.definition name = (registry.definition canonical).mapError .definition ↔
      registry.isAlias name = false ∨
        registry.definition? name = registry.definition? canonical) ∧
    (context.definition name = .error (.definition (.noSuchBeanDefinition name)) ↔
      registry.contains name = false) := by
  intro registry canonical
  have anchored := Bootstrap.outcome_anchored (build_eq_ok_iff.mp started)
  have resolves : registry.contains canonical = registry.isNameInUse name :=
    anchored.contains_canonicalName name
  refine ⟨⟨anchored.isAlias_canonicalName name, resolves⟩, ?_, Context.definition_eq_error_iff⟩
  cases bound : registry.isAlias name with
  | false =>
      have same : canonical = name :=
        (Registry.canonicalName_eq_self_iff anchored.acyclic name).mpr bound
      rw [same]
      exact iff_of_true rfl (Or.inl rfl)
  | true =>
      have known : registry.contains canonical = true := by
        rw [resolves, Registry.isNameInUse, bound, Bool.or_true]
      rw [Context.definition_eq_iff known]
      simp [registry]

/-- A shop whose methods make these beans, each under the first of its names. -/
def shopOf (beans : List (List String)) : ContainerBuilder :=
  let shop : ClassMetadata :=
    { className := "shop.Config", annotations := .ofDescriptors [.configuration none true] }
  let method (names : List String) : MethodMetadata :=
    { methodName := names.headD "bean"
      declaringClassName := "shop.Config"
      returnTypeName := some "shop.Product"
      annotations := .ofDescriptors [.bean names] }
  ({} : ContainerBuilder).addConfiguration shop (beans.map method)

/-- The basket leads to the desk by way of the cart, and the cart is a bean as well. -/
theorem definitions_of_chained_shop :
    let shared : ContainerProperties := { systemTier := fun _ => none }
    ∃ context, ((shopOf [["cart", "basket"], ["desk", "cart"]]).build shared).1 = .ok context ∧
      context.factory.registry.canonicalName "basket" = "desk" ∧
      context.factory.registry.contains "desk" = true ∧
      context.definition "basket" = .error (.definition (.noSuchBeanDefinition "basket")) ∧
      context.factory.registry.canonicalName "cart" = "desk" ∧
      context.definition "cart" ≠
        (context.factory.registry.definition "desk").mapError .definition := by
  intro shared
  have seen : ((shopOf [["cart", "basket"], ["desk", "cart"]]).build shared).1.toOption.map
      (fun context =>
        let registry := context.factory.registry
        (["basket", "cart"].map registry.canonicalName,
          [registry.isNameInUse "basket", registry.contains "basket", registry.isAlias "cart"],
          ["cart", "desk"].map fun name =>
            (registry.definition? name).bind (·.factoryMethodName))) =
      some (["desk", "desk"], [true, false, true], [some "cart", some "desk"]) := by
    decide +kernel
  obtain ⟨context, started, view⟩ := exists_of_seen seen
  simp only [Prod.mk.injEq, List.map_cons, List.map_nil, List.cons.injEq, and_true] at view
  obtain ⟨⟨basketLeads, cartLeads⟩, ⟨basketUsed, noBasket, cartBound⟩, madeCart, madeDesk⟩ := view
  obtain ⟨⟨_, resolves⟩, _, fails⟩ := build_definition_iff _ _ started "basket"
  obtain ⟨_, agrees, _⟩ := build_definition_iff _ _ started "cart"
  rw [basketLeads, basketUsed] at resolves
  refine ⟨context, started, basketLeads, resolves, fails.mpr noBasket, cartLeads, ?_⟩
  intro same
  rw [cartLeads] at agrees
  obtain unbound | sameDefinition := agrees.mp same
  · simp [cartBound] at unbound
  · simp [sameDefinition, madeDesk] at madeCart

/-- The basket is an alias of the cart, and the container does not find it. -/
theorem alias_finds_no_definition :
    let shared : ContainerProperties := { systemTier := fun _ => none }
    ∃ context, ((shopOf [["cart", "basket"]]).build shared).1 = .ok context ∧
      context.factory.registry.canonicalName "basket" = "cart" ∧
      context.definition "basket" = .error (.definition (.noSuchBeanDefinition "basket")) ∧
      context.definition "basket" ≠
        (context.factory.registry.definition
          (context.factory.registry.canonicalName "basket")).mapError .definition := by
  intro shared
  have seen : ((shopOf [["cart", "basket"]]).build shared).1.toOption.map (fun context =>
        let registry := context.factory.registry
        (registry.canonicalName "basket", registry.contains "basket", registry.contains "cart")) =
      some ("cart", false, true) := by
    decide +kernel
  obtain ⟨context, started, view⟩ := exists_of_seen seen
  simp only [Prod.mk.injEq] at view
  obtain ⟨leads, absent, known⟩ := view
  refine ⟨context, started, leads, Context.definition_eq_error_iff.mpr absent, ?_⟩
  rw [leads, ne_eq, Context.definition_eq_iff known]
  intro same
  rw [Registry.contains, same] at absent
  simp [Registry.contains, absent] at known

end ContainerBuilder

end BeanContainer
