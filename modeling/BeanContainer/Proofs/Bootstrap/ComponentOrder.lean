/-
This file shows that the order of the explicit components of a start shows in nothing but the order
of the names. Two neighbours may change places, and what comes after them takes the same course.
-/

import BeanContainer.Proofs.Bootstrap.Roster
import BeanContainer.Proofs.Naming.MetaTypeCache
import BeanContainer.Proofs.Registration.Reordering

namespace BeanContainer

open Registry (Reordered)

/-! What is read of a component does not depend on the components before it. -/

/-- Of the types that the views declare neither cache remembers anything but what the views say. -/
def MetaTypeCache.BothSuit (views : List AnnotationView) (first second : MetaTypeCache) : Prop :=
  Suits views first ∧ Suits views second

section Reading

variable {views : List AnnotationView} (agree : AnnotationView.AgreeOnMetaTypes views)
  {metadata : ClassMetadata} (listed : metadata.annotations ∈ views)

include agree listed

/-- Where the meta types agree, caches that saw different classes make up the same name. -/
theorem Naming.byAnnotations_simulates {definition : BeanDefinition}
    (annotated : definition.metadata = some metadata) (registry : Registry) :
    Simulates (MetaTypeCache.BothSuit views) (byAnnotations definition registry) := by
  intro first second left name suit done
  have keeps : Respects (Keeps (MetaTypeCache.Suits views)) (byAnnotations definition registry) := by
    apply byAnnotations_respects
    intro other same typeName declared cache suits
    obtain rfl := Option.some.inj (annotated.symm.trans same)
    exact suits.keep agree listed declared
  have sameResult : resultOf (byAnnotations definition registry) first =
      resultOf (byAnnotations definition registry) second := by
    apply resultOf_byAnnotations registry rfl
    rw [annotated]
    apply Option.Rel.some
    apply resultOf_annotatedName rfl rfl
    intro typeName declared
    rw [suit.1 _ listed _ declared, suit.2 _ listed _ declared]
  rw [resultOf_eq_ok_iff.mpr ⟨left, done⟩] at sameResult
  obtain ⟨other, likewise⟩ := resultOf_eq_ok_iff.mp sameResult.symm
  exact ⟨other, likewise, keeps.of_ok done suit.1, keeps.of_ok likewise suit.2⟩

namespace Bootstrap

/-- The name of a component does not depend on what the cache saw before. -/
theorem generateName_simulates (related : Registry → Registry → Prop) (scopeName : String) :
    Simulates (RegistrationState.Pairs related (MetaTypeCache.BothSuit views))
      (RegistrationM.generateName annotationReader.generator
        (DefinitionReader.componentDefinition metadata scopeName)) := by
  apply RegistrationM.generateName_simulates
  · intro first second _
    rfl
  · have annotated : (DefinitionReader.componentDefinition metadata scopeName).metadata =
        some metadata := rfl
    exact Naming.byAnnotations_simulates agree listed annotated

/-- A component is read in the same way whatever the registry and the cache hold. -/
theorem readComponent_again (state other : RegistrationState MetaTypeCache)
    (suits : state.memory.Suits views) (otherSuits : other.memory.Suits views)
    {component : Component} {left : RegistrationState MetaTypeCache}
    (read : (annotationReader.readComponent metadata none).run state = .ok component left) :
    ∃ again, (annotationReader.readComponent metadata none).run other = .ok component again ∧
      left.memory.Suits views ∧ again.memory.Suits views := by
  have reads := DefinitionReader.readComponent_simulates
    (generateName_simulates agree listed fun _ _ => True) none
  obtain ⟨again, likewise, _, suit⟩ := reads.of_ok read ⟨trivial, suits, otherSuits⟩
  exact ⟨again, likewise, suit⟩

/-- A component is registered alike after the same beans in another order. -/
theorem registerComponent_simulates :
    Simulates (RegistrationState.Pairs Reordered (MetaTypeCache.BothSuit views))
      (annotationReader.registerComponent metadata) :=
  DefinitionReader.registerComponent_simulates Reordered.simulation
    (generateName_simulates agree listed Reordered) none

/-- Two components that are registered one after the other may change places. -/
theorem registerComponent_swap {other : ClassMetadata} (otherListed : other.annotations ∈ views)
    {state middle last : RegistrationState MetaTypeCache} {holder otherHolder : BeanDefinitionHolder}
    (fixedNames : state.registry.allowOverriding = false) (suits : state.memory.Suits views)
    (begun : (annotationReader.registerComponent metadata).run state = .ok holder middle)
    (ended : (annotationReader.registerComponent other).run middle = .ok otherHolder last) :
    ∃ between final,
      (annotationReader.registerComponent other).run state = .ok otherHolder between ∧
        (annotationReader.registerComponent metadata).run between = .ok holder final ∧
        last.Pairs Reordered (MetaTypeCache.BothSuit views) final := by
  obtain ⟨component, prepared, registry, read, registered, rfl⟩ :=
    DefinitionReader.registerComponent_eq_ok_iff.mp begun
  obtain ⟨otherComponent, otherPrepared, otherRegistry, otherRead, otherRegistered, rfl⟩ :=
    DefinitionReader.registerComponent_eq_ok_iff.mp ended
  obtain ⟨_, _, preparedSuits, _⟩ := readComponent_again agree listed state state suits suits read
  obtain ⟨otherBefore, otherReadBefore, otherSuits, beforeSuits⟩ :=
    readComponent_again agree otherListed ⟨registry, prepared.memory⟩ state preparedSuits suits
      otherRead
  obtain ⟨between, final, otherFirst, thenComponent, reordered⟩ :=
    Registry.registerScoped_swap ⟨component.proxyMode, component.holder⟩
      ⟨otherComponent.proxyMode, otherComponent.holder⟩ fixedNames rfl rfl registered
      otherRegistered
  obtain ⟨after, readAfter, _, afterSuits⟩ :=
    readComponent_again agree listed state ⟨between, otherBefore.memory⟩ suits beforeSuits read
  refine ⟨⟨between, otherBefore.memory⟩, ⟨final, after.memory⟩, ?_, ?_, reordered, otherSuits,
    afterSuits⟩
  · exact DefinitionReader.registerComponent_eq_ok_iff.mpr
      ⟨_, _, _, otherReadBefore, otherFirst, rfl⟩
  · exact DefinitionReader.registerComponent_eq_ok_iff.mpr
      ⟨_, _, _, readAfter, thenComponent, rfl⟩

end Bootstrap

end Reading

/-! The components one after the other. -/

namespace Bootstrap

/-- No name may be bound anew, and the cache suits the views. -/
def Ready (views : List AnnotationView) (state : RegistrationState MetaTypeCache) : Prop :=
  state.registry.allowOverriding = false ∧ state.memory.Suits views

section Components

variable {views : List AnnotationView} (agree : AnnotationView.AgreeOnMetaTypes views)

include agree

/-- A component that is registered leaves the start ready for the next one. -/
theorem Ready.after {metadata : ClassMetadata} (listed : metadata.annotations ∈ views)
    {state left : RegistrationState MetaTypeCache} {holder : BeanDefinitionHolder}
    (ready : Ready views state)
    (done : (annotationReader.registerComponent metadata).run state = .ok holder left) :
    Ready views left := by
  obtain ⟨bean, _, adds⟩ := DefinitionReader.registerComponent_adds ready.1 done
  obtain ⟨_, _, _, suits, _⟩ :=
    (registerComponent_simulates agree listed).of_ok done ⟨.refl _, ready.2, ready.2⟩
  exact ⟨adds.fixedNames, suits⟩

omit agree in
/-- A list of components is registered one by one, and each one notes its name. -/
theorem registerComponents_cons_iff {metadata : ClassMetadata} {rest : List ClassMetadata}
    {names noted : SortedMap String} (fresh : names.contains metadata.className = false)
    {state left : RegistrationState MetaTypeCache} :
    (registerComponents (metadata :: rest) names).run state = .ok noted left ↔
      ∃ holder middle, (annotationReader.registerComponent metadata).run state = .ok holder middle ∧
        (registerComponents rest (names.insert metadata.className holder.beanName)).run middle =
          .ok noted left := by
  have opened : registerComponents (metadata :: rest) names = (do
      let holder ← annotationReader.registerComponent metadata
      registerComponents rest (names.insert metadata.className holder.beanName)) := by
    rw [registerComponents, fresh]
    rfl
  rw [opened]
  exact run_bind_eq_ok_iff

omit agree in
/-- A name that is noted for one class leaves every other class without one. -/
theorem fresh_insert {names : SortedMap String} {className other beanName : String}
    (apart : other ≠ className) (fresh : names.contains other = false) :
    (names.insert className beanName).contains other = false := by
  rw [SortedMap.contains_insert, beq_eq_false_iff_ne.mpr apart, Bool.false_or]
  exact fresh

/-- Two new components in front may change places. -/
theorem registerComponents_swap {first second : ClassMetadata} {rest : List ClassMetadata}
    (listed : ∀ metadata ∈ first :: second :: rest, metadata.annotations ∈ views)
    (apart : first.className ≠ second.className) {names noted : SortedMap String}
    (fresh : names.contains first.className = false)
    (secondFresh : names.contains second.className = false)
    {state left : RegistrationState MetaTypeCache} (ready : Ready views state)
    (done : (registerComponents (first :: second :: rest) names).run state = .ok noted left) :
    ∃ other, (registerComponents (second :: first :: rest) names).run state = .ok noted other ∧
      left.Pairs Reordered (MetaTypeCache.BothSuit views) other := by
  obtain ⟨holder, middle, begun, continued⟩ := (registerComponents_cons_iff fresh).mp done
  obtain ⟨secondHolder, last, ended, later⟩ :=
    (registerComponents_cons_iff (fresh_insert apart.symm secondFresh)).mp continued
  obtain ⟨between, final, secondBegun, firstEnded, pairs⟩ := registerComponent_swap agree
    (listed first (by simp)) (listed second (by simp)) ready.1 ready.2 begun ended
  -- The same names are noted by then, so the others meet a registry that is only ordered otherwise.
  rw [SortedMap.insert_comm _ apart] at later
  have simulates := registerComponents_simulates Reordered.simulation
    (fun metadata member => generateName_simulates agree
      (listed metadata (List.mem_cons_of_mem _ (List.mem_cons_of_mem _ member))) Reordered)
    ((names.insert second.className secondHolder.beanName).insert first.className holder.beanName)
  obtain ⟨other, laterLikewise, alike⟩ := simulates.of_ok later pairs
  have continuedLikewise := (registerComponents_cons_iff (fresh_insert apart fresh)).mpr
    ⟨holder, final, firstEnded, laterLikewise⟩
  exact ⟨other, (registerComponents_cons_iff secondFresh).mpr
    ⟨secondHolder, between, secondBegun, continuedLikewise⟩, alike⟩

/-- Whatever order the first components come in, they and the others after them are accepted, and
the same names are noted for them. -/
theorem registerComponents_perm {firsts seconds : List ClassMetadata}
    (permuted : firsts.Perm seconds) {rest : List ClassMetadata}
    (listed : ∀ metadata ∈ firsts ++ rest, metadata.annotations ∈ views)
    (distinct : (firsts.map ClassMetadata.className).Nodup) {names noted : SortedMap String}
    (fresh : ∀ metadata ∈ firsts, names.contains metadata.className = false)
    {state left : RegistrationState MetaTypeCache} (ready : Ready views state)
    (done : (registerComponents (firsts ++ rest) names).run state = .ok noted left) :
    ∃ other, (registerComponents (seconds ++ rest) names).run state = .ok noted other ∧
      left.Pairs Reordered (MetaTypeCache.BothSuit views) other := by
  induction permuted generalizing names state left with
  | nil =>
      have simulates := registerComponents_simulates Reordered.simulation
        (fun metadata member => generateName_simulates agree (listed metadata member) Reordered)
        names
      exact simulates.of_ok done ⟨.refl _, ready.2, ready.2⟩
  | @cons metadata firsts seconds _ inductionHypothesis =>
      rw [List.map_cons, List.nodup_cons] at distinct
      have freshHere := fresh metadata List.mem_cons_self
      obtain ⟨holder, middle, begun, ended⟩ := (registerComponents_cons_iff freshHere).mp done
      have freshLater : ∀ other ∈ firsts, (names.insert metadata.className holder.beanName).contains
          other.className = false := by
        intro other member
        apply fresh_insert
        · intro same
          exact distinct.1 (List.mem_map.mpr ⟨other, member, same⟩)
        · exact fresh other (List.mem_cons_of_mem _ member)
      obtain ⟨other, likewise, pairs⟩ := inductionHypothesis
        (fun other member => listed other (List.mem_cons_of_mem _ member)) distinct.2 freshLater
        (ready.after agree (listed metadata List.mem_cons_self) begun) ended
      exact ⟨other, (registerComponents_cons_iff freshHere).mpr ⟨holder, middle, begun, likewise⟩,
        pairs⟩
  | swap first second others =>
      have apart : second.className ≠ first.className := by
        intro same
        simp [same] at distinct
      exact registerComponents_swap agree listed apart (fresh second (by simp))
        (fresh first (by simp)) ready done
  | trans permuted _ firstHypothesis secondHypothesis =>
      obtain ⟨between, halfway, pairs⟩ := firstHypothesis listed distinct fresh ready done
      obtain ⟨other, likewise, further⟩ := secondHypothesis
        (fun metadata member => listed metadata ((permuted.append_right rest).mem_iff.mpr member))
        ((permuted.map _).nodup_iff.mp distinct)
        (fun metadata member => fresh metadata (permuted.mem_iff.mpr member)) ready halfway
      exact ⟨other, likewise, pairs.1.trans further.1, pairs.2.1, further.2.2⟩

end Components

/-! The phases of a start. -/

section Phases

variable (input : BootstrapInput) {components : List ClassMetadata}

/-- Components in another order fill the registry with the same beans in another order. -/
theorem componentFactory_perm (permuted : input.components.Perm components)
    (fixedNames : input.allowOverriding = false)
    (distinct : (input.components.map ClassMetadata.className).Nodup)
    (agree : AnnotationView.AgreeOnMetaTypes (input.allComponents.map ClassMetadata.annotations))
    {factory : BeanFactory} {names : SortedMap String}
    (done : componentFactory input = .ok (factory, names)) :
    ∃ registry, componentFactory { input with components } = .ok ({ factory with registry }, names) ∧
      Reordered factory.registry registry := by
  obtain ⟨holders, prepared, left, infrastructure, registered, rfl⟩ :=
    componentFactory_eq_ok_iff.mp done
  have fixedAfter : prepared.allowOverriding = false := by
    rw [fixedNames] at infrastructure
    exact (Registry.registerInfrastructure_adds infrastructure).fixedNames
  obtain ⟨other, registeredLikewise, reordered, _⟩ := registerComponents_perm agree permuted
    (fun metadata member => List.mem_map_of_mem member) distinct (fun _ _ => rfl)
    ⟨fixedAfter, MetaTypeCache.suits_fresh _⟩ registered
  exact ⟨other.registry, componentFactory_eq_ok_iff.mpr
    ⟨holders, prepared, other, infrastructure, registeredLikewise, rfl⟩, reordered⟩

/-- Components in another order start a container that differs in the order of the names alone. -/
theorem outcome_perm (permuted : input.components.Perm components)
    (fixedNames : input.allowOverriding = false)
    (distinct : (input.components.map ClassMetadata.className).Nodup)
    (agree : AnnotationView.AgreeOnMetaTypes (input.allComponents.map ClassMetadata.annotations))
    {context : Context} (started : outcome input = .ok context) :
    ∃ other, outcome { input with components } = .ok other ∧
      Reordered context.factory.registry other.factory.registry ∧
      other.problems = context.problems := by
  obtain ⟨factory, names, count, checked, last, holders, registered, valid, loaded, rfl⟩ :=
    outcome_eq_ok_iff.mp started
  obtain ⟨registry, registeredLikewise, reordered⟩ :=
    componentFactory_perm input permuted fixedNames distinct agree registered
  obtain ⟨otherLast, loadedLikewise, reorderedLast⟩ :=
    loadModel_simulates Reordered.simulation reordered loaded
  refine ⟨_, outcome_eq_ok_iff.mpr ⟨_, names, count, checked, _, holders, registeredLikewise,
    valid, loadedLikewise, rfl⟩, reorderedLast, rfl⟩

end Phases

end Bootstrap

namespace ContainerBuilder

def withComponents (builder : ContainerBuilder) (components : List ClassMetadata) :
    ContainerBuilder :=
  { builder with components }

/-- Where no name may be bound anew, the explicit components may come in any order if their classes
differ and all of them agree on what a marker type carries. The start then succeeds or fails as
before, and the definitions, the aliases and the problems stay the same. -/
theorem build_components_perm (builder : ContainerBuilder) (shared : ContainerProperties)
    {components : List ClassMetadata} (permuted : builder.components.Perm components)
    (fixedNames : (builder.input shared).allowOverriding = false)
    (distinct : (builder.components.map ClassMetadata.className).Nodup)
    (agree : AnnotationView.AgreeOnMetaTypes
      ((builder.input shared).allComponents.map ClassMetadata.annotations)) :
    ((∃ context, (builder.build shared).1 = .ok context) ↔
      ∃ other, ((builder.withComponents components).build shared).1 = .ok other) ∧
    ∀ context other, (builder.build shared).1 = .ok context →
      ((builder.withComponents components).build shared).1 = .ok other →
        (∀ name, other.factory.registry.definition? name =
          context.factory.registry.definition? name) ∧
        other.factory.registry.aliases = context.factory.registry.aliases ∧
        other.problems = context.problems ∧
        other.factory.registry.names.Perm context.factory.registry.names := by
  have forth {context : Context} (started : (builder.build shared).1 = .ok context) :
      ∃ other, ((builder.withComponents components).build shared).1 = .ok other ∧
        Reordered context.factory.registry other.factory.registry ∧
        other.problems = context.problems := by
    obtain ⟨other, likewise, alike⟩ := Bootstrap.outcome_perm (builder.input shared) permuted
      fixedNames distinct agree (build_eq_ok_iff.mp started)
    exact ⟨other, build_eq_ok_iff.mpr likewise, alike⟩
  constructor
  · constructor
    · rintro ⟨context, started⟩
      obtain ⟨other, likewise, _⟩ := forth started
      exact ⟨other, likewise⟩
    · rintro ⟨other, started⟩
      have sameViews : (((builder.withComponents components).input shared).allComponents.map
          ClassMetadata.annotations).Perm
          ((builder.input shared).allComponents.map ClassMetadata.annotations) :=
        (permuted.symm.append_right _).map _
      have agreeLikewise : AnnotationView.AgreeOnMetaTypes
          (((builder.withComponents components).input shared).allComponents.map
            ClassMetadata.annotations) :=
        fun first member second otherMember =>
          agree first (sameViews.mem_iff.mp member) second (sameViews.mem_iff.mp otherMember)
      obtain ⟨context, likewise, _⟩ := Bootstrap.outcome_perm
        ((builder.withComponents components).input shared) permuted.symm fixedNames
        ((permuted.map _).nodup_iff.mp distinct) agreeLikewise (build_eq_ok_iff.mp started)
      exact ⟨context, build_eq_ok_iff.mpr likewise⟩
  · intro context other started startedLikewise
    obtain ⟨given, likewise, reordered, sameProblems⟩ := forth started
    obtain rfl := Except.ok.inj (likewise.symm.trans startedLikewise)
    exact ⟨reordered.definition?_eq, reordered.aliases, sameProblems, reordered.names⟩

def sessionCart : ClassMetadata :=
  { className := "shop.Cart"
    annotations := .ofDescriptors [.component none, .scope "session" .targetClass] }

def tillConfig : ClassMetadata :=
  { className := "shop.Config"
    annotations := .ofDescriptors [.component none, .configuration none true] }

/-- The class of the cart comes first, and the other class makes a till with an alias. -/
def cartBeforeConfig : ContainerBuilder :=
  let till : MethodMetadata :=
    { methodName := "till"
      declaringClassName := "shop.Config"
      annotations := .ofDescriptors [.bean ["till", "register"]] }
  let builder := ((({} : ContainerBuilder).addComponent sessionCart).addComponent
    tillConfig).addConfiguration tillConfig [till]
  { builder with failFast := some false }

/-- The cart and the configuration change places, and each takes its target along. -/
theorem cart_after_config :
    let shared : ContainerProperties := { systemTier := fun _ => none }
    ∃ context other, (cartBeforeConfig.build shared).1 = .ok context ∧
      ((cartBeforeConfig.withComponents [tillConfig, sessionCart]).build shared).1 = .ok other ∧
      context.userBeanNames = ["scopedTarget.cart", "cart", "config", "till"] ∧
      other.userBeanNames = ["config", "scopedTarget.cart", "cart", "till"] ∧
      (∀ name, other.factory.registry.definition? name =
        context.factory.registry.definition? name) ∧
      other.factory.registry.aliases.get? "register" = some "till" := by
  intro shared
  have seen : (cartBeforeConfig.build shared).1.toOption.map (fun context =>
      (context.userBeanNames, context.factory.registry.aliases.get? "register")) =
      some (["scopedTarget.cart", "cart", "config", "till"], some "till") := by
    decide +kernel
  have seenLikewise :
      ((cartBeforeConfig.withComponents [tillConfig, sessionCart]).build shared).1.toOption.map
        (fun context => context.userBeanNames) =
      some ["config", "scopedTarget.cart", "cart", "till"] := by
    decide +kernel
  obtain ⟨context, started, facts⟩ := exists_of_seen seen
  obtain ⟨other, startedLikewise, otherNames⟩ := exists_of_seen seenLikewise
  obtain ⟨names, bound⟩ := Prod.mk.inj facts
  obtain ⟨sameDefinitions, sameAliases, _⟩ :=
    (build_components_perm cartBeforeConfig shared (.swap _ _ _) (by decide) (by decide)
      (by decide +kernel)).2 context other started startedLikewise
  rw [← sameAliases] at bound
  exact ⟨context, other, started, startedLikewise, names, otherNames, sameDefinitions, bound⟩

end ContainerBuilder

end BeanContainer
