/-
This file takes the start of a container apart: the component phase with the names that it notes,
the model that is assembled with these names, and the loading of that model. Registries that are
related before a phase are related after it.
-/

import BeanContainer.Bootstrap.Builder
import BeanContainer.Proofs.Registration.Infrastructure
import BeanContainer.Proofs.Registration.Simulation

namespace BeanContainer

open Relation

/-! The stages. -/

/-- A stage that succeeds has done its work, from some record to another. -/
theorem BootstrapM.stage_eq_ok {Value : Type} {name : String} {value : Value}
    {work : BootstrapM (Value × List (String × String))} {recorder left : StartupRecorder}
    (done : (BootstrapM.stage name work).run recorder = .ok value left) :
    ∃ tags begun ended, work.run begun = .ok (value, tags) ended := by
  obtain ⟨step, begun, _, done⟩ := run_bind_eq_ok_iff.mp done
  obtain ⟨⟨value, tags⟩, ended, worked, done⟩ := run_bind_eq_ok_iff.mp done
  obtain ⟨_, _, _, done⟩ := run_bind_eq_ok_iff.mp done
  cases done
  exact ⟨tags, begun, ended, worked⟩

/-- A phase succeeds just with the result that is known beforehand. -/
theorem BootstrapM.ofExcept_eq_ok {Value : Type} {result : Except DefinitionError Value}
    {value : Value} {recorder left : StartupRecorder}
    (done : (BootstrapM.ofExcept result).run recorder = .ok value left) : result = .ok value := by
  cases result with
  | error cause => contradiction
  | ok given =>
      cases done
      rfl

/-- A container that has started went through its component phase and its loading phase. -/
theorem Bootstrap.run_eq_ok {input : BootstrapInput} {context : Context}
    {recorder left : StartupRecorder} (done : (Bootstrap.run input).run recorder = .ok context left) :
    ∃ factory names loaded, Bootstrap.componentFactory input = .ok (factory, names) ∧
      Bootstrap.loadModel factory (input.model names) = .ok (context.factory, loaded) := by
  obtain ⟨_, _, _, done⟩ := run_bind_eq_ok_iff.mp done
  obtain ⟨⟨factory, names⟩, _, components, done⟩ := run_bind_eq_ok_iff.mp done
  obtain ⟨model, _, assembled, done⟩ := run_bind_eq_ok_iff.mp done
  obtain ⟨problems, _, _, done⟩ := run_bind_eq_ok_iff.mp done
  obtain ⟨last, _, loading, done⟩ := run_bind_eq_ok_iff.mp done
  cases done
  obtain ⟨_, _, _, registered⟩ := BootstrapM.stage_eq_ok components
  obtain ⟨_, _, registered, rest⟩ := run_bind_eq_ok_iff.mp registered
  cases rest
  obtain ⟨_, _, _, assembled⟩ := BootstrapM.stage_eq_ok assembled
  cases assembled
  obtain ⟨_, _, _, loaded⟩ := BootstrapM.stage_eq_ok loading
  obtain ⟨_, _, loaded, rest⟩ := run_bind_eq_ok_iff.mp loaded
  cases rest
  exact ⟨_, _, _, BootstrapM.ofExcept_eq_ok registered, BootstrapM.ofExcept_eq_ok loaded⟩

/-- A build that succeeds has run the whole start, with the record that it returns. -/
theorem ContainerBuilder.build_eq_ok {builder : ContainerBuilder} {shared : ContainerProperties}
    {context : Context} {recorder : StartupRecorder}
    (built : builder.build shared = (.ok context, recorder)) :
    (Bootstrap.run (builder.input shared)).run builder.startup = .ok context recorder := by
  unfold ContainerBuilder.build at built
  split at built
  · rename_i outcome
    cases built
    exact outcome
  · cases built

namespace Bootstrap

/-- The infrastructure is registered first, and then the components with a fresh cache. -/
theorem componentFactory_eq_ok_iff {input : BootstrapInput} {factory : BeanFactory}
    {names : SortedMap String} :
    componentFactory input = .ok (factory, names) ↔
      ∃ holders prepared left,
        (Registry.registerInfrastructure none input.isPresent).run (.empty input.allowOverriding) =
            .ok holders prepared ∧
          (registerComponents input.allComponents ∅).run ⟨prepared, {}⟩ = .ok names left ∧
          factory = { BeanFactory.empty.installAnnotationSupport with
            registry := left.registry } := by
  unfold componentFactory
  dsimp only
  constructor
  · intro done
    split at done
    · cases done
    · rename_i begun
      obtain ⟨prepared, infrastructure, rfl⟩ :=
        BeanFactory.registerInfrastructure_eq_ok_iff.mp begun
      split at done
      · cases done
      · rename_i registered
        cases done
        exact ⟨_, prepared, _, infrastructure, registered, rfl⟩
  · rintro ⟨holders, prepared, left, infrastructure, registered, rfl⟩
    have begun : (BeanFactory.registerInfrastructure none input.isPresent).run
        (.empty input.allowOverriding) = .ok holders
          { BeanFactory.empty.installAnnotationSupport with registry := prepared } :=
      BeanFactory.registerInfrastructure_eq_ok_iff.mpr ⟨prepared, infrastructure, rfl⟩
    rw [EStateM.run] at begun registered
    rw [begun]
    dsimp only
    rw [registered]

/-- The model is loaded with a fresh cache. -/
theorem loadModel_eq_ok_iff {factory last : BeanFactory} {model : ConfigurationModel}
    {holders : List BeanDefinitionHolder} :
    loadModel factory model = .ok (last, holders) ↔
      ∃ left, annotationReader.loadModel.run ⟨⟨factory.registry, {}⟩, model⟩ = .ok holders left ∧
        last = { factory with registry := left.registration.registry } := by
  unfold loadModel
  rw [EStateM.run]
  cases annotationReader.loadModel ⟨⟨factory.registry, {}⟩, model⟩ with
  | error cause left => exact iff_of_false nofun nofun
  | ok given left =>
      constructor
      · intro done
        cases done
        exact ⟨left, rfl, rfl⟩
      · rintro ⟨_, same, rfl⟩
        cases same
        rfl

end Bootstrap

/-! The components. -/

/-- Each noted name is that of a bean made of a class of the given name. -/
def Registry.Notes (registry : Registry) (names : SortedMap String) : Prop :=
  ∀ className beanName, names.get? className = some beanName →
    ∃ metadata : ClassMetadata, metadata.className = className ∧
      registry.HasClass beanName metadata

/-- Where nothing is noted there is nothing to find. -/
theorem Registry.notes_empty (registry : Registry) : registry.Notes ∅ :=
  fun _ _ noted => nomatch noted

/-- What is noted stays true in every extension. -/
theorem Registry.Extends.notes {first last : Registry} (extends_ : Extends first last)
    {names : SortedMap String} (notes : first.Notes names) : last.Notes names := by
  intro className beanName noted
  obtain ⟨metadata, named, known⟩ := notes className beanName noted
  exact ⟨metadata, named, extends_.hasClass known⟩

/-- No definition of the registry is made by a method. -/
def Registry.Methodless (registry : Registry) : Prop :=
  ∀ name definition, registry.definition? name = some definition →
    definition.factoryMethodName = none

/-- An empty registry holds nothing that a method made. -/
theorem Registry.empty_methodless (allowOverriding : Bool) : Methodless (.empty allowOverriding) :=
  fun _ _ known => nomatch known

/-- Beans that no method made keep the registry without any. -/
theorem Registry.Methodless.of_placements {first last : Registry} (methodless : first.Methodless)
    (placements :
      ReflTransGen (Placement fun definition => definition.factoryMethodName = none) first last) :
    last.Methodless := by
  intro name definition known
  obtain before | ofClass | ⟨target, ofClass, rfl⟩ | ⟨_, _, _, rfl⟩ :=
    Placement.added placements known
  · exact methodless name definition before
  · exact ofClass
  · exact ofClass
  · rfl

namespace Bootstrap

/-- Components note their names truly, and no method makes any of them. -/
theorem registerComponents_ok {classes : List ClassMetadata} {names noted : SortedMap String}
    {state left : RegistrationState MetaTypeCache}
    (fixedNames : state.registry.allowOverriding = false)
    (done : (registerComponents classes names).run state = .ok noted left)
    (notes : state.registry.Notes names) (methodless : state.registry.Methodless) :
    left.registry.allowOverriding = false ∧ left.registry.Notes noted ∧
      left.registry.Methodless := by
  induction classes generalizing state names with
  | nil =>
      cases done
      exact ⟨fixedNames, notes, methodless⟩
  | cons metadata rest inductionHypothesis =>
      unfold registerComponents at done
      split at done
      · exact inductionHypothesis fixedNames done notes methodless
      · obtain ⟨holder, middle, begun, ended⟩ := run_bind_eq_ok_iff.mp done
        have placements := (annotationReader.registerComponent_places none
          fun _ ofClass => ofClass.factoryMethodName).of_ok begun
        have further := Registry.Extends.of_placements placements fixedNames
        refine inductionHypothesis further.fixedNames ended ?_ (methodless.of_placements placements)
        -- One name is noted here, and those that are noted already have to stay right.
        intro className beanName noted
        rw [SortedMap.get?_insert] at noted
        split at noted
        · rename_i same
          cases noted
          exact ⟨metadata, same.symm, DefinitionReader.registerComponent_ok begun⟩
        · exact further.notes notes className beanName noted

/-- After the components the noted names are true, and no method has made a bean. -/
theorem componentFactory_ok {input : BootstrapInput} {factory : BeanFactory}
    {names : SortedMap String} (fixedNames : input.allowOverriding = false)
    (done : componentFactory input = .ok (factory, names)) :
    factory.registry.allowOverriding = false ∧ factory.registry.Notes names ∧
      factory.registry.Methodless := by
  obtain ⟨_, prepared, _, infrastructure, registered, rfl⟩ := componentFactory_eq_ok_iff.mp done
  have placements : ReflTransGen
      (Registry.Placement fun definition => definition.factoryMethodName = none)
      (.empty input.allowOverriding) prepared :=
    (Registry.registerInfrastructure_places none input.isPresent fun _ => rfl).of_ok infrastructure
  have further := Registry.Extends.of_placements placements fixedNames
  exact registerComponents_ok further.fixedNames registered prepared.notes_empty
    ((Registry.empty_methodless _).of_placements placements)

/-! What becomes of related registries. A generated name does not depend on the registry at all. -/

section Simulations

variable {related : Registry → Registry → Prop} {alike : MetaTypeCache → MetaTypeCache → Prop}

/-- Components are registered alike if their names are made up alike. -/
theorem registerComponents_simulates (simulation : Registry.Simulation related)
    {classes : List ClassMetadata}
    (named : ∀ metadata ∈ classes, ∀ scopeName,
      Simulates (RegistrationState.Pairs related alike)
        (RegistrationM.generateName annotationReader.generator
          (DefinitionReader.componentDefinition metadata scopeName)))
    (names : SortedMap String) :
    Simulates (RegistrationState.Pairs related alike) (registerComponents classes names) := by
  induction classes generalizing names with
  | nil => exact .pure names
  | cons metadata rest inductionHypothesis =>
      have later := inductionHypothesis fun other member =>
        named other (List.mem_cons_of_mem _ member)
      unfold registerComponents
      split
      · exact later names
      · apply (DefinitionReader.registerComponent_simulates simulation
          (named metadata List.mem_cons_self) none).bind
        intro holder
        exact later _

/-- With the same memory a name is made up alike from every registry. -/
theorem generateName_simulates_eq (definition : BeanDefinition) :
    Simulates (RegistrationState.Pairs related Eq)
      (RegistrationM.generateName annotationReader.generator definition) := by
  apply RegistrationM.generateName_simulates
  · intro first second _
    rfl
  · intro registry
    exact simulates_eq _

/-- A model loads alike into related registries, and they stay related. -/
theorem loadModel_simulates (simulation : Registry.Simulation related)
    {factory last : BeanFactory} {registry : Registry} (begun : related factory.registry registry)
    {model : ConfigurationModel} {holders : List BeanDefinitionHolder}
    (done : loadModel factory model = .ok (last, holders)) :
    ∃ otherLast, loadModel { factory with registry } model =
        .ok ({ last with registry := otherLast }, holders) ∧
      related last.registry otherLast := by
  obtain ⟨left, loaded, rfl⟩ := loadModel_eq_ok_iff.mp done
  have simulates : Simulates (LoadingState.Pairs related Eq) annotationReader.loadModel :=
    DefinitionReader.loadModel_simulates simulation generateName_simulates_eq
  have alike : LoadingState.Pairs related Eq
      (⟨⟨factory.registry, {}⟩, model⟩ : LoadingState MetaTypeCache) ⟨⟨registry, {}⟩, model⟩ :=
    ⟨⟨begun, rfl⟩, rfl⟩
  obtain ⟨other, likewise, pairs⟩ := simulates.of_ok loaded alike
  exact ⟨other.registration.registry, loadModel_eq_ok_iff.mpr ⟨other, likewise, rfl⟩, pairs.1.1⟩

end Simulations

end Bootstrap

/-! The assembled model. -/

namespace ConfigurationModel

/-- The classes are numbered, and none has a name yet. -/
structure Fresh (model : ConfigurationModel) : Prop where
  numbered : model.Numbered
  nameless : ∀ configuration ∈ model.classes, configuration.beanName = none

/-- A model without classes is fresh. -/
theorem fresh_empty : Fresh {} := ⟨numbered_empty, List.forall_mem_nil _⟩

/-- A class that is added keeps a model fresh. -/
theorem Fresh.addClass {model : ConfigurationModel} (fresh : model.Fresh)
    (metadata : ClassMetadata) (methods : List MethodMetadata) :
    (model.addClass metadata methods).Fresh := by
  refine ⟨fresh.numbered.addClass metadata methods, fun configuration member => ?_⟩
  obtain before | added := List.mem_append.mp member
  · exact fresh.nameless configuration before
  · rw [List.mem_singleton.mp added]

/-- A model that was read from a table is fresh. -/
theorem fresh_ofTable (table : MetadataTable) : (ofTable table).Fresh := by
  refine List.foldlRecOn _ _ fresh_empty fun model fresh metadata _ => ?_
  dsimp only
  split
  · exact fresh.addClass metadata _
  · exact fresh

end ConfigurationModel

namespace BootstrapInput

/-- Explicit configurations keep a model fresh. -/
theorem fresh_addConfigurations (table : MetadataTable)
    (configurations : List ExplicitConfiguration) :
    (configurations.foldl addConfiguration (.ofTable table)).Fresh := by
  refine List.foldlRecOn _ _ (ConfigurationModel.fresh_ofTable table) fun model fresh explicit _ => ?_
  unfold addConfiguration
  split
  · exact fresh
  · exact fresh.addClass _ _

/-- The classes of the model are numbered, and a class has a name only if it is noted for it. -/
theorem model_named (input : BootstrapInput) (names : SortedMap String) :
    (input.model names).Numbered ∧
      ∀ configuration ∈ (input.model names).classes, ∀ beanName,
        configuration.beanName = some beanName →
          names.get? configuration.className = some beanName := by
  have fresh := fresh_addConfigurations input.table input.configurations
  unfold model withComponentNames
  constructor
  · intro place configuration found
    rw [List.getElem?_map] at found
    obtain ⟨before, foundBefore, rfl⟩ := Option.map_eq_some_iff.mp found
    have numbered := fresh.numbered place before foundBefore
    split <;> exact numbered
  · intro configuration member beanName named
    obtain ⟨before, memberBefore, rfl⟩ := List.mem_map.mp member
    split at named
    · rename_i noted found
      cases named
      exact found
    · rw [fresh.nameless before memberBefore] at named
      contradiction

end BootstrapInput

end BeanContainer
