/-
This file takes the loading of a model apart into the registration of its unnamed classes and of
its bean methods, and shows that loading leaves no class without a name.
-/

import BeanContainer.Proofs.Registration.BeanMethods
import BeanContainer.Proofs.Registration.ClassDefinitions

namespace BeanContainer

open Relation

namespace ConfigurationModel

/-- Each class is identified by its place in the model, as it is in every model that is built by
adding classes and naming them. -/
def Numbered (model : ConfigurationModel) : Prop :=
  ∀ (place : Nat) (configuration : ConfigurationClass),
    model.classes[place]? = some configuration → configuration.id = place

def unnamed (model : ConfigurationModel) : List ConfigurationClass :=
  model.classes.filter fun configuration => configuration.beanName.isNone

/-- The bean methods of all classes, each with its class. -/
def methods (model : ConfigurationModel) : List (ConfigurationClass × BeanMethod) :=
  model.classes.flatMap fun configuration =>
    configuration.beanMethods.map fun method => (configuration, method)

/-- A model without classes is numbered. -/
theorem numbered_empty : Numbered {} := fun _ _ found => nomatch found

/-- A class that is added takes the next number. -/
theorem Numbered.addClass {model : ConfigurationModel} (numbered : model.Numbered)
    (metadata : ClassMetadata) (methods : List MethodMetadata) :
    (model.addClass metadata methods).Numbered := by
  intro place configuration found
  unfold ConfigurationModel.addClass at found
  dsimp only at found
  rw [List.getElem?_append] at found
  split at found
  · exact numbered place configuration found
  · rename_i beyond
    rw [List.getElem?_singleton] at found
    split at found
    · cases found
      dsimp only
      omega
    · contradiction

/-- A bean name is given to one class, and all others stay as they are. -/
theorem getElem?_setBeanName (model : ConfigurationModel) (id place : Nat) (beanName : String) :
    (model.setBeanName id beanName).classes[place]? =
      if id = place then
        model.classes[place]?.map fun configuration =>
          { configuration with beanName := some beanName }
      else model.classes[place]? := by
  unfold setBeanName
  rw [List.getElem?_modify]
  split <;> simp

/-- A bean name does not change the number of a class. -/
theorem Numbered.setBeanName {model : ConfigurationModel} (numbered : model.Numbered) (id : Nat)
    (beanName : String) : (model.setBeanName id beanName).Numbered := by
  intro place configuration found
  rw [getElem?_setBeanName] at found
  split at found
  · obtain ⟨before, foundBefore, rfl⟩ := Option.map_eq_some_iff.mp found
    exact numbered place before foundBefore
  · exact numbered place configuration found

end ConfigurationModel

/-- Registers the bean of each method in turn. -/
def BeanMethod.registerAll (scopes : ScopeResolver)
    (methods : List (ConfigurationClass × BeanMethod)) :
    RegistryM (List (Option BeanDefinitionHolder)) :=
  methods.mapM fun entry => entry.2.register scopes entry.1

namespace BeanMethod

variable {scopes : ScopeResolver} {methods : List (ConfigurationClass × BeanMethod)}
  {products : List (Option BeanDefinitionHolder)} {registry left : Registry}

/-- Methods place their products and nothing else. -/
theorem registerAll_places {sanctioned : BeanDefinition → Prop} (scopes : ScopeResolver)
    (allowed : ∀ entry ∈ methods, ∀ definition, IsProduct entry.1 entry.2 definition →
      sanctioned definition) :
    Respects (ReflTransGen (Registry.Placement sanctioned)) (registerAll scopes methods) :=
  .mapM fun entry member => entry.2.register_places scopes (allowed entry member)

/-- Where no name may be bound anew, methods replace no definition. -/
theorem registerAll_extends (done : (registerAll scopes methods).run registry = .ok products left)
    (fixedNames : registry.allowOverriding = false) : Registry.Extends registry left :=
  .of_placements ((registerAll_places scopes fun _ _ _ _ => trivial).of_ok done) fixedNames

end BeanMethod

namespace DefinitionReader

variable {Memory : Type} {reader : DefinitionReader Memory} {state left : LoadingState Memory}

/-- Within loading the methods change the registry alone. -/
theorem registerMethods_eq_ok_iff {methods : List (ConfigurationClass × BeanMethod)}
    {products : List (Option BeanDefinitionHolder)} :
    (methods.mapM fun entry => LoadingM.onRegistration
        (.onRegistry (entry.2.register reader.scopes entry.1))).run state = .ok products left ↔
      ∃ registry, (BeanMethod.registerAll reader.scopes methods).run state.registration.registry =
          .ok products registry ∧
        left = { state with registration := { state.registration with registry } } := by
  unfold BeanMethod.registerAll
  induction methods generalizing state products with
  | nil =>
      constructor
      · intro done
        cases done
        exact ⟨_, rfl, rfl⟩
      · rintro ⟨_, done, rfl⟩
        cases done
        rfl
  | cons entry rest inductionHypothesis =>
      rw [run_mapM_cons_eq_ok_iff]
      constructor
      · rintro ⟨product, middle, later, begun, ended, rfl⟩
        obtain ⟨registration, registered, rfl⟩ := LoadingM.onRegistration_eq_ok_iff.mp begun
        obtain ⟨first, loaded, rfl⟩ := RegistrationM.onRegistry_eq_ok_iff.mp registered
        obtain ⟨last, others, rfl⟩ := inductionHypothesis.mp ended
        exact ⟨last, run_mapM_cons_eq_ok_iff.mpr ⟨_, _, _, loaded, others, rfl⟩, rfl⟩
      · rintro ⟨last, done, rfl⟩
        obtain ⟨product, first, later, begun, ended, rfl⟩ := run_mapM_cons_eq_ok_iff.mp done
        refine ⟨product, _, later, LoadingM.onRegistration_eq_ok_iff.mpr ⟨_,
          RegistrationM.onRegistry_eq_ok_iff.mpr ⟨first, begun, rfl⟩, rfl⟩, ?_, rfl⟩
        exact inductionHypothesis.mpr ⟨last, ended, rfl⟩

/-- The unnamed classes come first, and then the bean methods with the names that are then known. -/
theorem loadModel_eq_ok_iff {holders : List BeanDefinitionHolder} :
    reader.loadModel.run state = .ok holders left ↔
      ∃ classes named products registry,
        (state.model.unnamed.mapM reader.nameConfiguration).run state = .ok classes named ∧
          (BeanMethod.registerAll reader.scopes named.model.methods).run
            named.registration.registry = .ok products registry ∧
          holders = classes ++ products.filterMap id ∧
          left = { named with registration := { named.registration with registry } } := by
  unfold loadModel
  rw [EStateM.run_bind]
  dsimp only [EStateM.run_get]
  constructor
  · intro done
    obtain ⟨classes, named, begun, done⟩ := run_bind_eq_ok_iff.mp done
    rw [EStateM.run_bind] at done
    dsimp only [EStateM.run_get] at done
    obtain ⟨products, last, ended, done⟩ := run_bind_eq_ok_iff.mp done
    obtain ⟨registry, loaded, rfl⟩ := registerMethods_eq_ok_iff.mp ended
    cases done
    exact ⟨classes, named, products, registry, begun, loaded, rfl, rfl⟩
  · rintro ⟨classes, named, products, registry, begun, loaded, rfl, rfl⟩
    refine run_bind_eq_ok_iff.mpr ⟨classes, named, begun, ?_⟩
    rw [EStateM.run_bind]
    dsimp only [EStateM.run_get]
    exact run_bind_eq_ok_iff.mpr
      ⟨products, _, registerMethods_eq_ok_iff.mpr ⟨registry, loaded, rfl⟩, rfl⟩

/-! Naming the classes. -/

/-- Naming a class registers it and records the name in the model. -/
theorem nameConfiguration_ok {configuration : ConfigurationClass} {holder : BeanDefinitionHolder}
    (done : (reader.nameConfiguration configuration).run state = .ok holder left) :
    left.registration.registry.HasClass holder.beanName configuration.metadata ∧
      left.model = state.model.setBeanName configuration.id holder.beanName := by
  obtain ⟨named, _, begun, rest⟩ := run_bind_eq_ok_iff.mp done
  obtain ⟨registration, registered, rfl⟩ := LoadingM.onRegistration_eq_ok_iff.mp begun
  cases rest
  exact ⟨registerConfiguration_ok registered, rfl⟩

/-- Naming a class places a definition of it or nothing. -/
theorem nameConfiguration_places {sanctioned : BeanDefinition → Prop}
    (reader : DefinitionReader Memory) (configuration : ConfigurationClass)
    (allowed : ∀ definition, IsClassDefinition configuration.metadata definition →
      sanctioned definition) :
    Respects (Order.Preimage (fun state => state.registration.registry)
      (ReflTransGen (Registry.Placement sanctioned))) (reader.nameConfiguration configuration) := by
  refine Respects.bind ?_ fun holder _ => ?_
  · exact (reader.registerConfiguration_places configuration allowed).onRegistration
  · exact (Respects.modify fun _ => .refl).bind fun _ _ => .pure holder

/-- Where no name may be bound anew, naming a class replaces no definition. -/
theorem nameConfiguration_extends {configuration : ConfigurationClass}
    {holder : BeanDefinitionHolder}
    (done : (reader.nameConfiguration configuration).run state = .ok holder left)
    (fixedNames : state.registration.registry.allowOverriding = false) :
    Registry.Extends state.registration.registry left.registration.registry :=
  (reader.nameConfiguration_places configuration fun _ _ => trivial).extends done fixedNames

/-- Naming classes places definitions of classes and nothing else. -/
theorem nameConfigurations_places {sanctioned : BeanDefinition → Prop}
    (reader : DefinitionReader Memory) (configurations : List ConfigurationClass)
    (allowed : ∀ metadata definition, IsClassDefinition metadata definition →
      sanctioned definition) :
    Respects (Order.Preimage (fun state => state.registration.registry)
      (ReflTransGen (Registry.Placement sanctioned)))
      (configurations.mapM reader.nameConfiguration) :=
  .mapM fun configuration _ => reader.nameConfiguration_places configuration (allowed _)

/-- Where no name may be bound anew, naming classes replaces no definition. -/
theorem nameConfigurations_extends {configurations : List ConfigurationClass}
    {holders : List BeanDefinitionHolder}
    (done : (configurations.mapM reader.nameConfiguration).run state = .ok holders left)
    (fixedNames : state.registration.registry.allowOverriding = false) :
    Registry.Extends state.registration.registry left.registration.registry :=
  (reader.nameConfigurations_places configurations fun _ _ _ => trivial).extends done fixedNames

/-- Loading adds nothing but class definitions and the products of bean methods. -/
theorem loadModel_places {sanctioned : BeanDefinition → Prop} (reader : DefinitionReader Memory)
    (ofClass : ∀ metadata definition, IsClassDefinition metadata definition → sanctioned definition)
    (ofMethod : ∀ configuration method definition, IsProduct configuration method definition →
      sanctioned definition) :
    Respects (Order.Preimage (fun state => state.registration.registry)
      (ReflTransGen (Registry.Placement sanctioned))) reader.loadModel := by
  refine Respects.get.bind fun state _ => ?_
  refine (reader.nameConfigurations_places _ ofClass).bind fun classes _ => ?_
  refine Respects.get.bind fun named _ => ?_
  refine Respects.bind (.mapM fun entry _ => ?_) fun products _ => .pure _
  exact (entry.2.register_places reader.scopes (ofMethod _ _)).onRegistry.onRegistration

/-- Apart from its name a class stays what it was, and a class that is named now had its name before
or has been registered under it. -/
theorem nameConfigurations_ok {configurations : List ConfigurationClass}
    {holders : List BeanDefinitionHolder}
    (fixedNames : state.registration.registry.allowOverriding = false)
    (done : (configurations.mapM reader.nameConfiguration).run state = .ok holders left)
    {place : Nat} {now : ConfigurationClass} (found : left.model.classes[place]? = some now) :
    ∃ before, state.model.classes[place]? = some before ∧
      now = { before with beanName := now.beanName } ∧
      (now.beanName = before.beanName ∧ place ∉ configurations.map ConfigurationClass.id ∨
        ∃ configuration ∈ configurations, configuration.id = place ∧
          ∃ name, now.beanName = some name ∧
            left.registration.registry.HasClass name configuration.metadata) := by
  induction configurations generalizing state holders with
  | nil =>
      cases done
      exact ⟨now, found, rfl, Or.inl ⟨rfl, List.not_mem_nil⟩⟩
  | cons first rest inductionHypothesis =>
      obtain ⟨holder, middle, later, begun, ended, rfl⟩ := run_mapM_cons_eq_ok_iff.mp done
      obtain ⟨registered, renamed⟩ := nameConfiguration_ok begun
      have fixedBetween : middle.registration.registry.allowOverriding = false :=
        (nameConfiguration_extends begun fixedNames).fixedNames
      have further := nameConfigurations_extends ended fixedBetween
      obtain ⟨between, foundBetween, same, outcome⟩ := inductionHypothesis fixedBetween ended
      -- A class may be listed twice, and then the later registration has named it.
      rw [renamed, ConfigurationModel.getElem?_setBeanName] at foundBetween
      split at foundBetween
      · rename_i here
        obtain ⟨before, foundBefore, rfl⟩ := Option.map_eq_some_iff.mp foundBetween
        refine ⟨before, foundBefore, same, Or.inr ?_⟩
        obtain ⟨kept, _⟩ | ⟨configuration, member, rest⟩ := outcome
        · exact ⟨first, List.mem_cons_self, here, holder.beanName, kept,
            further.hasClass registered⟩
        · exact ⟨configuration, List.mem_cons_of_mem _ member, rest⟩
      · rename_i elsewhere
        refine ⟨between, foundBetween, same, ?_⟩
        obtain ⟨kept, unlisted⟩ | ⟨configuration, member, rest⟩ := outcome
        · refine Or.inl ⟨kept, ?_⟩
          rw [List.map_cons, List.mem_cons, not_or]
          exact ⟨Ne.symm elsewhere, unlisted⟩
        · exact Or.inr ⟨configuration, List.mem_cons_of_mem _ member, rest⟩

/-- Once the unnamed classes are registered, each class has the name it had before or one under
which it has been registered. -/
theorem nameUnnamed_ok {holders : List BeanDefinitionHolder} (numbered : state.model.Numbered)
    (fixedNames : state.registration.registry.allowOverriding = false)
    (done : (state.model.unnamed.mapM reader.nameConfiguration).run state = .ok holders left)
    {now : ConfigurationClass} (member : now ∈ left.model.classes) :
    ∃ before ∈ state.model.classes, ∃ beanName,
      now = { before with beanName := some beanName } ∧
        (before.beanName = some beanName ∨
          left.registration.registry.HasClass beanName before.metadata) := by
  obtain ⟨place, found⟩ := List.mem_iff_getElem?.mp member
  obtain ⟨before, foundBefore, same, outcome⟩ := nameConfigurations_ok fixedNames done found
  have memberBefore : before ∈ state.model.classes := List.mem_of_getElem? foundBefore
  have samePlaceBefore := numbered place before foundBefore
  obtain ⟨kept, unlisted⟩ | ⟨configuration, listed, samePlace, beanName, named, registered⟩ := outcome
  · cases named : before.beanName with
    | none =>
        have listed : before ∈ state.model.unnamed :=
          List.mem_filter.mpr ⟨memberBefore, Option.isNone_iff_eq_none.mpr named⟩
        exact absurd (List.mem_map.mpr ⟨before, listed, samePlaceBefore⟩) unlisted
    | some beanName =>
        rw [kept, named] at same
        exact ⟨before, memberBefore, beanName, same, Or.inl named⟩
  · rw [named] at same
    obtain ⟨otherPlace, foundOther⟩ :=
      List.mem_iff_getElem?.mp (List.mem_filter.mp listed).1
    -- Classes are told apart by their places, so the class that was registered is this one.
    have sameClass : configuration = before := by
      rw [← samePlace, numbered otherPlace configuration foundOther] at foundBefore
      exact Option.some.inj (foundOther.symm.trans foundBefore)
    rw [sameClass] at registered
    exact ⟨before, memberBefore, beanName, same, Or.inr registered⟩

/-- Loading leaves no class without a name. -/
theorem unnamed_eq_nil_of_named {holders : List BeanDefinitionHolder}
    (numbered : state.model.Numbered)
    (fixedNames : state.registration.registry.allowOverriding = false)
    (done : (state.model.unnamed.mapM reader.nameConfiguration).run state = .ok holders left) :
    left.model.unnamed = [] := by
  refine List.filter_eq_nil_iff.mpr fun now member => ?_
  obtain ⟨_, _, _, same, _⟩ := nameUnnamed_ok numbered fixedNames done member
  rw [same]
  exact Bool.false_ne_true

end DefinitionReader

end BeanContainer
