/-
This file compares the two routes by which a class enters a registry. A component is named before
its common markers are read and a configuration class after that, but nothing else tells them apart.
-/

import BeanContainer.Proofs.Definition.CommonAnnotations
import BeanContainer.Proofs.Registration.Components
import BeanContainer.Proofs.Naming.MetaTypeCache

namespace BeanContainer

/-- The markers that every kind of bean may carry have no part in the name. -/
theorem Naming.byAnnotations_of_unmarked {definition changed : BeanDefinition}
    (same : changed.unmarked = definition.unmarked) (registry : Registry) :
    byAnnotations changed registry = byAnnotations definition registry := by
  have sameMetadata := congrArg BeanDefinition.metadata same
  have sameClassName := congrArg BeanDefinition.beanClassName same
  dsimp only [BeanDefinition.unmarked] at sameMetadata sameClassName
  rw [byAnnotations_eq, byAnnotations_eq, defaultName, defaultName, sameMetadata, sameClassName]

/-- A name is made up from the registry as it stands, and only the memory of the names changes. -/
theorem RegistrationM.generateName_run {Memory : Type} (generator : NameGenerator Memory)
    (definition : BeanDefinition) (state : RegistrationState Memory) :
    (generateName generator definition).run state =
      match (generator definition state.registry).run state.memory with
      | .ok name memory => .ok name { state with memory }
      | .error cause memory => .error cause { state with memory } := by
  cases outcome : (generator definition state.registry).run state.memory <;>
  · rw [EStateM.run] at outcome
    rw [EStateM.run, generateName, outcome]

/-- A registration leaves the model as it was. -/
theorem LoadingM.onRegistration_run {Memory Value : Type} (request : RegistrationM Memory Value)
    (state : LoadingState Memory) :
    (onRegistration request).run state =
      match request.run state.registration with
      | .ok value registration => .ok value { state with registration }
      | .error cause registration => .error cause { state with registration } := by
  cases outcome : request.run state.registration <;>
  · rw [EStateM.run] at outcome
    rw [EStateM.run, onRegistration, outcome]

namespace DefinitionReader

variable {Memory : Type}

/-- All that is read of a component without a name of its own, in the order in which it is read. -/
theorem readComponent_run (reader : DefinitionReader Memory) (metadata : ClassMetadata)
    (state : RegistrationState Memory) :
    (reader.readComponent metadata none).run state =
      match reader.scopes.resolve metadata.annotations with
      | .error cause => .error cause state
      | .ok scope =>
          let plain := componentDefinition metadata scope.scopeName
          match (reader.generator plain state.registry).run state.memory with
          | .error cause memory => .error cause { state with memory }
          | .ok beanName memory =>
              match plain.update
                  (DefinitionUpdate.applyCommonAnnotations metadata.annotations) with
              | .error cause => .error cause { state with memory }
              | .ok definition =>
                  .ok ⟨scope.proxyMode, beanName, definition⟩ { state with memory } := by
  unfold readComponent
  rw [EStateM.run_bind]
  cases reader.scopes.resolve metadata.annotations with
  | error cause => rfl
  | ok scope =>
      dsimp only [RegistrationM.ofExcept, EStateM.run_pure]
      rw [EStateM.run_bind, RegistrationM.generateName_run]
      cases (reader.generator (componentDefinition metadata scope.scopeName) state.registry).run
          state.memory with
      | error cause memory => rfl
      | ok beanName memory =>
          cases (componentDefinition metadata scope.scopeName).update
              (DefinitionUpdate.applyCommonAnnotations metadata.annotations) <;> rfl

/-- A configuration class is read, marked and then named, and only then is its bean registered. -/
theorem registerConfiguration_run (reader : DefinitionReader Memory)
    (configuration : ConfigurationClass) (state : RegistrationState Memory) :
    (reader.registerConfiguration configuration).run state =
      match reader.scopes.resolve configuration.metadata.annotations with
      | .error cause => .error cause state
      | .ok scope =>
          match (componentDefinition configuration.metadata scope.scopeName).update
              (DefinitionUpdate.applyCommonAnnotations configuration.metadata.annotations) with
          | .error cause => .error cause state
          | .ok definition =>
              match (reader.generator definition state.registry).run state.memory with
              | .error cause memory => .error cause { state with memory }
              | .ok beanName memory =>
                  match (Registry.registerScoped scope.proxyMode { definition, beanName }).run
                      state.registry with
                  | .ok holder registry => .ok holder ⟨registry, memory⟩
                  | .error cause registry => .error cause ⟨registry, memory⟩ := by
  unfold registerConfiguration
  dsimp only
  rw [EStateM.run_bind]
  cases reader.scopes.resolve configuration.metadata.annotations with
  | error cause => rfl
  | ok scope =>
      dsimp only [RegistrationM.ofExcept, EStateM.run_pure]
      rw [EStateM.run_bind]
      cases (componentDefinition configuration.metadata scope.scopeName).update
          (DefinitionUpdate.applyCommonAnnotations configuration.metadata.annotations) with
      | error cause => rfl
      | ok definition =>
          dsimp only [RegistrationM.ofExcept, EStateM.run_pure]
          rw [EStateM.run_bind, RegistrationM.generateName_run]
          cases (reader.generator definition state.registry).run state.memory with
          | error cause memory => rfl
          | ok beanName memory =>
              dsimp only
              rw [RegistrationM.onRegistry_run]
              cases (Registry.registerScoped scope.proxyMode { definition, beanName }).run
                state.registry <;> rfl

/-- A model of one class without methods loads just that class. -/
theorem loadModel_run_of_single (reader : DefinitionReader Memory) (metadata : ClassMetadata)
    (state : RegistrationState Memory) :
    let model := ({} : ConfigurationModel).addClass metadata []
    reader.loadModel.run ⟨state, model⟩ =
      match (reader.registerConfiguration ⟨0, metadata, none, []⟩).run state with
      | .ok holder left => .ok [holder] ⟨left, model.setBeanName 0 holder.beanName⟩
      | .error cause left => .error cause ⟨left, model⟩ := by
  intro model
  unfold loadModel
  rw [EStateM.run_bind, EStateM.run_get]
  dsimp only
  have unnamed : (model.classes.filter fun configuration => configuration.beanName.isNone) =
      [⟨0, metadata, none, []⟩] := rfl
  rw [unnamed, List.mapM_cons, List.mapM_nil, nameConfiguration]
  simp only [bind_assoc, pure_bind]
  rw [EStateM.run_bind, LoadingM.onRegistration_run]
  dsimp only
  cases (reader.registerConfiguration ⟨0, metadata, none, []⟩).run state <;> rfl

end DefinitionReader

/-- Whichever route a class takes into a registry, it is registered under the same name with the
same definition, or refused with the same registry left behind. -/
theorem class_routes_agree (scopes : ScopeResolver) (registry : Registry)
    (cache : MetaTypeCache) (metadata : ClassMetadata) :
    let reader : DefinitionReader MetaTypeCache := { generator := Naming.byAnnotations, scopes }
    let model := ({} : ConfigurationModel).addClass metadata []
    match (reader.registerComponent metadata).run ⟨registry, cache⟩,
        reader.loadModel.run ⟨⟨registry, cache⟩, model⟩ with
    | .ok holder left, .ok holders loaded => holders = [holder] ∧ loaded.registration = left
    | .error _ left, .error _ loaded => loaded.registration.registry = left.registry
    | _, _ => False := by
  intro reader model
  rw [DefinitionReader.registerComponent_run, DefinitionReader.readComponent_run,
    DefinitionReader.loadModel_run_of_single, DefinitionReader.registerConfiguration_run]
  cases scopes.resolve metadata.annotations with
  | error cause => rfl
  | ok scope =>
      let plain := DefinitionReader.componentDefinition metadata scope.scopeName
      dsimp only
      cases updated : plain.update
          (DefinitionUpdate.applyCommonAnnotations metadata.annotations) with
      | error cause =>
          -- The component is named all the same, but that leaves the registry alone.
          cases (reader.generator plain registry).run cache <;> rfl
      | ok definition =>
          have sameName : reader.generator definition registry = reader.generator plain registry :=
            Naming.byAnnotations_of_unmarked (BeanDefinition.unmarked_update updated) registry
          dsimp only
          rw [sameName]
          cases (reader.generator plain registry).run cache with
          | error cause memory => rfl
          | ok beanName memory =>
              dsimp only [Component.holder]
              cases (Registry.registerScoped scope.proxyMode { definition, beanName }).run
                  registry with
              | error cause left => rfl
              | ok holder left => exact ⟨rfl, rfl⟩

end BeanContainer
