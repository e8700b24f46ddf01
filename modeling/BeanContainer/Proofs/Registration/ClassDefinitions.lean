/-
This file says what registering a class leaves behind, be it a component or a configuration class:
a definition of that class, behind a proxy or not, and nothing that a method makes.
-/

import BeanContainer.Proofs.Definition.CommonAnnotations
import BeanContainer.Proofs.Registration.Components
import BeanContainer.Proofs.Registration.Placement

namespace BeanContainer

open ScopedProxy Relation

/-- The definition is made of the class itself. -/
structure IsClassDefinition (metadata : ClassMetadata) (definition : BeanDefinition) : Prop where
  beanClassName : definition.beanClassName = some metadata.className
  metadata : definition.metadata = some metadata
  factoryMethodName : definition.factoryMethodName = none
  unproxied : definition.proxyTarget? = none

/-- A class is registered under the name if the bean of that name is made of the class, behind a
proxy or not. -/
def Registry.HasClass (registry : Registry) (name : String) (metadata : ClassMetadata) : Prop :=
  ∃ definition, registry.unproxied? name = some definition ∧ IsClassDefinition metadata definition

/-- A definition of a class is still one behind a proxy. -/
theorem IsClassDefinition.underlying {metadata : ClassMetadata} {definition : BeanDefinition}
    (ofClass : IsClassDefinition metadata definition) (mode : ScopedProxyMode) :
    IsClassDefinition metadata (underlying mode definition) := by
  unfold ScopedProxy.underlying
  split
  · exact ofClass
  · exact ⟨ofClass.beanClassName, ofClass.metadata, ofClass.factoryMethodName, ofClass.unproxied⟩

/-- A registered class stays registered in every extension. -/
theorem Registry.Extends.hasClass {first last : Registry} (extends_ : Extends first last)
    {name : String} {metadata : ClassMetadata} (known : first.HasClass name metadata) :
    last.HasClass name metadata := by
  obtain ⟨definition, found, ofClass⟩ := known
  exact ⟨definition, extends_.unproxied? found, ofClass⟩

/-- A definition of a class registers the class, in every proxy mode. -/
theorem Registry.hasClass_of_registerScoped {mode : ScopedProxyMode} {metadata : ClassMetadata}
    {holder visible : BeanDefinitionHolder} {first last : Registry}
    (ofClass : IsClassDefinition metadata holder.definition)
    (done : (registerScoped mode holder).run first = .ok visible last) :
    last.HasClass visible.beanName metadata := by
  rw [(registerScoped_ok done).1, beanName_shown]
  exact ⟨_, unproxied?_of_registerScoped ofClass.unproxied done, ofClass.underlying mode⟩

namespace DefinitionReader

variable {Memory : Type} {sanctioned : BeanDefinition → Prop} {metadata : ClassMetadata}

/-- The common markers leave a definition of a class what it is. -/
theorem isClassDefinition_of_update {scopeName : String} {definition : BeanDefinition}
    (updated : (componentDefinition metadata scopeName).update
      (DefinitionUpdate.applyCommonAnnotations metadata.annotations) = .ok definition) :
    IsClassDefinition metadata definition := by
  have same := BeanDefinition.unmarked_update updated
  exact ⟨congrArg BeanDefinition.beanClassName same, congrArg BeanDefinition.metadata same,
    congrArg BeanDefinition.factoryMethodName same, congrArg BeanDefinition.proxyTarget? same⟩

/-! Components. -/

/-- What is read of a component class is a definition of it. -/
theorem readComponent_ok {reader : DefinitionReader Memory} {name : Option String}
    {component : Component} {state left : RegistrationState Memory}
    (done : (reader.readComponent metadata name).run state = .ok component left) :
    IsClassDefinition metadata component.definition := by
  obtain ⟨scope, _, _, done⟩ := run_bind_eq_ok_iff.mp done
  cases name
  all_goals
    obtain ⟨beanName, _, _, done⟩ := run_bind_eq_ok_iff.mp done
    obtain ⟨definition, _, read, done⟩ := run_bind_eq_ok_iff.mp done
    have updated := (RegistrationM.ofExcept_eq_ok_iff.mp read).1
    cases done
    exact isClassDefinition_of_update updated

/-- A component places a definition of its class or nothing. -/
theorem registerComponent_places (reader : DefinitionReader Memory) (name : Option String)
    (allowed : ∀ definition, IsClassDefinition metadata definition → sanctioned definition) :
    Respects (Order.Preimage RegistrationState.registry
      (ReflTransGen (Registry.Placement sanctioned))) (reader.registerComponent metadata name) := by
  refine (reader.readComponent_keepsRegistry metadata name).respects.bind fun component read => ?_
  obtain ⟨_, _, read⟩ := read
  exact (Registry.registerScoped_places _ (allowed _ (readComponent_ok read))).onRegistry

/-- A component that is accepted registers its class. -/
theorem registerComponent_ok {reader : DefinitionReader Memory} {name : Option String}
    {holder : BeanDefinitionHolder} {state left : RegistrationState Memory}
    (done : (reader.registerComponent metadata name).run state = .ok holder left) :
    left.registry.HasClass holder.beanName metadata := by
  obtain ⟨component, _, read, done⟩ := run_bind_eq_ok_iff.mp done
  obtain ⟨registry, registered, rfl⟩ := RegistrationM.onRegistry_eq_ok_iff.mp done
  exact Registry.hasClass_of_registerScoped (readComponent_ok read) registered

/-! Configuration classes. -/

/-- A configuration class places a definition of itself or nothing. -/
theorem registerConfiguration_places (reader : DefinitionReader Memory)
    (configuration : ConfigurationClass)
    (allowed : ∀ definition, IsClassDefinition configuration.metadata definition →
      sanctioned definition) :
    Respects (Order.Preimage RegistrationState.registry
      (ReflTransGen (Registry.Placement sanctioned)))
      (reader.registerConfiguration configuration) := by
  refine (RegistrationM.KeepsRegistry.ofExcept _).respects.bind fun scope _ => ?_
  refine (RegistrationM.KeepsRegistry.ofExcept _).respects.bind fun definition read => ?_
  obtain ⟨_, _, read⟩ := read
  have ofClass := isClassDefinition_of_update (RegistrationM.ofExcept_eq_ok_iff.mp read).1
  refine (RegistrationM.KeepsRegistry.generateName _ _).respects.bind fun beanName _ => ?_
  exact (Registry.registerScoped_places _ (allowed _ ofClass)).onRegistry

/-- A configuration class that is accepted is registered. -/
theorem registerConfiguration_ok {reader : DefinitionReader Memory}
    {configuration : ConfigurationClass} {holder : BeanDefinitionHolder}
    {state left : RegistrationState Memory}
    (done : (reader.registerConfiguration configuration).run state = .ok holder left) :
    left.registry.HasClass holder.beanName configuration.metadata := by
  obtain ⟨scope, _, _, done⟩ := run_bind_eq_ok_iff.mp done
  obtain ⟨definition, _, read, done⟩ := run_bind_eq_ok_iff.mp done
  have updated := (RegistrationM.ofExcept_eq_ok_iff.mp read).1
  obtain ⟨beanName, _, _, done⟩ := run_bind_eq_ok_iff.mp done
  obtain ⟨registry, registered, rfl⟩ := RegistrationM.onRegistry_eq_ok_iff.mp done
  exact Registry.hasClass_of_registerScoped (isClassDefinition_of_update updated) registered

end DefinitionReader

end BeanContainer
