/-
This file registers the definitions that the container itself needs to read markers.
-/

import BeanContainer.Autowire.Candidates

namespace BeanContainer

/-- A definition that the container brings along under a fixed name. -/
structure InfrastructureBean where
  beanName : String
  className : String
  /-- The bean makes sense only where all these classes are present. -/
  neededClasses : List String := []

namespace InfrastructureBean

def configurationProcessorName : String :=
  "lorn.di.context.annotation.internalConfigurationAnnotationProcessor"

def autowiredProcessorName : String :=
  "lorn.di.context.annotation.internalAutowiredAnnotationProcessor"

def commonProcessorName : String :=
  "lorn.di.context.annotation.internalCommonAnnotationProcessor"

def persistenceProcessorName : String :=
  "lorn.di.context.annotation.internalPersistenceAnnotationProcessor"

def eventListenerProcessorName : String := "lorn.di.context.event.internalEventListenerProcessor"

def eventListenerFactoryName : String := "lorn.di.context.event.internalEventListenerFactory"

def persistenceProcessorClass : String :=
  "lorn.di.orm.jpa.support.PersistenceAnnotationBeanPostProcessor"

/-- In the order of their registration. -/
def all : List InfrastructureBean := [
  ⟨configurationProcessorName, "lorn.di.context.annotation.ConfigurationClassPostProcessor", []⟩,
  ⟨autowiredProcessorName,
    "lorn.di.beans.factory.annotation.AutowiredAnnotationBeanPostProcessor", []⟩,
  ⟨commonProcessorName, "lorn.di.context.annotation.CommonAnnotationBeanPostProcessor",
    ["javax.annotation.Resource"]⟩,
  ⟨persistenceProcessorName, persistenceProcessorClass,
    ["javax.persistence.EntityManagerFactory", persistenceProcessorClass]⟩,
  ⟨eventListenerProcessorName, "lorn.di.context.event.EventListenerMethodProcessor", []⟩,
  ⟨eventListenerFactoryName, "lorn.di.context.event.DefaultEventListenerFactory", []⟩]

def isEnabled (bean : InfrastructureBean) (isPresent : String → Bool) : Bool :=
  bean.neededClasses.all isPresent

def definition (bean : InfrastructureBean) (source : Option SourceLocation) : BeanDefinition :=
  { BeanDefinition.ofClass bean.className with source, role := .infrastructure }

end InfrastructureBean

/-- Registers what is enabled and not there yet, and returns just that. -/
def Registry.registerInfrastructure (source : Option SourceLocation)
    (isPresent : String → Bool) : RegistryM (List BeanDefinitionHolder) := do
  let registered ← (InfrastructureBean.all.filter (·.isEnabled isPresent)).mapM fun bean => do
    if (← get).contains bean.beanName then return none
    let definition ← register bean.beanName (bean.definition source)
    return some { definition, beanName := bean.beanName : BeanDefinitionHolder }
  return registered.filterMap id

/-- A request to a bean factory. What it changed before a refusal stays changed. -/
abbrev FactoryM := EStateM DefinitionError BeanFactory

namespace FactoryM

def onRegistry {Value : Type} (request : RegistryM Value) : FactoryM Value := fun factory =>
  match request factory.registry with
  | .ok value registry => .ok value { factory with registry }
  | .error cause registry => .error cause { factory with registry }

end FactoryM

/-- The rules that read markers are installed even if a definition is then refused. -/
def BeanFactory.registerInfrastructure (source : Option SourceLocation)
    (isPresent : String → Bool) : FactoryM (List BeanDefinitionHolder) := do
  modify BeanFactory.installAnnotationSupport
  .onRegistry (Registry.registerInfrastructure source isPresent)

end BeanContainer
