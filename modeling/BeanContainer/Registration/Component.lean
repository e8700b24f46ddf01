/-
This file registers component classes.
-/

import BeanContainer.Registration.Basic
import BeanContainer.Definition.CommonAnnotations

namespace BeanContainer

/-- What a component class is to be registered as. -/
structure Component where
  proxyMode : ScopedProxyMode
  beanName : String
  definition : BeanDefinition

def Component.holder (component : Component) : BeanDefinitionHolder :=
  { definition := component.definition, beanName := component.beanName }

namespace DefinitionReader

variable {Memory : Type}

/-- A component is located at its own class. -/
def componentDefinition (metadata : ClassMetadata) (scopeName : String) : BeanDefinition :=
  { BeanDefinition.ofMetadata metadata with
    source := some { resource := metadata.className }
    scope := scopeName }

/-- The generator is asked only where no name is given, and before the common markers are read. -/
def readComponent (reader : DefinitionReader Memory) (metadata : ClassMetadata)
    (name : Option String) : RegistrationM Memory Component := do
  let scope ← .ofExcept (reader.scopes.resolve metadata.annotations)
  let plain := componentDefinition metadata scope.scopeName
  let beanName ←
    match name with
    | some name => pure name
    | none => .generateName reader.generator plain
  let definition ←
    .ofExcept (plain.update (DefinitionUpdate.applyCommonAnnotations metadata.annotations))
  return { proxyMode := scope.proxyMode, beanName, definition }

def registerComponent (reader : DefinitionReader Memory) (metadata : ClassMetadata)
    (name : Option String := none) : RegistrationM Memory BeanDefinitionHolder := do
  let component ← reader.readComponent metadata name
  .onRegistry (Registry.registerScoped component.proxyMode component.holder)

/-- The first class that is refused ends the run. -/
def registerComponents (reader : DefinitionReader Memory) (classes : List ClassMetadata) :
    RegistrationM Memory (List BeanDefinitionHolder) :=
  classes.mapM fun metadata => reader.registerComponent metadata

end DefinitionReader

end BeanContainer
