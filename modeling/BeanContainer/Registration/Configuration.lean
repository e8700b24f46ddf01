/-
This file registers configuration classes and the beans that their methods make.
-/

import BeanContainer.Configuration.Model
import BeanContainer.Registration.Component

namespace BeanContainer

namespace BeanMethod

/-- Blank names are dropped. -/
def givenNames (attributes : Attributes) : Except DefinitionError (List String) := do
  let names ←
    if attributes.contains AttributeName.name then attributes.stringArray AttributeName.name
    else .ok []
  return names.filter fun name => !Text.isBlank name

/-- The first given name is the bean name and the others are aliases. -/
def splitNames (methodName : String) : List String → String × List String
  | [] => (methodName, [])
  | beanName :: aliases => (beanName, aliases)

/-- An earlier method of the same name and class has already made the bean. -/
def isOverridden (configuration : ConfigurationClass) (methodName beanName : String)
    (registry : Registry) : Bool :=
  match registry.definition? beanName with
  | some existing =>
      existing.factoryMethodName == some methodName &&
        match existing.metadata with
        | some metadata => metadata.className == configuration.className
        | none => false
  | none => false

/-- A static method needs no bean of its class. -/
def baseDefinition (configuration : ConfigurationClass) (method : BeanMethod)
    (attributes : Attributes) : BeanDefinition :=
  let product :=
    { BeanDefinition.ofFactoryMethod configuration.metadata method.metadata with
      source := some { resource := configuration.className, element := some method.name } }
  let placed :=
    if method.metadata.isStatic then
      { product with beanClassName := some configuration.className }
    else { product with factoryBeanName := configuration.beanName }
  match attributes.get? AttributeName.autowireCandidate with
  | some (.bool candidate) => { placed with autowireCandidate := candidate }
  | _ => placed

/-- Registers the bean of the method. A method without a direct bean marker and an overload make
no bean. -/
def register (scopes : ScopeResolver) (configuration : ConfigurationClass)
    (method : BeanMethod) : RegistryM (Option BeanDefinitionHolder) := do
  match method.metadata.annotations.attributes AnnotationType.bean with
  | none => return none
  | some attributes =>
      let names ← ofExcept (givenNames attributes)
      let (beanName, aliases) := splitNames method.name names
      if isOverridden configuration method.name beanName (← get) then return none
      let plain := baseDefinition configuration method attributes
      let common ← ofExcept (plain.update
        (DefinitionUpdate.applyCommonAnnotations method.metadata.annotations))
      let scope ← ofExcept (scopes.resolve method.metadata.annotations)
      let definition := { common with scope := scope.scopeName }
      let holder ← Registry.registerScoped scope.proxyMode { definition, beanName, aliases }
      return some holder
where
  ofExcept {Value : Type} : Except DefinitionError Value → RegistryM Value
    | .ok value => pure value
    | .error cause => throw cause

end BeanMethod

/-- A model that is being loaded, besides the registry that receives its beans. -/
structure LoadingState (Memory : Type) where
  registration : RegistrationState Memory
  model : ConfigurationModel

abbrev LoadingM (Memory : Type) := EStateM DefinitionError (LoadingState Memory)

namespace LoadingM

variable {Memory Value : Type}

def onRegistration (request : RegistrationM Memory Value) : LoadingM Memory Value := fun state =>
  match request state.registration with
  | .ok value registration => .ok value { state with registration }
  | .error cause registration => .error cause { state with registration }

end LoadingM

namespace DefinitionReader

variable {Memory : Type}

/-- Unlike a component, a configuration class is named after its common markers are read. -/
def registerConfiguration (reader : DefinitionReader Memory)
    (configuration : ConfigurationClass) : RegistrationM Memory BeanDefinitionHolder := do
  let annotations := configuration.metadata.annotations
  let scope ← .ofExcept (reader.scopes.resolve annotations)
  let plain := componentDefinition configuration.metadata scope.scopeName
  let definition ←
    .ofExcept (plain.update (DefinitionUpdate.applyCommonAnnotations annotations))
  let beanName ← .generateName reader.generator definition
  .onRegistry (Registry.registerScoped scope.proxyMode { definition, beanName })

/-- Registers the class at this place of the model and notes its name there. -/
def nameConfiguration (reader : DefinitionReader Memory) (configuration : ConfigurationClass) :
    LoadingM Memory BeanDefinitionHolder := do
  let holder ← .onRegistration (reader.registerConfiguration configuration)
  modify fun state =>
    { state with model := state.model.setBeanName configuration.id holder.beanName }
  return holder

/-- Classes without a name are registered first, and then every bean method in order. -/
def loadModel (reader : DefinitionReader Memory) :
    LoadingM Memory (List BeanDefinitionHolder) := do
  let unnamed := (← get).model.classes.filter fun configuration => configuration.beanName.isNone
  let configurations ← unnamed.mapM reader.nameConfiguration
  let methods := (← get).model.classes.flatMap fun configuration =>
    configuration.beanMethods.map fun method => (configuration, method)
  let products ← methods.mapM fun (configuration, method) =>
    .onRegistration (.onRegistry (method.register reader.scopes configuration))
  return configurations ++ products.filterMap id

end DefinitionReader

end BeanContainer
