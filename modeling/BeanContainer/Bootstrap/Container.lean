/-
This file starts a container: it registers components, assembles and checks the configuration
classes, and loads their bean methods.
-/

import BeanContainer.Bootstrap.Context
import BeanContainer.Registration.Configuration
import BeanContainer.Registration.Infrastructure
import BeanContainer.Startup

namespace BeanContainer

/-- A configuration class that is not taken from a table. -/
structure ExplicitConfiguration where
  metadata : ClassMetadata
  beanMethods : List MethodMetadata

/-- What a container is started with. -/
structure BootstrapInput where
  allowOverriding : Bool := false
  failFast : Bool := false
  table : MetadataTable := {}
  components : List ClassMetadata := []
  configurations : List ExplicitConfiguration := []
  knownClasses : List String := []

/-- A start that may fail. The steps that ended before the failure stay on record. -/
abbrev BootstrapM := EStateM InfrastructureError StartupRecorder

namespace BootstrapM

variable {Value : Type}

def ofExcept : Except DefinitionError Value → BootstrapM Value
  | .ok value => pure value
  | .error cause => throw (.definition cause)

def startStep (name : String) : BootstrapM StartupStep := do
  let (step, recorder) := (← get).start name
  set recorder
  return step

def finishStep (step : StartupStep) : BootstrapM Unit := do
  let (_, recorder) := (← get).finish step
  set recorder

/-- A stage that fails leaves its step open. -/
def stage (name : String) (work : BootstrapM (Value × List (String × String))) :
    BootstrapM Value := do
  let step ← startStep name
  let (value, tags) ← work
  finishStep (tags.foldl (fun step tag => step.tag tag.1 tag.2) step)
  return value

end BootstrapM

namespace BootstrapInput

/-- A class is present if it is known or has an entry in the table. -/
def isPresent (input : BootstrapInput) (className : String) : Bool :=
  input.knownClasses.contains className || input.table.contains className

/-- Explicit components come before those of the table. -/
def allComponents (input : BootstrapInput) : List ClassMetadata :=
  input.components ++ input.table.allClasses.filter fun metadata =>
    metadata.annotations.isAnnotated AnnotationType.component

/-- An explicit configuration class that the model already has is skipped. -/
def addConfiguration (model : ConfigurationModel) (configuration : ExplicitConfiguration) :
    ConfigurationModel :=
  if model.classes.any fun present => present.className == configuration.metadata.className then
    model
  else model.addClass configuration.metadata configuration.beanMethods

/-- A configuration class that is registered as a component keeps the name it has there. -/
def withComponentNames (componentNames : SortedMap String) (model : ConfigurationModel) :
    ConfigurationModel :=
  { classes := model.classes.map fun configuration =>
      match componentNames.get? configuration.className with
      | some beanName => { configuration with beanName := some beanName }
      | none => configuration }

def model (input : BootstrapInput) (componentNames : SortedMap String) : ConfigurationModel :=
  withComponentNames componentNames
    (input.configurations.foldl addConfiguration (.ofTable input.table))

end BootstrapInput

namespace Bootstrap

def annotationReader : DefinitionReader MetaTypeCache := { generator := Naming.byAnnotations }

/-- Of several components with the same class name only the first is registered. -/
def registerComponents : List ClassMetadata → SortedMap String →
    RegistrationM MetaTypeCache (SortedMap String)
  | [], names => return names
  | metadata :: rest, names => do
      if names.contains metadata.className then registerComponents rest names
      else
        let holder ← annotationReader.registerComponent metadata
        registerComponents rest (names.insert metadata.className holder.beanName)

/-- Registers the infrastructure and then the components with a generator of their own. -/
def componentFactory (input : BootstrapInput) :
    Except DefinitionError (BeanFactory × SortedMap String) :=
  let factory := BeanFactory.empty input.allowOverriding
  match factory |> BeanFactory.registerInfrastructure none input.isPresent with
  | .error cause _ => .error cause
  | .ok _ factory =>
      match registerComponents input.allComponents ∅ ⟨factory.registry, {}⟩ with
      | .error cause _ => .error cause
      | .ok names state => .ok ({ factory with registry := state.registry }, names)

def reporter (failFast : Bool) : ProblemReporter :=
  if failFast then .failFast else .collector

/-- Loads the model with a generator of its own. -/
def loadModel (factory : BeanFactory) (model : ConfigurationModel) :
    Except DefinitionError (BeanFactory × List BeanDefinitionHolder) :=
  match annotationReader.loadModel ⟨⟨factory.registry, {}⟩, model⟩ with
  | .error cause _ => .error cause
  | .ok holders state =>
      .ok ({ factory with registry := state.registration.registry }, holders)

def run (input : BootstrapInput) : BootstrapM Context := do
  BootstrapM.stage "lorn.di.context.beanfactory.create" do
    return ((), [])
  let (factory, componentNames) ← BootstrapM.stage "lorn.di.context.components.register" do
    let (factory, names) ← .ofExcept (componentFactory input)
    return ((factory, names), [("count", toString names.size)])
  let model ← BootstrapM.stage "lorn.di.context.config-classes.parse" do
    let model := input.model componentNames
    return (model, [("classes", toString model.classes.length)])
  let problems ← BootstrapM.stage "lorn.di.context.config-classes.validate" do
    let (_, reporter) ← .ofExcept (model.validate (reporter input.failFast))
    return (reporter.problems, [("problems", toString reporter.problems.length)])
  let factory ← BootstrapM.stage "lorn.di.context.bean-methods.load" do
    let (factory, loaded) ← .ofExcept (loadModel factory model)
    return (factory, [("count", toString loaded.length)])
  return { factory, problems }

end Bootstrap

end BeanContainer
