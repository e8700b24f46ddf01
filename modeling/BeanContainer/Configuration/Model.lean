/-
This file holds the configuration classes of a container, their bean methods, and the check that
full configuration classes can be subclassed.
-/

import BeanContainer.Configuration.Problem
import BeanContainer.Metadata.Table

namespace BeanContainer

/-- A bean method knows its configuration class by the place of that class in the model. -/
structure BeanMethod where
  metadata : MethodMetadata
  configurationClass : Nat

structure ConfigurationClass where
  id : Nat
  metadata : ClassMetadata
  /-- The name under which the class itself is registered. -/
  beanName : Option String := none
  beanMethods : List BeanMethod

def ConfigurationClass.className (configuration : ConfigurationClass) : String :=
  configuration.metadata.className

def ConfigurationClass.isFull (configuration : ConfigurationClass) : Bool :=
  configuration.metadata.isFullConfiguration

/-- A full configuration class cannot be final. -/
def ConfigurationClass.problems (configuration : ConfigurationClass) : List Problem :=
  if configuration.isFull && configuration.metadata.isFinal then
    [{ message := s!"@Configuration 类 '{configuration.className}' 不能是 final, " ++
        "请移除 final 修饰或设置 proxyBeanMethods = false"
       location := { resource := configuration.className } }]
  else []

/-- The configuration classes in the order in which they were added. -/
structure ConfigurationModel where
  classes : List ConfigurationClass := []

namespace ConfigurationModel

def class? (model : ConfigurationModel) (id : Nat) : Option ConfigurationClass :=
  model.classes[id]?

def addClass (model : ConfigurationModel) (metadata : ClassMetadata)
    (methods : List MethodMetadata) : ConfigurationModel :=
  let id := model.classes.length
  { classes := model.classes ++
      [{ id, metadata, beanMethods := methods.map fun method => ⟨method, id⟩ }] }

def setBeanName (model : ConfigurationModel) (id : Nat) (beanName : String) :
    ConfigurationModel :=
  { classes := model.classes.modify id fun configuration =>
      { configuration with beanName := some beanName } }

/-- The methods that the table declares for the class and that carry the bean marker. -/
def beanMethodsOf (table : MetadataTable) (className : String) : List MethodMetadata :=
  (table.methodsOf className).filter fun method =>
    method.annotations.isAnnotated AnnotationType.bean

/-- A class belongs to the model if it carries the configuration marker or has a bean method. -/
def ofTable (table : MetadataTable) : ConfigurationModel :=
  table.allClasses.foldl (fun model metadata =>
    let methods := beanMethodsOf table metadata.className
    if metadata.annotations.isAnnotated AnnotationType.configuration || !methods.isEmpty then
      model.addClass metadata methods
    else model) {}

end ConfigurationModel

namespace BeanMethod

def name (method : BeanMethod) : String := method.metadata.methodName

/-- A method whose class is not in the model is located at the class that declares it. -/
def location (method : BeanMethod) (model : ConfigurationModel) : SourceLocation :=
  let resource :=
    match model.class? method.configurationClass with
    | some configuration => configuration.className
    | none => method.metadata.declaringClassName
  { resource, element := some method.name }

/-- An instance method of a full configuration class must be open to subclasses. -/
def problems (method : BeanMethod) (model : ConfigurationModel) : List Problem :=
  if method.metadata.isStatic then []
  else
    match model.class? method.configurationClass with
    | none => []
    | some configuration =>
        if configuration.isFull && !method.metadata.isOverridable then
          [{ message := s!"@Bean 方法 '{method.name}' 不能是 private 或 final, 请修改方法修饰符"
             location := method.location model }]
        else []

def validate (method : BeanMethod) (model : ConfigurationModel) (reporter : ProblemReporter) :
    Except DefinitionError ProblemReporter :=
  reporter.reportAll (method.problems model)

end BeanMethod

namespace ConfigurationModel

/-- The problems of each class come before those of its methods. -/
def problems (model : ConfigurationModel) : List Problem :=
  model.classes.flatMap fun configuration =>
    configuration.problems ++
      configuration.beanMethods.flatMap fun method => method.problems model

/-- Reports all problems and counts them. -/
def validate (model : ConfigurationModel) (reporter : ProblemReporter) :
    Except DefinitionError (Nat × ProblemReporter) := do
  let found := model.problems
  let reporter ← reporter.reportAll found
  return (found.length, reporter)

end ConfigurationModel

end BeanContainer
