/-
This file holds bean definitions: what the container knows of a bean before it makes one. A holder
keeps a definition together with the name and the aliases that it is registered under.
-/

import BeanContainer.Collection.SortedMap
import BeanContainer.Metadata.View
import BeanContainer.Text.Quoted

namespace BeanContainer

/-- A role says whom a bean serves. -/
inductive BeanRole where
  | application
  | support
  | infrastructure
deriving DecidableEq

namespace BeanRole

def code : BeanRole → Int64
  | .application => 0
  | .support => 1
  | .infrastructure => 2

def ofCode (code : Int64) : Except DefinitionError BeanRole :=
  if code = 0 then .ok .application
  else if code = 1 then .ok .support
  else if code = 2 then .ok .infrastructure
  else .error (.invalidRole code)

def isInfrastructure (role : BeanRole) : Bool := role == .infrastructure

end BeanRole

/-- A location names where a definition comes from, for reports only. -/
structure SourceLocation where
  resource : String
  element : Option String := none
deriving DecidableEq

def SourceLocation.text (location : SourceLocation) : String :=
  match location.element with
  | some element => location.resource ++ "#" ++ element
  | none => location.resource

structure BeanDefinition where
  /-- The class of the bean, or the return type of its factory method. -/
  beanClassName : Option String := none
  factoryBeanName : Option String := none
  factoryMethodName : Option String := none
  scope : String := scopeDefault
  lazyInit : Option Bool := none
  primary : Bool := false
  autowireCandidate : Bool := true
  dependsOn : List String := []
  role : BeanRole := .application
  description : Option String := none
  source : Option SourceLocation := none
  /-- The annotated class of the bean, or the class that declares its factory method. -/
  metadata : Option ClassMetadata := none
  factoryMethodMetadata : Option MethodMetadata := none
  attributes : SortedMap String := ∅

instance : Inhabited BeanDefinition := ⟨{}⟩

namespace BeanDefinition

def ofClass (className : String) : BeanDefinition := { beanClassName := some className }

def ofMetadata (metadata : ClassMetadata) : BeanDefinition :=
  { beanClassName := some metadata.className, metadata := some metadata }

/-- The class metadata stay those of the class that declares the method. -/
def ofFactoryMethod (classMetadata : ClassMetadata) (method : MethodMetadata) : BeanDefinition :=
  { beanClassName := method.returnTypeName
    factoryMethodName := some method.methodName
    metadata := some classMetadata
    factoryMethodMetadata := some method }

def isSingleton (definition : BeanDefinition) : Bool :=
  definition.scope == scopeSingleton || definition.scope == scopeDefault

def isPrototype (definition : BeanDefinition) : Bool := definition.scope == scopePrototype

def isLazyInit (definition : BeanDefinition) : Bool := definition.lazyInit.getD false

def isAnnotated (definition : BeanDefinition) : Bool := definition.metadata.isSome

def withAttribute (definition : BeanDefinition) (name value : String) : BeanDefinition :=
  { definition with attributes := definition.attributes.insert name value }

def resourceDescription (definition : BeanDefinition) : String :=
  let className := definition.beanClassName.getD "<unknown>"
  match definition.factoryMethodName, definition.source with
  | some method, some source => s!"工厂方法 {method} 定义于 {source.text}"
  | some method, none => s!"工厂方法 {method} ({className})"
  | none, some source => s!"类 [{className}] 定义于 {source.text}"
  | none, none => s!"类 [{className}]"

end BeanDefinition

structure BeanDefinitionHolder where
  definition : BeanDefinition
  beanName : String
  aliases : List String := []

namespace BeanDefinitionHolder

def matchesName (holder : BeanDefinitionHolder) (name : String) : Bool :=
  holder.beanName == name || holder.aliases.contains name

def text (holder : BeanDefinitionHolder) : String :=
  let aliases := if holder.aliases.isEmpty then "" else " 别名 " ++ Text.quotedList holder.aliases
  s!"Bean 定义 '{holder.beanName}'{aliases}: {holder.definition.resourceDescription}"

end BeanDefinitionHolder

end BeanContainer
