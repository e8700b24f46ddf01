/-
This file decides which beans satisfy a dependency.
-/

import BeanContainer.Autowire.Order
import BeanContainer.Registry.Basic

namespace BeanContainer

/-- What an injection point asks for. -/
structure DependencyDescriptor where
  typeName : Option String := none
  qualifier : Option String := none
  required : Bool := true

/-- A marker whose value is no text declares nothing. -/
def AnnotationView.declaredQualifier (view : AnnotationView) : Option String := do
  let attributes ← view.attributes AnnotationType.qualifier
  (attributes.string AttributeName.value).toOption

/-- A qualifier on the factory method goes before one on the class. -/
def BeanDefinition.declaredQualifier (definition : BeanDefinition) : Option String :=
  (definition.factoryMethodMetadata.bind fun method => method.annotations.declaredQualifier).or
    (definition.metadata.bind fun metadata => metadata.annotations.declaredQualifier)

/-- A qualifier may be the name, an alias or the declared qualifier of the bean. -/
def DependencyDescriptor.acceptsQualifier (dependency : DependencyDescriptor)
    (holder : BeanDefinitionHolder) : Bool :=
  match dependency.qualifier with
  | some qualifier =>
      holder.matchesName qualifier || holder.definition.declaredQualifier == some qualifier
  | none => true

/-- A rule that accepts or refuses a bean for a dependency. -/
inductive CandidateResolver where
  | simple
  | annotationAware
  | custom (accept : BeanDefinitionHolder → DependencyDescriptor → Bool)

/-- Only a custom rule may accept a bean that is no candidate. -/
def CandidateResolver.accepts (resolver : CandidateResolver) (holder : BeanDefinitionHolder)
    (dependency : DependencyDescriptor) : Bool :=
  match resolver with
  | .simple => holder.definition.autowireCandidate
  | .annotationAware =>
      holder.definition.autowireCandidate && dependency.acceptsQualifier holder
  | .custom accept => accept holder dependency

def DependencyDescriptor.acceptsType (dependency : DependencyDescriptor)
    (definition : BeanDefinition) : Bool :=
  match dependency.typeName with
  | some typeName => definition.beanClassName == some typeName
  | none => true

/-- A registry together with the rules by which it finds candidates. -/
structure BeanFactory where
  registry : Registry := {}
  comparator : Option DependencyComparator := none
  resolver : CandidateResolver := .simple

namespace BeanFactory

def empty (allowOverriding : Bool := false) : BeanFactory :=
  { registry := .empty allowOverriding }

instance : Inhabited BeanFactory := ⟨{}⟩

def holders (factory : BeanFactory) : List BeanDefinitionHolder :=
  factory.registry.names.filterMap fun name => (factory.registry.holder name).toOption

/-- Beans that compare as equal keep their registration order. -/
def inOrder (factory : BeanFactory) (holders : List BeanDefinitionHolder) :
    List BeanDefinitionHolder :=
  match factory.comparator with
  | some comparator =>
      holders.mergeSort fun first second =>
        comparator.compare first.definition second.definition != .gt
  | none => holders

def candidates (factory : BeanFactory) (dependency : DependencyDescriptor) :
    List BeanDefinitionHolder :=
  factory.inOrder (factory.holders.filter fun holder =>
    dependency.acceptsType holder.definition && factory.resolver.accepts holder dependency)

/-- Rules that read markers already stay as they are, and custom rules give way to them. -/
def installAnnotationSupport (factory : BeanFactory) : BeanFactory :=
  { factory with comparator := some .declaredOrder, resolver := .annotationAware }

end BeanFactory

end BeanContainer
