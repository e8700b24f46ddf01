/-
This file reads the scope of a bean from its markers.
-/

import BeanContainer.Definition.Bean

namespace BeanContainer

/-- The default mode stands in where a scope marker leaves the proxy mode open. -/
structure ScopeResolver where
  defaultMode : ScopedProxyMode := .no

namespace ScopeResolver

/-- The name stands in `value`, or in `scopeName` where `value` is empty or missing. -/
def scopeName (attributes : Attributes) : Except DefinitionError String := do
  let value ←
    if attributes.contains AttributeName.value then attributes.string AttributeName.value
    else .ok ""
  if value.isEmpty && attributes.contains AttributeName.scopeName then
    attributes.string AttributeName.scopeName
  else return value

def declaredMode (attributes : Attributes) : Except DefinitionError ScopedProxyMode := do
  if attributes.contains AttributeName.proxyMode then
    let name ← attributes.string AttributeName.proxyMode
    match ScopedProxyMode.ofName? name with
    | some mode => return mode
    | none => throw (.attributeTypeMismatch AttributeName.proxyMode .proxyMode)
  else return .unspecified

def resolve (resolver : ScopeResolver) (view : AnnotationView) :
    Except DefinitionError ScopeMetadata :=
  match view.attributes AnnotationType.scope with
  | none => .ok .singleton
  | some attributes => do
      let scopeName ← scopeName attributes
      let declared ← declaredMode attributes
      return ⟨scopeName, if declared = .unspecified then resolver.defaultMode else declared⟩

/-- A definition without class metadata is a singleton without a proxy. -/
def resolveDefinition (resolver : ScopeResolver) (definition : BeanDefinition) :
    Except DefinitionError ScopeMetadata :=
  match definition.metadata with
  | some metadata => resolver.resolve metadata.annotations
  | none => .ok .singleton

end ScopeResolver

end BeanContainer
