/-
This file holds what the container may ask about the markers of a class or method.
-/

import BeanContainer.Annotations.Descriptor

namespace BeanContainer

/-- The container reads markers through these three questions only. -/
structure AnnotationView where
  /-- The types of the direct markers, in declaration order. -/
  types : List String
  /-- The attributes of a direct marker of the given type. -/
  attributes : String → Option Attributes
  /-- Every marker type that the given marker type carries. -/
  metaTypes : String → NameSet

namespace AnnotationView

/-- A marker counts when it is direct or is carried by a direct one. -/
def isAnnotated (view : AnnotationView) (typeName : String) : Bool :=
  view.types.any fun present =>
    present == typeName || (view.metaTypes present).contains typeName

/-- Of two markers with the same type the first one answers. -/
def ofDescriptors (descriptors : List AnnotationDescriptor) : AnnotationView where
  types := descriptors.map (·.typeName)
  attributes typeName :=
    (descriptors.find? fun descriptor => descriptor.typeName == typeName).map (·.attributes)
  metaTypes typeName :=
    match descriptors.find? fun descriptor => descriptor.typeName == typeName with
    | some descriptor => descriptor.metaTypes
    | none => ∅

/-- This view has no markers. -/
def bare : AnnotationView := ofDescriptors []

instance : Inhabited AnnotationView := ⟨bare⟩

/-- The markers of a repeatable type are the direct one and those that its container holds, in
that order and each once. -/
def repeatable (view : AnnotationView) (containerType typeName : String) :
    Except DefinitionError (List Attributes) := do
  let direct := (view.attributes typeName).toList
  let contained ←
    match view.attributes containerType with
    | some container =>
        if container.contains AttributeName.value then container.nestedArray AttributeName.value
        else .ok []
    | none => .ok []
  return (direct ++ contained).foldl
    (fun found element => if found.contains element then found else found ++ [element]) []

end AnnotationView

/-- What is known of a class. -/
structure ClassMetadata where
  className : String
  annotations : AnnotationView
  isInterface : Bool := false
  isAbstract : Bool := false
  isFinal : Bool := false

/-- What is known of a method. -/
structure MethodMetadata where
  methodName : String
  declaringClassName : String
  returnTypeName : Option String := none
  annotations : AnnotationView
  isStatic : Bool := false
  isFinal : Bool := false
  isPrivate : Bool := false

/-- A subclass can intercept such a method. -/
def MethodMetadata.isOverridable (method : MethodMetadata) : Bool :=
  !method.isStatic && !method.isFinal && !method.isPrivate

/-- A full configuration class carries the configuration marker, and its direct configuration
marker, if any, does not switch off proxied bean methods. -/
def ClassMetadata.isFullConfiguration (metadata : ClassMetadata) : Bool :=
  metadata.annotations.isAnnotated AnnotationType.configuration &&
    match metadata.annotations.attributes AnnotationType.configuration with
    | some attributes => attributes.get? AttributeName.proxyBeanMethods != some (.bool false)
    | none => true

end BeanContainer
