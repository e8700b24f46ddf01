/-
This file holds tables of precomputed metadata, which a build tool writes and the container reads.
-/

import BeanContainer.Metadata.View

namespace BeanContainer

structure ClassEntry where
  className : String
  annotations : List AnnotationDescriptor := []
  isInterface : Bool := false
  isAbstract : Bool := false
  isFinal : Bool := false
deriving DecidableEq

structure MethodEntry where
  methodName : String
  declaringClassName : String
  returnTypeName : Option String := none
  annotations : List AnnotationDescriptor := []
  isStatic : Bool := false
  isFinal : Bool := false
  isPrivate : Bool := false
deriving DecidableEq

def ClassEntry.metadata (entry : ClassEntry) : ClassMetadata where
  className := entry.className
  annotations := .ofDescriptors entry.annotations
  isInterface := entry.isInterface
  isAbstract := entry.isAbstract
  isFinal := entry.isFinal

def MethodEntry.metadata (entry : MethodEntry) : MethodMetadata where
  methodName := entry.methodName
  declaringClassName := entry.declaringClassName
  returnTypeName := entry.returnTypeName
  annotations := .ofDescriptors entry.annotations
  isStatic := entry.isStatic
  isFinal := entry.isFinal
  isPrivate := entry.isPrivate

structure MetadataTable where
  classes : List ClassEntry := []
  methods : List MethodEntry := []
deriving DecidableEq

namespace MetadataTable

/-- Of two classes with the same name the first one answers. -/
def class? (table : MetadataTable) (className : String) : Option ClassMetadata :=
  (table.classes.find? fun entry => entry.className == className).map (·.metadata)

def contains (table : MetadataTable) (className : String) : Bool :=
  (table.class? className).isSome

def allClasses (table : MetadataTable) : List ClassMetadata :=
  table.classes.map (·.metadata)

def methodsOf (table : MetadataTable) (className : String) : List MethodMetadata :=
  (table.methods.filter fun entry => entry.declaringClassName == className).map (·.metadata)

/-- The second table comes after the first. -/
def merge (first second : MetadataTable) : MetadataTable :=
  ⟨first.classes ++ second.classes, first.methods ++ second.methods⟩

end MetadataTable

end BeanContainer
