/-
This file names beans after their stereotype markers, or else after their class.
-/

import BeanContainer.Naming.ShortName
import BeanContainer.Registry.Basic

namespace BeanContainer

/-- A name generator reads the definition and the registry, and may remember things between
calls. -/
abbrev NameGenerator (Memory : Type) :=
  BeanDefinition → Registry → EStateM DefinitionError Memory String

/-- The generator by markers remembers which marker types a marker type carries. -/
structure MetaTypeCache where
  known : SortedMap NameSet := ∅

instance : Inhabited MetaTypeCache := ⟨{}⟩

namespace MetaTypeCache

def size (cache : MetaTypeCache) : Nat := cache.known.size

/-- The first answer for a marker type is kept for good. -/
def metaTypes {Cause : Type} (view : AnnotationView) (typeName : String) :
    EStateM Cause MetaTypeCache NameSet := do
  let cache ← get
  match cache.known.get? typeName with
  | some metaTypes => return metaTypes
  | none =>
      let metaTypes := view.metaTypes typeName
      set { cache with known := cache.known.insert typeName metaTypes }
      return metaTypes

end MetaTypeCache

namespace Naming

/-- A stereotype names its bean by its `value`. -/
def isNamingStereotype (typeName : String) (metaTypes : NameSet) (attributes : Attributes) :
    Bool :=
  (typeName == AnnotationType.component || metaTypes.contains AnnotationType.component ||
    typeName == AnnotationType.managedBean || typeName == AnnotationType.named) &&
    attributes.contains AttributeName.value

/-- The name that one direct marker gives, if it gives one. -/
def proposedName {Cause : Type} (view : AnnotationView) (typeName : String) :
    EStateM Cause MetaTypeCache (Option String) := do
  match view.attributes typeName with
  | none => return none
  | some attributes =>
      let metaTypes ← MetaTypeCache.metaTypes view typeName
      if isNamingStereotype typeName metaTypes attributes then
        match attributes.get? AttributeName.value with
        | some (.string name) => return if name.isEmpty then none else some name
        | _ => return none
      else return none

/-- Two markers may give a name only if they give the same one. -/
def agreedName (view : AnnotationView) :
    List String → Option String → EStateM DefinitionError MetaTypeCache (Option String)
  | [], found => return found
  | typeName :: rest, found => do
      match ← proposedName view typeName, found with
      | none, found => agreedName view rest found
      | some name, none => agreedName view rest (some name)
      | some name, some existing =>
          if existing = name then agreedName view rest (some name)
          else throw (.namingConflict existing name)

def annotatedName (view : AnnotationView) :
    EStateM DefinitionError MetaTypeCache (Option String) :=
  agreedName view view.types none

/-- The name that the class alone gives. -/
def defaultName (definition : BeanDefinition) : Except DefinitionError String :=
  match definition.beanClassName with
  | some className => .ok (decapitalize (shortClassName className))
  | none => .error .missingBeanClassName

/-- A blank name on a marker counts as none. -/
def byAnnotations : NameGenerator MetaTypeCache := fun definition _ => do
  let declared ←
    match definition.metadata with
    | some metadata => annotatedName metadata.annotations
    | none => pure none
  match declared.filter fun name => !Text.isBlank name with
  | some name => return name
  | none =>
      match defaultName definition with
      | .ok name => return name
      | .error cause => throw cause

end Naming

end BeanContainer
