/-
This file copies the markers that every kind of bean may carry onto its definition.
-/

import BeanContainer.Definition.Bean

namespace BeanContainer

/-- A change to a definition that may be refused. What was changed before the refusal stays. -/
abbrev DefinitionUpdate := EStateM DefinitionError BeanDefinition

namespace DefinitionUpdate

def ofExcept {Value : Type} : Except DefinitionError Value → DefinitionUpdate Value
  | .ok value => pure value
  | .error cause => throw cause

/-- A lazy marker without a value asks for a lazy bean. -/
def lazyValue (attributes : Attributes) : Except DefinitionError Bool :=
  if attributes.contains AttributeName.value then attributes.bool AttributeName.value else .ok true

/-- A view without a lazy marker leaves the choice to the class of the definition. -/
def applyLazy (view : AnnotationView) : DefinitionUpdate Unit := do
  let definition ← get
  let ofClass := definition.metadata.bind fun metadata =>
    metadata.annotations.attributes AnnotationType.lazyInit
  match (view.attributes AnnotationType.lazyInit).or ofClass with
  | some attributes =>
      let value ← ofExcept (lazyValue attributes)
      modify fun definition => { definition with lazyInit := some value }
  | none => pure ()

def applyPrimary (view : AnnotationView) : DefinitionUpdate Unit := do
  if view.isAnnotated AnnotationType.primary then
    modify fun definition => { definition with primary := true }

def applyDependsOn (view : AnnotationView) : DefinitionUpdate Unit := do
  match view.attributes AnnotationType.dependsOn with
  | some attributes =>
      let names ←
        if attributes.contains AttributeName.value then
          ofExcept (attributes.stringArray AttributeName.value)
        else pure []
      modify fun definition => { definition with dependsOn := names }
  | none => pure ()

def applyRole (view : AnnotationView) : DefinitionUpdate Unit := do
  match view.attributes AnnotationType.role with
  | some attributes =>
      let code ← ofExcept (attributes.number AttributeName.value)
      let role ← ofExcept (BeanRole.ofCode code)
      modify fun definition => { definition with role }
  | none => pure ()

def applyDescription (view : AnnotationView) : DefinitionUpdate Unit := do
  match view.attributes AnnotationType.description with
  | some attributes =>
      let text ← ofExcept (attributes.string AttributeName.value)
      modify fun definition => { definition with description := some text }
  | none => pure ()

/-- The view is the component class or the bean method at hand. -/
def applyCommonAnnotations (view : AnnotationView) : DefinitionUpdate Unit := do
  applyLazy view
  applyPrimary view
  applyDependsOn view
  applyRole view
  applyDescription view

end DefinitionUpdate

/-- The definition after the update, unless it is refused. -/
def BeanDefinition.update (definition : BeanDefinition) (change : DefinitionUpdate Unit) :
    Except DefinitionError BeanDefinition :=
  match change definition with
  | .ok _ changed => .ok changed
  | .error cause _ => .error cause

end BeanContainer
