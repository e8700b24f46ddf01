/-
This file orders beans by the order that their markers declare.
-/

import BeanContainer.Definition.Bean

namespace BeanContainer

/-- A bean without a declared order takes this one. -/
def lowestPrecedence : Int64 := 2147483647

/-- A marker whose value is no number declares nothing. -/
def declaredNumber (view : AnnotationView) (typeName : String) : Option Int64 := do
  let attributes ← view.attributes typeName
  (attributes.number AttributeName.value).toOption

/-- The order marker comes before the priority marker. -/
def AnnotationView.declaredOrder (view : AnnotationView) : Option Int64 :=
  (declaredNumber view AnnotationType.order).or (declaredNumber view AnnotationType.priority)

namespace BeanDefinition

/-- The product of a factory method takes its order from the method alone. -/
def declaredOrder (definition : BeanDefinition) : Option Int64 :=
  match definition.factoryMethodMetadata with
  | some method => method.annotations.declaredOrder
  | none => definition.metadata.bind fun metadata => metadata.annotations.declaredOrder

def order (definition : BeanDefinition) : Int64 :=
  definition.declaredOrder.getD lowestPrecedence

def compareByOrder (first second : BeanDefinition) : Ordering :=
  compareOfLessAndEq first.order second.order

end BeanDefinition

/-- A rule that brings the candidates of a dependency into order. -/
inductive DependencyComparator where
  | declaredOrder
  | custom (compare : BeanDefinition → BeanDefinition → Ordering)

def DependencyComparator.compare : DependencyComparator →
    BeanDefinition → BeanDefinition → Ordering
  | .declaredOrder => BeanDefinition.compareByOrder
  | .custom compare => compare

end BeanContainer
