/-
This file describes definitions, where they come from and the rules by which a factory chooses
among them as JSON.
-/

import BeanContainer.Autowire.Candidates
import BeanContainer.Report.Fault
import BeanContainer.Scope.Proxy

namespace BeanContainer

namespace SourceLocation

def fieldNames : List String := ["resource", "element"]

def elementOfJson? : Json → Option (Option String)
  | .null => some none
  | .string text => some (some text)
  | _ => none

/-- An array must hold both fields, while an object may leave the element out. -/
def ofJson? (value : Json) : Option SourceLocation := do
  match ← value.fields? fieldNames, value with
  | [some resource, some element], _ =>
      return { resource := ← resource.text?, element := ← elementOfJson? element }
  | [some resource, none], .object _ => return { resource := ← resource.text? }
  | _, _ => none

end SourceLocation

def BeanRole.name : BeanRole → String
  | .application => "Application"
  | .support => "Support"
  | .infrastructure => "Infrastructure"

def BeanRole.report (role : BeanRole) : Json :=
  .object [
    ("role", .string role.name),
    ("code", .integer role.code.toInt),
    ("infrastructure", .bool role.isInfrastructure)]

def BeanDefinition.report (definition : BeanDefinition) : Json :=
  .object [
    ("class", .ofText? definition.beanClassName),
    ("factory_bean", .ofText? definition.factoryBeanName),
    ("factory_method", .ofText? definition.factoryMethodName),
    ("scope", .string definition.scope),
    ("singleton", .bool definition.isSingleton),
    ("prototype", .bool definition.isPrototype),
    ("lazy_init", .ofOption .bool definition.lazyInit),
    ("lazy", .bool definition.isLazyInit),
    ("primary", .bool definition.primary),
    ("candidate", .bool definition.autowireCandidate),
    ("depends_on", .ofTexts definition.dependsOn),
    ("role", .string definition.role.name),
    ("description", .ofText? definition.description),
    ("source", .ofText? (definition.source.map (·.text))),
    ("annotated", .bool definition.isAnnotated),
    ("metadata", .ofText? (definition.metadata.map (·.className))),
    ("method_metadata", .ofText? (definition.factoryMethodMetadata.map (·.methodName))),
    ("target", .ofText? (definition.attributes.get? ScopedProxy.targetNameAttribute)),
    ("proxy_class", .ofText? (definition.attributes.get? ScopedProxy.targetClassAttribute)),
    ("order", .ofOption (fun order => .integer order.toInt) definition.declaredOrder),
    ("order_value", .integer definition.order.toInt),
    ("text", .string definition.resourceDescription)]

def ScopeMetadata.report (metadata : ScopeMetadata) : Json :=
  .object [("scope", .string metadata.scopeName), ("mode", .string metadata.proxyMode.name)]

def Json.ofOrdering : Ordering → Json
  | .lt => .integer (-1)
  | .eq => .integer 0
  | .gt => .integer 1

/-- The rules by which the factory finds candidates. -/
def BeanFactory.rulesReport (factory : BeanFactory) : Json :=
  .array [
    match factory.comparator with
    | none => .null
    | some .declaredOrder => .string "annotation"
    | some (.custom _) => .string "other",
    match factory.resolver with
    | .simple => .string "simple"
    | .annotationAware => .string "context"
    | .custom _ => .string "other"]

end BeanContainer
