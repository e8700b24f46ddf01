/-
This file describes the names of beans as JSON: the names that are derived from another name, what a
holder keeps under its name, and what a registry makes of a name.
-/

import BeanContainer.Naming.Generator
import BeanContainer.Report.Definition

namespace BeanContainer

/-- The steps from a class name to a bean name. -/
def Naming.report (className : String) : Json :=
  .object [
    ("short", .string (shortClassName className)),
    ("decapitalized", .string (decapitalize className)),
    ("default", .ofOutcome .string (defaultName (.ofClass className)))]

/-- The name of the target behind a proxy of the given name. -/
def ScopedProxy.report (beanName : String) : Json :=
  .object [
    ("target", .string (targetName beanName)),
    ("is_target", .bool (isTargetName beanName))]

/-- Null stands for a text that names no mode. -/
def ScopedProxyMode.report (text : String) : Json := .ofText? ((ofName? text).map (·.name))

def BeanDefinitionHolder.report (holder : BeanDefinitionHolder) : Json :=
  .object [
    ("name", .string holder.beanName),
    ("aliases", .ofTexts holder.aliases),
    ("text", .string holder.text)]

def Json.ofHolders (holders : List BeanDefinitionHolder) : Json :=
  .array (holders.map (·.report))

/-- The named beans in the given order. -/
def Registry.report (registry : Registry) (names : List String) : Json :=
  .array (names.map fun name =>
    .object [
      ("name", .string name),
      ("canonical", .string (registry.canonicalName name)),
      ("aliases", .ofTexts (registry.aliasesOf name)),
      ("definition", .ofOption (·.report) (registry.definition? name))])

end BeanContainer
