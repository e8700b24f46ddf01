/-
This file holds the registry of bean definitions: the definitions, the order of their names, their
aliases, and the operations that change them.
-/

import BeanContainer.Definition.Bean
import BeanContainer.Registry.Aliases
import BeanContainer.Text.Characters

namespace BeanContainer

/-- The definitions and the order of their names are kept apart, and each operation that changes
one of them has to change the other as well. -/
structure Registry where
  definitions : SortedMap BeanDefinition := ∅
  /-- In registration order. -/
  names : List String := []
  aliases : AliasMap := ∅
  /-- Whether a name may be bound anew. -/
  allowOverriding : Bool := false

/-- A request to the registry. What it changed before a refusal stays changed. -/
abbrev RegistryM := EStateM DefinitionError Registry

namespace Registry

def empty (allowOverriding : Bool := false) : Registry := { allowOverriding }

instance : Inhabited Registry := ⟨empty⟩

def definition? (registry : Registry) (name : String) : Option BeanDefinition :=
  registry.definitions.get? name

def definition (registry : Registry) (name : String) : Except DefinitionError BeanDefinition :=
  match registry.definition? name with
  | some definition => .ok definition
  | none => .error (.noSuchBeanDefinition name)

def contains (registry : Registry) (name : String) : Bool := (registry.definition? name).isSome

def count (registry : Registry) : Nat := registry.names.length

def isAlias (registry : Registry) (name : String) : Bool := registry.aliases.contains name

def isNameInUse (registry : Registry) (name : String) : Bool :=
  registry.contains name || registry.isAlias name

def canonicalName (registry : Registry) (name : String) : String :=
  registry.aliases.canonicalName name

def aliasesOf (registry : Registry) (name : String) : List String :=
  registry.aliases.aliasesOf name

/-- The definition that the name or alias stands for, with all its aliases. -/
def holder (registry : Registry) (name : String) : Except DefinitionError BeanDefinitionHolder := do
  let beanName := registry.canonicalName name
  let definition ← registry.definition beanName
  return { definition, beanName, aliases := registry.aliasesOf beanName }

/-- The wording of a binding that an alias has already taken. -/
def aliasBindingText (target : String) : String := s!"别名 -> '{target}'"

/-- An alias of the same name gives way only where overriding is allowed. -/
def releaseAlias (name : String) : RegistryM Unit := do
  let registry ← get
  match registry.aliases.get? name with
  | some target =>
      if registry.allowOverriding then
        set { registry with aliases := registry.aliases.erase name }
      else throw (.duplicateBeanName name (aliasBindingText target))
  | none => pure ()

/-- A name that is already there keeps its place. -/
def register (name : String) (definition : BeanDefinition) : RegistryM BeanDefinition := do
  if Text.isBlank name then throw (.invalidBeanName .blankName)
  releaseAlias name
  let registry ← get
  match registry.definition? name with
  | some existing =>
      if !registry.allowOverriding then
        throw (.duplicateBeanName name existing.resourceDescription)
  | none => set { registry with names := registry.names ++ [name] }
  modify fun registry =>
    { registry with definitions := registry.definitions.insert name definition }
  return definition

/-- The aliases of the removed bean stay. -/
def remove (name : String) : RegistryM BeanDefinition := do
  let registry ← get
  match registry.definition? name with
  | some removed =>
      set { registry with
        definitions := registry.definitions.erase name
        names := registry.names.filter fun other => other != name }
      return removed
  | none => throw (.noSuchBeanDefinition name)

/-- Whether a name would come back to itself once the alias is bound to the name. -/
def closesCycle (registry : Registry) (name aliasName : String) : Bool :=
  registry.aliases.leadsTo aliasName name || registry.canonicalName name == aliasName

/-- Binding a name to itself releases the alias of that name. -/
def registerAlias (name aliasName : String) : RegistryM Unit := do
  if Text.isBlank name || Text.isBlank aliasName then throw (.invalidBeanName .blankNameOrAlias)
  let registry ← get
  if aliasName = name then
    set { registry with aliases := registry.aliases.erase aliasName }
  else
    match registry.aliases.get? aliasName with
    | some existing =>
        if existing = name then return ()
        if !registry.allowOverriding then throw (.aliasConflict aliasName name existing)
    | none => pure ()
    if registry.closesCycle name aliasName then
      throw (.invalidBeanName (.aliasCycle aliasName name))
    set { registry with aliases := registry.aliases.insert aliasName name }

/-- Registers the definition and then each alias in turn. -/
def registerHolder (holder : BeanDefinitionHolder) : RegistryM BeanDefinition := do
  let registered ← register holder.beanName holder.definition
  holder.aliases.forM fun aliasName => registerAlias holder.beanName aliasName
  return registered

def setAllowOverriding (allow : Bool) : RegistryM Unit :=
  modify fun registry => { registry with allowOverriding := allow }

end Registry

end BeanContainer
