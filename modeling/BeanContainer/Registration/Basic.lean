/-
This file holds the state that registering a class may change, and the step that all kinds of
registration share.
-/

import BeanContainer.Naming.Generator
import BeanContainer.Scope.Proxy
import BeanContainer.Scope.Resolver

namespace BeanContainer

/-- The registry together with what the name generator remembers. -/
structure RegistrationState (Memory : Type) where
  registry : Registry
  memory : Memory

/-- A registration that may be refused. What it changed before the refusal stays changed. -/
abbrev RegistrationM (Memory : Type) := EStateM DefinitionError (RegistrationState Memory)

/-- The rules by which a class or bean method becomes a definition. -/
structure DefinitionReader (Memory : Type) where
  generator : NameGenerator Memory
  scopes : ScopeResolver := {}

namespace RegistrationM

variable {Memory Value : Type}

def ofExcept : Except DefinitionError Value → RegistrationM Memory Value
  | .ok value => pure value
  | .error cause => throw cause

def onRegistry (request : RegistryM Value) : RegistrationM Memory Value := fun state =>
  match request state.registry with
  | .ok value registry => .ok value { state with registry }
  | .error cause registry => .error cause { state with registry }

def generateName (generator : NameGenerator Memory) (definition : BeanDefinition) :
    RegistrationM Memory String := fun state =>
  match generator definition state.registry state.memory with
  | .ok name memory => .ok name { state with memory }
  | .error cause memory => .error cause { state with memory }

end RegistrationM

/-- Registers the holder, or a proxy and its target where the scope asks for one. -/
def Registry.registerScoped (mode : ScopedProxyMode) (holder : BeanDefinitionHolder) :
    RegistryM BeanDefinitionHolder := do
  let visible ← ScopedProxy.apply mode holder
  let _ ← registerHolder visible
  return visible

end BeanContainer
