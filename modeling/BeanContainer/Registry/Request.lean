/-
This file holds the requests that change a registry, and runs of them from the empty registry.
-/

import BeanContainer.Registry.Basic

namespace BeanContainer.Registry

/-- The registry after a request, whether it is refused or not. -/
def leftBy {Value : Type} (registry : Registry) (request : RegistryM Value) : Registry :=
  match request.run registry with
  | .ok _ changed => changed
  | .error _ changed => changed

inductive Request where
  | register (name : String) (definition : BeanDefinition)
  | remove (name : String)
  | registerAlias (name aliasName : String)
  | registerHolder (holder : BeanDefinitionHolder)
  | setAllowOverriding (allow : Bool)

namespace Request

def perform : Request → RegistryM Unit
  | .register name definition => discard (Registry.register name definition)
  | .remove name => discard (Registry.remove name)
  | .registerAlias name aliasName => Registry.registerAlias name aliasName
  | .registerHolder holder => discard (Registry.registerHolder holder)
  | .setAllowOverriding allow => Registry.setAllowOverriding allow

def after (request : Request) (registry : Registry) : Registry := registry.leftBy request.perform

end Request

/-- Each request finds the registry as the one before it has left it. -/
def run (registry : Registry) (requests : List Request) : Registry :=
  requests.foldl (fun registry request => request.after registry) registry

/-- A run of requests leads from the empty registry, in which no name may be bound anew, to this
one. -/
def Reachable (registry : Registry) : Prop := ∃ requests, Registry.empty.run requests = registry

end BeanContainer.Registry
