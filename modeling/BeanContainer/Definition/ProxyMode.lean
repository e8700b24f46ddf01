/-
This file holds the ways in which a scoped bean can be put behind a proxy.
-/

import BeanContainer.Text.Characters

namespace BeanContainer

/-- The mode `unspecified` leaves the choice to whoever resolves the scope. -/
inductive ScopedProxyMode where
  | unspecified
  | no
  | interfaces
  | targetClass
deriving DecidableEq

namespace ScopedProxyMode

def name : ScopedProxyMode → String
  | .unspecified => "DEFAULT"
  | .no => "NO"
  | .interfaces => "INTERFACES"
  | .targetClass => "TARGET_CLASS"

/-- Capital and small ASCII letters are not told apart. -/
def ofName? (text : String) : Option ScopedProxyMode :=
  let upper := Text.asciiUppercase text
  [unspecified, no, interfaces, targetClass].find? fun mode => mode.name == upper

end ScopedProxyMode

/-- The name of a scope together with the proxy that its beans are put behind. -/
structure ScopeMetadata where
  scopeName : String
  proxyMode : ScopedProxyMode
deriving DecidableEq

def scopeSingleton : String := "singleton"

def scopePrototype : String := "prototype"

/-- The empty scope name stands for the singleton scope. -/
def scopeDefault : String := ""

/-- Without a declared scope a bean is a singleton without a proxy. -/
def ScopeMetadata.singleton : ScopeMetadata := ⟨scopeSingleton, .no⟩

end BeanContainer
