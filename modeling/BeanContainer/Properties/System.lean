/-
This file reads settings from the process environment.
-/

import BeanContainer.Collection.SortedMap

namespace BeanContainer

/-- A variable holds bytes, which need not be a text. -/
structure Environment where
  settings : SortedMap ByteArray := ∅

instance : Inhabited Environment := ⟨{}⟩

namespace Environment

def ofPairs (pairs : List (String × ByteArray)) : Environment :=
  ⟨SortedMap.ofPairs pairs⟩

/-- A variable whose bytes are no text is there but cannot be read. -/
def readable? (environment : Environment) (name : String) : Option String :=
  environment.settings.get? name >>= String.fromUTF8?

/-- Dots and hyphens become underscores and ASCII letters become capitals. -/
def variableName (key : String) : String :=
  key.map fun character =>
    if character = '.' || character = '-' then '_' else character.toUpper

/-- No variable can have such a name. -/
def isImpossibleName (key : String) : Bool :=
  key.isEmpty || key.toList.any fun character => character.toNat == 0 || character == '='

/-- The variable of the key's own name goes before the one of its derived name. -/
def property? (environment : Environment) (key : String) : Option String :=
  if isImpossibleName key then none
  else (environment.readable? key).or (environment.readable? (variableName key))

def propertyNames (environment : Environment) : List String := environment.settings.keys

def sourceName : String := "systemProperties"

end Environment

end BeanContainer
