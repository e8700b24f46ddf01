/-
This file holds the settings of a container in two tiers: local settings go before those of the
system.
-/

import BeanContainer.Properties.Local
import BeanContainer.Properties.Location
import BeanContainer.Properties.System
import BeanContainer.Text.Characters

namespace BeanContainer

/-- Only the word true, in capital or small letters, switches a flag on. -/
def isFlagOn : Option String → Bool
  | some value => Text.asciiLowercase value == "true"
  | none => false

structure ContainerProperties where
  localTier : LocalProperties := {}
  systemTier : String → Option String

namespace ContainerProperties

def allowOverridingKey : String := "lorn.di.allow-bean-definition-overriding"

def failFastKey : String := "lorn.di.fail-fast"

def defaultFile : String := "lorn-di.toml"

def fileVariable : String := "LORN_DI_PROPERTIES"

/-- No local settings above the environment. -/
def ofEnvironment (environment : Environment) : ContainerProperties :=
  { systemTier := environment.property? }

/-- Fixed settings in place of the environment. -/
def ofSettings (settings : SortedMap String) : ContainerProperties :=
  { systemTier := settings.get? }

def get? (properties : ContainerProperties) (key : String) : Option String :=
  (properties.localTier.get? key).or (properties.systemTier key)

def flag (properties : ContainerProperties) (key : String) : Bool :=
  isFlagOn (properties.get? key)

/-- Without a value the local setting is removed. -/
def set (properties : ContainerProperties) (key : String) (value : Option String) :
    ContainerProperties :=
  { properties with
    localTier :=
      match value with
      | some value => properties.localTier.set key value
      | none => properties.localTier.erase key }

def setFlag (properties : ContainerProperties) (key : String) : ContainerProperties :=
  properties.set key (some "true")

def reset (properties : ContainerProperties) : ContainerProperties :=
  { properties with localTier := properties.localTier.clear }

/-- The local settings are replaced only if the whole file can be read. -/
def reload (properties : ContainerProperties) (path : String) (content : Option ByteArray) :
    Except ConfigError ContainerProperties := do
  return { properties with localTier := ← LocalProperties.ofFile path content }

def resourceLocation (environment : Environment) : Location :=
  match environment.settings.get? fileVariable with
  | some bytes => ⟨bytes⟩
  | none => .ofText defaultFile

/-- A file that is missing or cannot be read leaves the local tier empty. -/
def load (environment : Environment) (files : String → Option ByteArray) :
    ContainerProperties :=
  let properties := ofEnvironment environment
  let loaded := (resourceLocation environment).path?.bind fun path =>
    (properties.reload path (files path)).toOption
  loaded.getD properties

end ContainerProperties

end BeanContainer
