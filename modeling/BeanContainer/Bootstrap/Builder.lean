/-
This file collects what a container is started with.
-/

import BeanContainer.Bootstrap.Container
import BeanContainer.Bootstrap.Logging
import BeanContainer.Metadata.Json
import BeanContainer.Properties.Store

namespace BeanContainer

/-- A setting that is not given here is read from the properties of the container. -/
structure ContainerBuilder where
  table : MetadataTable := {}
  components : List ClassMetadata := []
  configurations : List ExplicitConfiguration := []
  properties : Option ContainerProperties := none
  allowOverriding : Option Bool := none
  failFast : Option Bool := none
  knownClasses : List String := []
  startup : StartupRecorder := .silent
  logging : Option LoggingConfig := none

namespace ContainerBuilder

def addComponent (builder : ContainerBuilder) (metadata : ClassMetadata) : ContainerBuilder :=
  { builder with components := builder.components ++ [metadata] }

def addConfiguration (builder : ContainerBuilder) (metadata : ClassMetadata)
    (beanMethods : List MethodMetadata) : ContainerBuilder :=
  { builder with configurations := builder.configurations ++ [⟨metadata, beanMethods⟩] }

def addTable (builder : ContainerBuilder) (table : MetadataTable) : ContainerBuilder :=
  { builder with table := builder.table.merge table }

def addTableFile (builder : ContainerBuilder) (content : Option ByteArray) :
    Except InfrastructureError ContainerBuilder := do
  let table ← (MetadataTable.ofFile content).mapError .config
  return builder.addTable table

def withLogging (builder : ContainerBuilder) (config : LoggingConfig) : ContainerBuilder :=
  { builder with logging := some config }

/-- Problems are collected. -/
def forDevelopment (builder : ContainerBuilder) : ContainerBuilder :=
  { builder.withLogging .development with failFast := some false }

/-- The first problem ends the start. -/
def forProduction (builder : ContainerBuilder) : ContainerBuilder :=
  { builder.withLogging .production with failFast := some true }

/-- The shared properties stand in where the builder has none of its own. -/
def input (builder : ContainerBuilder) (shared : ContainerProperties) : BootstrapInput :=
  let properties := builder.properties.getD shared
  { allowOverriding :=
      builder.allowOverriding.getD (properties.flag ContainerProperties.allowOverridingKey)
    failFast := builder.failFast.getD (properties.flag ContainerProperties.failFastKey)
    table := builder.table
    components := builder.components
    configurations := builder.configurations
    knownClasses := builder.knownClasses }

/-- The outcome together with the steps on record. -/
def build (builder : ContainerBuilder) (shared : ContainerProperties) :
    Except InfrastructureError Context × StartupRecorder :=
  match Bootstrap.run (builder.input shared) builder.startup with
  | .ok context recorder => (.ok context, recorder)
  | .error cause recorder => (.error cause, recorder)

end ContainerBuilder

end BeanContainer
