import BeanContainer.Annotations.Attributes
import BeanContainer.Annotations.Descriptor
import BeanContainer.Annotations.Json
import BeanContainer.Autowire.Candidates
import BeanContainer.Autowire.Order
import BeanContainer.Bootstrap.Builder
import BeanContainer.Bootstrap.Container
import BeanContainer.Bootstrap.Context
import BeanContainer.Bootstrap.Logging
import BeanContainer.Collection.Keyed
import BeanContainer.Collection.NameSet
import BeanContainer.Collection.SortedMap
import BeanContainer.Configuration.Model
import BeanContainer.Configuration.Problem
import BeanContainer.Definition.Bean
import BeanContainer.Definition.CommonAnnotations
import BeanContainer.Definition.ProxyMode
import BeanContainer.Error
import BeanContainer.Json.Members
import BeanContainer.Json.Reader
import BeanContainer.Json.Token
import BeanContainer.Json.Value
import BeanContainer.Json.Writer
import BeanContainer.Metadata.Json
import BeanContainer.Metadata.Table
import BeanContainer.Metadata.View
import BeanContainer.Naming.Generator
import BeanContainer.Naming.ShortName
import BeanContainer.Number.Bits64
import BeanContainer.Number.Shortest
import BeanContainer.Properties.Local
import BeanContainer.Properties.Location
import BeanContainer.Properties.Store
import BeanContainer.Properties.System
import BeanContainer.Registration.Basic
import BeanContainer.Registration.Component
import BeanContainer.Registration.Configuration
import BeanContainer.Registration.Infrastructure
import BeanContainer.Registry.Aliases
import BeanContainer.Registry.Basic
import BeanContainer.Report.Configuration
import BeanContainer.Report.Container
import BeanContainer.Report.Definition
import BeanContainer.Report.Fault
import BeanContainer.Report.Metadata
import BeanContainer.Report.Naming
import BeanContainer.Scope.Proxy
import BeanContainer.Scope.Resolver
import BeanContainer.Startup
import BeanContainer.Text.Characters
import BeanContainer.Text.Bytes
import BeanContainer.Text.CaseTable
import BeanContainer.Text.EscapeTable
import BeanContainer.Text.Quoted
import BeanContainer.Toml.Datetime
import BeanContainer.Toml.Reader
import BeanContainer.Toml.Scalar
import BeanContainer.Toml.Scanner
import BeanContainer.Toml.Section
import BeanContainer.Toml.Settled
import BeanContainer.Toml.Value
import BeanContainer.Toml.Writer
import BeanContainer.Registry.Request
import BeanContainer.Proofs.Registry.Operations
import BeanContainer.Proofs.Registry.AliasForest
import BeanContainer.Proofs.Registry.AliasLists
import BeanContainer.Proofs.Registry.CycleCheck
import BeanContainer.Proofs.Collection.InsertionMap
import BeanContainer.Proofs.Registry.InsertionOrder
import BeanContainer.Proofs.Registry.LastingAliases
import BeanContainer.Proofs.Registry.SharedNames
import BeanContainer.Proofs.Registry.RefusedHolders
import BeanContainer.Proofs.Registry.AliasDirections
import BeanContainer.Proofs.Registration.Components
import BeanContainer.Proofs.Definition.CommonAnnotations
import BeanContainer.Proofs.Autowire.Candidates
import BeanContainer.Proofs.Autowire.ScopedCandidates
import BeanContainer.Proofs.Autowire.Selection
import BeanContainer.Proofs.Bootstrap.FactoryBeans
import BeanContainer.Proofs.Registration.Overloads
import BeanContainer.Proofs.Registration.ProxyPairs
import BeanContainer.Proofs.Registration.WriteOnce
import BeanContainer.Proofs.Registration.Infrastructure
import BeanContainer.Proofs.Bootstrap.FailFast
import BeanContainer.Proofs.Bootstrap.Overriding
import BeanContainer.Proofs.Registration.MethodMarkers
import BeanContainer.Proofs.Autowire.ProducedTypes
import BeanContainer.Proofs.Bootstrap.Accounts
import BeanContainer.Naming.Question
import BeanContainer.Proofs.Naming.MetaTypeCache
import BeanContainer.Proofs.Naming.StatedNames
import BeanContainer.Proofs.Bootstrap.Lookups
import BeanContainer.Proofs.Registration.ClassRoutes
import BeanContainer.Proofs.Registration.Reordering
import BeanContainer.Proofs.Bootstrap.ComponentOrder
import BeanContainer.Proofs.Bootstrap.FinalClasses
import BeanContainer.Proofs.Startup.Record
import BeanContainer.Proofs.Properties.LastWord
import BeanContainer.Proofs.Collection.Traversal
import BeanContainer.Proofs.Json.Tokens
import BeanContainer.Proofs.Json.RoundTrip
import BeanContainer.Proofs.Annotations.Reread
import BeanContainer.Proofs.Metadata.RoundTrip
import BeanContainer.Proofs.Registration.RepeatedClasses
import BeanContainer.Proofs.Registration.RepeatedMethods
import BeanContainer.Proofs.Bootstrap.Outlines
import BeanContainer.Proofs.Bootstrap.RepeatedModels
import BeanContainer.Proofs.Bootstrap.RepeatedTables
import BeanContainer.Proofs.Configuration.Findings
import BeanContainer.Proofs.Registry.Locality
import BeanContainer.Proofs.Annotations.Decoding
import BeanContainer.Proofs.Registration.MethodNames
import BeanContainer.Proofs.Registration.LoadedBeans
import BeanContainer.Proofs.Autowire.UndeclaredOrder
import BeanContainer.Proofs.Toml.Paths
import BeanContainer.Proofs.Properties.DottedKeys
import BeanContainer.Proofs.Metadata.Repeatable
import BeanContainer.Proofs.Text.Lowering
import BeanContainer.Proofs.Naming.ClassNames
