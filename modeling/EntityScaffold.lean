import EntityScaffold.Text.Span
import EntityScaffold.Text.Blank
import EntityScaffold.Text.Case
import EntityScaffold.Text.ClassTable
import EntityScaffold.Text.Identifier
import EntityScaffold.Text.Integer
import EntityScaffold.Json.Printer
import EntityScaffold.Json.Reader
import EntityScaffold.Fault
import EntityScaffold.Model.Direction
import EntityScaffold.Naming.Acronym
import EntityScaffold.Naming.Collision
import EntityScaffold.Naming.Marker
import EntityScaffold.Naming.Normalizer
import EntityScaffold.Naming.Plural
import EntityScaffold.Noted
import EntityScaffold.Xml.Declaration
import EntityScaffold.Xml.Doctype
import EntityScaffold.Xml.Document
import EntityScaffold.Catalog
import EntityScaffold.Model.Conceptual
import EntityScaffold.Model.Resolved
import EntityScaffold.Reading.Conceptual
import EntityScaffold.Reading.Mapping
import EntityScaffold.Binding.Bind
import EntityScaffold.Source.ContextClass
import EntityScaffold.Source.DomainClass
import EntityScaffold.Source.EntityConfiguration
import EntityScaffold.Source.TypeTable
import EntityScaffold.Source.Record
import EntityScaffold.Source.Template
import EntityScaffold.Files.FileTree
import EntityScaffold.Config
import EntityScaffold.Settings.File
import EntityScaffold.Settings.Warnings
import EntityScaffold.Emission.Configurations
import EntityScaffold.Emission.Context
import EntityScaffold.Emission.DomainClasses
import EntityScaffold.Emission.Emitter
import EntityScaffold.Files.Document
import EntityScaffold.Files.Output
import EntityScaffold.Registry
import EntityScaffold.Run
import EntityScaffold.Json.Fields
import EntityScaffold.Model.Record
import EntityScaffold.CommandLine.Arguments
import EntityScaffold.CommandLine.Session
import EntityScaffold.CommandLine.Console
import EntityScaffold.Main
import EntityScaffold.Proofs.Outcomes
import EntityScaffold.Proofs.Reading.Tables
import EntityScaffold.Proofs.Reading.TableAssociations
import EntityScaffold.Proofs.Reading.EntityAssociations
import EntityScaffold.Proofs.Binding.Marking
import EntityScaffold.Proofs.Binding.Navigations
import EntityScaffold.Proofs.Binding.ForeignKeys
import EntityScaffold.Proofs.Binding.Stages
import EntityScaffold.Proofs.Binding.Identifiers
import EntityScaffold.Proofs.Binding.Correspondence
import EntityScaffold.Proofs.Binding.Associations
import EntityScaffold.Proofs.Resolution
import EntityScaffold.Proofs.Emission.Traces
import EntityScaffold.Proofs.Emission.Units
import EntityScaffold.Proofs.Emission.Agreement
import EntityScaffold.Proofs.Binding.LastMappings
import EntityScaffold.Proofs.Emission.Registration
import EntityScaffold.Proofs.Binding.Changes
import EntityScaffold.Proofs.Binding.Answers
import EntityScaffold.Proofs.Binding.Idempotence
import EntityScaffold.Proofs.Reading.Promises
import EntityScaffold.Proofs.Binding.Failures
import EntityScaffold.Proofs.Emission.SchemaConstants
import EntityScaffold.Proofs.Emission.Completion
import EntityScaffold.Proofs.Binding.Order
import EntityScaffold.Proofs.Binding.Reordering
import EntityScaffold.Proofs.Emission.Reordering
import EntityScaffold.Proofs.Xml.Namespaces
import EntityScaffold.Proofs.Reading.Namespaces
import EntityScaffold.Proofs.Runs
import EntityScaffold.Proofs.Emission.Narrowing
import EntityScaffold.Proofs.Emission.Paths
import EntityScaffold.Proofs.Binding.Members
import EntityScaffold.Proofs.Emission.Relationships
import EntityScaffold.Proofs.Reading.Faults
import EntityScaffold.Proofs.RunFaults
import EntityScaffold.Proofs.Registries
import EntityScaffold.Proofs.Files.Places
import EntityScaffold.Proofs.Files.Writing
import EntityScaffold.Proofs.Emission.Containment
import EntityScaffold.Proofs.Sessions
import EntityScaffold.Proofs.Json.RoundTrip
import EntityScaffold.Proofs.SavedSettings
import EntityScaffold.Proofs.Binding.Inverses
import EntityScaffold.Proofs.Reading.AssociationElements
import EntityScaffold.Proofs.Reading.SharedKeys
import EntityScaffold.Proofs.Emission.Mirroring
import EntityScaffold.Proofs.Reading.EntitySets
import EntityScaffold.Proofs.Emission.ProcedureCalls
import EntityScaffold.Proofs.Emission.DeclaredNames
import EntityScaffold.Proofs.Naming.Plurals
import EntityScaffold.Proofs.Emission.ContextMembers
import EntityScaffold.Proofs.Emission.ColumnNames
import EntityScaffold.Proofs.Naming.Settling
import EntityScaffold.Proofs.Naming.Spelling
import EntityScaffold.Proofs.Naming.SingleCase
import EntityScaffold.Proofs.Registrations
import EntityScaffold.Proofs.Text.Identifiers
import EntityScaffold.Proofs.Naming.Tokens
import EntityScaffold.Proofs.Source.SettledLayout
import EntityScaffold.Proofs.Naming.LeastSuffixes
import EntityScaffold.Proofs.SettingLayers
import EntityScaffold.Proofs.Emission.ScalarReturns
import EntityScaffold.Proofs.Source.LiteralEnds
