import CodeStencil.Aggregate
import CodeStencil.Arguments
import CodeStencil.CommandLine
import CodeStencil.Config.AggregateTemplate
import CodeStencil.Config.Bundle
import CodeStencil.Config.OutputFile
import CodeStencil.Config.RecordSchema
import CodeStencil.Config.Registry
import CodeStencil.Description.Component
import CodeStencil.Description.Entity
import CodeStencil.Description.Enumeration
import CodeStencil.Description.Record
import CodeStencil.Description.Source
import CodeStencil.Dictionary
import CodeStencil.Emission
import CodeStencil.Error
import CodeStencil.Files.Disk
import CodeStencil.Files.Path
import CodeStencil.Filter
import CodeStencil.GenerationRecord
import CodeStencil.Generator
import CodeStencil.Glob.Basic
import CodeStencil.Glob.Reader
import CodeStencil.Json.Decode
import CodeStencil.Json.Document
import CodeStencil.Json.Double
import CodeStencil.Json.Fault
import CodeStencil.Json.Number
import CodeStencil.Json.Reader
import CodeStencil.Json.Value
import CodeStencil.Literals.Exclusion
import CodeStencil.Literals.Fingerprint
import CodeStencil.Literals.Gather
import CodeStencil.Literals.Interned
import CodeStencil.Main
import CodeStencil.Modifier
import CodeStencil.Pattern.Basic
import CodeStencil.Pattern.Reader
import CodeStencil.Plan
import CodeStencil.Run
import CodeStencil.Schema.Basic
import CodeStencil.Schema.Reader
import CodeStencil.Table
import CodeStencil.Template.Basic
import CodeStencil.Template.Store
import CodeStencil.Template.Token
import CodeStencil.Text.Affix
import CodeStencil.Text.Blank
import CodeStencil.Text.Case
import CodeStencil.Text.CaseMap
import CodeStencil.Text.Digits
import CodeStencil.Text.Letter
import CodeStencil.Text.Lines
import CodeStencil.Text.Naming
import CodeStencil.Text.Numeral
import CodeStencil.Text.Printable
import CodeStencil.Text.Ranges
import CodeStencil.Text.WordChar
import CodeStencil.Yaml.Node
import CodeStencil.Yaml.Reader
import CodeStencil.Yaml.Scalar
import CodeStencil.Proofs.Aggregates.Acceptance
import CodeStencil.Proofs.Aggregates.Grouping
import CodeStencil.Proofs.Aggregates.Joining
import CodeStencil.Proofs.Aggregates.Lines
import CodeStencil.Proofs.Descriptions.DeclaredRecords
import CodeStencil.Proofs.Descriptions.OptionalFields
import CodeStencil.Proofs.Errors.Planning
import CodeStencil.Proofs.Errors.Raising
import CodeStencil.Proofs.Errors.Writing
import CodeStencil.Proofs.Files.Changes
import CodeStencil.Proofs.Files.Confinement
import CodeStencil.Proofs.Files.Nesting
import CodeStencil.Proofs.Files.Regions
import CodeStencil.Proofs.Files.Resolution
import CodeStencil.Proofs.Files.Writing
import CodeStencil.Proofs.Globs.Below
import CodeStencil.Proofs.Globs.Matching
import CodeStencil.Proofs.Globs.Reading
import CodeStencil.Proofs.Globs.Widths
import CodeStencil.Proofs.Json.Members
import CodeStencil.Proofs.Lists.Distinct
import CodeStencil.Proofs.Lists.Lookup
import CodeStencil.Proofs.Lists.Results
import CodeStencil.Proofs.Literals.Calls
import CodeStencil.Proofs.Literals.Collisions
import CodeStencil.Proofs.Literals.Exclusions
import CodeStencil.Proofs.Literals.Fingerprints
import CodeStencil.Proofs.Literals.Interning
import CodeStencil.Proofs.Literals.Walking
import CodeStencil.Proofs.Modifiers.Entries
import CodeStencil.Proofs.Patterns.Matching
import CodeStencil.Proofs.Planning.AttributeLists
import CodeStencil.Proofs.Planning.Composition
import CodeStencil.Proofs.Planning.FullDictionary
import CodeStencil.Proofs.Planning.LateErrors
import CodeStencil.Proofs.Planning.Placement
import CodeStencil.Proofs.Planning.Probes
import CodeStencil.Proofs.Planning.Targets
import CodeStencil.Proofs.Record.Listing
import CodeStencil.Proofs.Record.Reconciliation
import CodeStencil.Proofs.Record.RoundTrip
import CodeStencil.Proofs.Run.Accounting
import CodeStencil.Proofs.Run.Aliases
import CodeStencil.Proofs.Run.Emission
import CodeStencil.Proofs.Run.Endings
import CodeStencil.Proofs.Run.Failure
import CodeStencil.Proofs.Run.History
import CodeStencil.Proofs.Run.Orphans
import CodeStencil.Proofs.Run.Outset
import CodeStencil.Proofs.Run.Overwriting
import CodeStencil.Proofs.Run.Phases
import CodeStencil.Proofs.Run.Preview
import CodeStencil.Proofs.Run.Probes
import CodeStencil.Proofs.Run.Repetition
import CodeStencil.Proofs.Run.Validation
import CodeStencil.Proofs.Tables.Layers
import CodeStencil.Proofs.Tables.Monoid
import CodeStencil.Proofs.Tables.Writes
import CodeStencil.Proofs.Template.Grammar
import CodeStencil.Proofs.Template.Parsing
import CodeStencil.Proofs.Template.Rendering
import CodeStencil.Proofs.Template.Substitution
import CodeStencil.Proofs.Text.ByteOrder
import CodeStencil.Proofs.Text.LineFeeds
import CodeStencil.Proofs.Text.Splitting
import CodeStencil.Proofs.Text.Trimming
import CodeStencil.Proofs.Patterns.Matching
