import RelationAtlas.Catalog.Basic
import RelationAtlas.Catalog.Snapshot
import RelationAtlas.Cli.Argument
import RelationAtlas.Cli.Command
import RelationAtlas.Cli.Run
import RelationAtlas.ColumnType.Basic
import RelationAtlas.ColumnType.DateTime
import RelationAtlas.ColumnType.Range
import RelationAtlas.Entity.Basic
import RelationAtlas.Entity.Materialize
import RelationAtlas.Error
import RelationAtlas.Extent.Basic
import RelationAtlas.Extent.Expander
import RelationAtlas.Extent.Flavor
import RelationAtlas.Files.Tree
import RelationAtlas.Json
import RelationAtlas.Main
import RelationAtlas.Model.Abbreviation
import RelationAtlas.Model.Basic
import RelationAtlas.Model.Build
import RelationAtlas.Model.Hue
import RelationAtlas.Model.Key
import RelationAtlas.Model.Table
import RelationAtlas.NameMap
import RelationAtlas.ObjectName
import RelationAtlas.Proofs.Catalog.Legal
import RelationAtlas.Proofs.Catalog.Rewriting
import RelationAtlas.Proofs.Catalog.Snapshot
import RelationAtlas.Proofs.ColumnType.Canonical
import RelationAtlas.Proofs.ColumnType.DateTime
import RelationAtlas.Proofs.ColumnType.Guid
import RelationAtlas.Proofs.ColumnType.Moment
import RelationAtlas.Proofs.ColumnType.MomentPrefix
import RelationAtlas.Proofs.ColumnType.MomentText
import RelationAtlas.Proofs.ColumnType.Spelling
import RelationAtlas.Proofs.Entity.Display
import RelationAtlas.Proofs.Entity.Document
import RelationAtlas.Proofs.Entity.Rendering
import RelationAtlas.Proofs.Entity.RoundTrip
import RelationAtlas.Proofs.Entity.Template
import RelationAtlas.Proofs.Extent.Expansion
import RelationAtlas.Proofs.Extent.Order
import RelationAtlas.Proofs.Extent.Reuse
import RelationAtlas.Proofs.Extent.Walk
import RelationAtlas.Proofs.Lookup
import RelationAtlas.Proofs.Model.Abbreviation
import RelationAtlas.Proofs.Model.Anchors
import RelationAtlas.Proofs.Model.ClosingUp
import RelationAtlas.Proofs.Model.ForeignKeys
import RelationAtlas.Proofs.Model.Index
import RelationAtlas.Proofs.Model.KeyResolution
import RelationAtlas.Proofs.Model.Keys
import RelationAtlas.Proofs.Model.Multiplicity
import RelationAtlas.Proofs.Model.PrimaryName
import RelationAtlas.Proofs.Model.RelationGraph
import RelationAtlas.Proofs.Model.Relations
import RelationAtlas.Proofs.Model.RootReach
import RelationAtlas.Proofs.Model.RootRelations
import RelationAtlas.Proofs.Model.SelfConsistent
import RelationAtlas.Proofs.Model.Tables
import RelationAtlas.Proofs.Model.Views
import RelationAtlas.Proofs.NameMap
import RelationAtlas.Proofs.ObjectName
import RelationAtlas.Proofs.ObjectName.Parse
import RelationAtlas.Proofs.ObjectName.Simple
import RelationAtlas.Proofs.Outcome
import RelationAtlas.Proofs.Query.Alias
import RelationAtlas.Proofs.Query.Columns
import RelationAtlas.Proofs.Query.Compilable
import RelationAtlas.Proofs.Query.Compiled
import RelationAtlas.Proofs.Query.Contents
import RelationAtlas.Proofs.Query.Identifiers
import RelationAtlas.Proofs.Query.Lexeme
import RelationAtlas.Proofs.Query.Masked
import RelationAtlas.Proofs.Query.Matching
import RelationAtlas.Proofs.Query.Pattern
import RelationAtlas.Proofs.Query.ReadBack
import RelationAtlas.Proofs.Query.Reads
import RelationAtlas.Proofs.Query.Request
import RelationAtlas.Proofs.Query.Scope
import RelationAtlas.Proofs.Query.Search
import RelationAtlas.Proofs.Query.Seek
import RelationAtlas.Proofs.Query.StatementLexemes
import RelationAtlas.Proofs.Query.Structure
import RelationAtlas.Proofs.Query.Truth
import RelationAtlas.Proofs.Schema.Refresh
import RelationAtlas.Proofs.SystemViews.Answers
import RelationAtlas.Proofs.SystemViews.Description
import RelationAtlas.Proofs.SystemViews.Extent
import RelationAtlas.Proofs.SystemViews.IndexKeys
import RelationAtlas.Proofs.SystemViews.Reading
import RelationAtlas.Proofs.Text.Basic
import RelationAtlas.Proofs.Text.Numeral
import RelationAtlas.Proofs.Xml.Breaks
import RelationAtlas.Proofs.Xml.Legal
import RelationAtlas.Proofs.Xml.Markup
import RelationAtlas.Proofs.Xml.RoundTrip
import RelationAtlas.Proofs.XmlName
import RelationAtlas.Query.Compile
import RelationAtlas.Query.Statement
import RelationAtlas.Query.Token
import RelationAtlas.Schema.Current
import RelationAtlas.SystemViews.Basic
import RelationAtlas.SystemViews.Extent
import RelationAtlas.SystemViews.Reading
import RelationAtlas.Text.Basic
import RelationAtlas.Text.Case
import RelationAtlas.Text.Letter
import RelationAtlas.Xml.Document
import RelationAtlas.Xml.Event
import RelationAtlas.XmlName
