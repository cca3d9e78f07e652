import ContentGraph.Main
import ContentGraph.Proofs.Compilation.Acceptance
import ContentGraph.Proofs.Compilation.Agreement
import ContentGraph.Proofs.Compilation.Enumeration
import ContentGraph.Proofs.Materialization.Isolation
import ContentGraph.Proofs.Materialization.Kinds
import ContentGraph.Proofs.Materialization.Renaming
import ContentGraph.Proofs.Materialization.SchemaDirected
import ContentGraph.Proofs.Materialization.Shape
import ContentGraph.Resolution
import ContentGraph.Proofs.Collection.Names
import ContentGraph.Proofs.Json.EqualBut
import ContentGraph.Proofs.Materialization.Shown
import ContentGraph.Proofs.Materialization.Records
import ContentGraph.Proofs.Materialization.Visits
import ContentGraph.Proofs.RichText.Failure
import ContentGraph.Proofs.Materialization.Diagnostics
import ContentGraph.Proofs.Materialization.Files
import ContentGraph.Proofs.Schema.Published
import ContentGraph.Proofs.Registry.Indexed
import ContentGraph.Proofs.Compilation.Stored
import ContentGraph.Proofs.Collection.Printed
import ContentGraph.Proofs.Compilation.Prefix
import ContentGraph.Proofs.Collection.Documents
import ContentGraph.Proofs.Compilation.Reordering
import ContentGraph.Proofs.RichText.Markup
import ContentGraph.Proofs.RichText.PlainText
import ContentGraph.Proofs.RichText.Overriding
import ContentGraph.Proofs.Resolution.Links
import ContentGraph.Proofs.CommandLine.WrittenRegistry
import ContentGraph.Proofs.Collection.Thumbnails
import ContentGraph.Proofs.Download.Runs
import ContentGraph.Proofs.Settings.Precedence
import ContentGraph.Proofs.Resolution.Slices
import ContentGraph.Proofs.TypeRef.Layout
import ContentGraph.Proofs.RichText.SpanOrder
import ContentGraph.Proofs.Compilation.Rejection
import ContentGraph.Proofs.Compilation.Structure
import ContentGraph.Proofs.Compilation.Roles
import ContentGraph.Proofs.RichText.SpanTree
