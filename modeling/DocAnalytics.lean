import DocAnalytics.Aggregate.Accumulator
import DocAnalytics.Aggregate.Expression
import DocAnalytics.Aggregate.Function
import DocAnalytics.Analyst.Digest
import DocAnalytics.Analyst.Prompts
import DocAnalytics.Analyst.Question
import DocAnalytics.Analyst.Session
import DocAnalytics.Binary64.Arithmetic
import DocAnalytics.Binary64.Basic
import DocAnalytics.Binary64.Decimal
import DocAnalytics.Binary64.Layout
import DocAnalytics.Binary64.Rounding
import DocAnalytics.Catalog.Basic
import DocAnalytics.Catalog.DeclaredType
import DocAnalytics.Chart.Compile
import DocAnalytics.Chart.Materialize
import DocAnalytics.Chart.Record
import DocAnalytics.Chart.Spec
import DocAnalytics.CommandLine
import DocAnalytics.Document.Path
import DocAnalytics.Filter.Condition
import DocAnalytics.Filter.Error
import DocAnalytics.Filter.Matching
import DocAnalytics.Gateway.Basic
import DocAnalytics.Json.Basic
import DocAnalytics.Json.Fields
import DocAnalytics.Json.Literal
import DocAnalytics.Json.Number
import DocAnalytics.Json.Printer
import DocAnalytics.Json.Reader
import DocAnalytics.Json.Source
import DocAnalytics.Keyed
import DocAnalytics.Main
import DocAnalytics.Pipeline.Bucket
import DocAnalytics.Pipeline.Group
import DocAnalytics.Pipeline.Run
import DocAnalytics.Pipeline.StableSort
import DocAnalytics.Pipeline.Stage
import DocAnalytics.Pipeline.Wire
import DocAnalytics.Plan.Basic
import DocAnalytics.Plan.Compile
import DocAnalytics.Plan.Execute
import DocAnalytics.Plan.Request
import DocAnalytics.Plan.Validation
import DocAnalytics.Project
import DocAnalytics.Proofs.Aggregate.Extremes
import DocAnalytics.Proofs.Aggregate.Grammar
import DocAnalytics.Proofs.Aggregate.Totals
import DocAnalytics.Proofs.Analyst.Agreement
import DocAnalytics.Proofs.Analyst.Thousands
import DocAnalytics.Proofs.Binary64.Exact
import DocAnalytics.Proofs.Binary64.Monotone
import DocAnalytics.Proofs.Binary64.Nearest
import DocAnalytics.Proofs.Binary64.Numerals
import DocAnalytics.Proofs.Binary64.ReadBack
import DocAnalytics.Proofs.Binary64.Shortest
import DocAnalytics.Proofs.Catalog.Loading
import DocAnalytics.Proofs.Catalog.Records
import DocAnalytics.Proofs.Chart.Atomicity
import DocAnalytics.Proofs.Chart.Batch
import DocAnalytics.Proofs.Chart.Bounds
import DocAnalytics.Proofs.Chart.Change
import DocAnalytics.Proofs.Chart.Grouped
import DocAnalytics.Proofs.Chart.Histogram
import DocAnalytics.Proofs.Chart.Isolation
import DocAnalytics.Proofs.Chart.Rerun
import DocAnalytics.Proofs.Chart.Scatter
import DocAnalytics.Proofs.Chart.Step
import DocAnalytics.Proofs.Filter.Faults
import DocAnalytics.Proofs.Filter.Laws
import DocAnalytics.Proofs.Filter.Meaning
import DocAnalytics.Proofs.Filter.Partition
import DocAnalytics.Proofs.Filter.Presence
import DocAnalytics.Proofs.Json.Locality
import DocAnalytics.Proofs.Json.Printing
import DocAnalytics.Proofs.Json.Reading
import DocAnalytics.Proofs.Json.Texts
import DocAnalytics.Proofs.Keyed.Order
import DocAnalytics.Proofs.Path.ReadWrite
import DocAnalytics.Proofs.Path.Segments
import DocAnalytics.Proofs.Path.Writes
import DocAnalytics.Proofs.Pipeline.Boundaries
import DocAnalytics.Proofs.Pipeline.Bounds
import DocAnalytics.Proofs.Pipeline.Buckets
import DocAnalytics.Proofs.Pipeline.EqualFrequency
import DocAnalytics.Proofs.Pipeline.GroupRows
import DocAnalytics.Proofs.Pipeline.Grouping
import DocAnalytics.Proofs.Pipeline.Rows
import DocAnalytics.Proofs.Pipeline.Sorting
import DocAnalytics.Proofs.Plan.Acceptance
import DocAnalytics.Proofs.Plan.Fences
import DocAnalytics.Proofs.Plan.GroupCount
import DocAnalytics.Proofs.Plan.GroupFilter
import DocAnalytics.Proofs.Plan.JsonView
import DocAnalytics.Proofs.Plan.Results
import DocAnalytics.Proofs.Plan.Selection
import DocAnalytics.Proofs.Plan.Suggestions
import DocAnalytics.Proofs.Store.Effects
import DocAnalytics.Proofs.Store.History
import DocAnalytics.Proofs.Store.Identities
import DocAnalytics.Proofs.Store.OrderedMap
import DocAnalytics.Proofs.Store.Restoring
import DocAnalytics.Proofs.Store.Tables
import DocAnalytics.Proofs.Text.Trim
import DocAnalytics.Proofs.Unicode.Caseless
import DocAnalytics.Proofs.Unicode.Lowercase
import DocAnalytics.Proofs.Value.Agreement
import DocAnalytics.Proofs.Value.Coercion
import DocAnalytics.Proofs.Value.Preorder
import DocAnalytics.Regex.Bracket
import DocAnalytics.Regex.Escape
import DocAnalytics.Regex.Flags
import DocAnalytics.Regex.Look
import DocAnalytics.Regex.Marked
import DocAnalytics.Regex.Parser
import DocAnalytics.Regex.Pattern
import DocAnalytics.Regex.Property
import DocAnalytics.Regex.Size
import DocAnalytics.Regex.Utf8
import DocAnalytics.Settings
import DocAnalytics.Store.Datastore
import DocAnalytics.Store.Error
import DocAnalytics.Store.Memory
import DocAnalytics.Store.Snapshot
import DocAnalytics.Store.Timestamp
import DocAnalytics.Text.Integer
import DocAnalytics.Text.Quoted
import DocAnalytics.Text.Split
import DocAnalytics.Text.Trim
import DocAnalytics.Unicode.AgeTable
import DocAnalytics.Unicode.BinaryProperty
import DocAnalytics.Unicode.BinaryTable
import DocAnalytics.Unicode.Blank
import DocAnalytics.Unicode.CaseRun
import DocAnalytics.Unicode.Category
import DocAnalytics.Unicode.CategoryTable
import DocAnalytics.Unicode.CharSet
import DocAnalytics.Unicode.Edition
import DocAnalytics.Unicode.Folding
import DocAnalytics.Unicode.FoldingTable
import DocAnalytics.Unicode.Lowercase
import DocAnalytics.Unicode.LowercaseTable
import DocAnalytics.Unicode.Script
import DocAnalytics.Unicode.ScriptExtensionTable
import DocAnalytics.Unicode.ScriptTable
import DocAnalytics.Unicode.Table
import DocAnalytics.Unicode.TextBreak
import DocAnalytics.Value.Numeric
import DocAnalytics.Value.Order
