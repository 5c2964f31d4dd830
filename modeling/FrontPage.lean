import FrontPage.Text.Word
import FrontPage.Text.Digit
import FrontPage.Text.Case
import FrontPage.Text.Blank
import FrontPage.Text.Keyword
import FrontPage.Text.Scan
import FrontPage.Number
import FrontPage.Value.Text
import FrontPage.Value.Numeral
import FrontPage.Value.Order
import FrontPage.Sorting
import FrontPage.Clause
import FrontPage.Template.Condition
import FrontPage.Template.Conditional
import FrontPage.Template.Placeholder
import FrontPage.Json.Writer
import FrontPage.Json.Reader
import FrontPage.Layout.Config
import FrontPage.Template.Page
import FrontPage.Slots
import FrontPage.Flag
import FrontPage.Roster.Cell
import FrontPage.Roster.Column
import FrontPage.Roster.Table
import FrontPage.Metrics
import FrontPage.Roster.Statement
import FrontPage.Classification.Placement
import FrontPage.Store.Objects
import FrontPage.Cache
import FrontPage.Artifact
import FrontPage.Settings
import FrontPage.Menu
import FrontPage.ItemSet
import FrontPage.Pipeline.Classify
import FrontPage.Pipeline.Hooks
import FrontPage.Api.Service
import FrontPage.Log
import FrontPage.Pipeline.Worker
import FrontPage.Pipeline.Invocation
import FrontPage.Template.Draft
import FrontPage.Api.Envelope
import FrontPage.Main
import FrontPage.Proofs.Template.Syntax
import FrontPage.Proofs.Template.Reading
import FrontPage.Proofs.Template.Evaluation
import FrontPage.Proofs.Template.Repetition
import FrontPage.Proofs.Template.WholePage
import FrontPage.Proofs.ItemSet
import FrontPage.Proofs.Layout.Naming
import FrontPage.Proofs.Roster.Holders
import FrontPage.Proofs.Roster.Effects
import FrontPage.Proofs.Roster.Writing
import FrontPage.Proofs.Classification.Effect
import FrontPage.Proofs.Classification.Resolution
import FrontPage.Proofs.Classification.Call
import FrontPage.Proofs.Classification.Capacity
import FrontPage.Proofs.Classification.Overlap
import FrontPage.Proofs.Classification.Race
import FrontPage.Proofs.Classification.Passes
import FrontPage.Proofs.Pipeline.Caching
import FrontPage.Proofs.Pipeline.Serving
import FrontPage.Proofs.Value.Equality
import FrontPage.Proofs.Pipeline.Reclassification
import FrontPage.Proofs.Classification.Places
import FrontPage.Proofs.Pipeline.Rendering
import FrontPage.Proofs.Classification.Admitted
import FrontPage.Proofs.Store.Documents
import FrontPage.Proofs.Pipeline.Events
import FrontPage.Proofs.Pipeline.Coverage
import FrontPage.Proofs.Template.Insertion
import FrontPage.Proofs.Value.Names
import FrontPage.Proofs.Cache.History
import FrontPage.Proofs.Pipeline.Keeping
import FrontPage.Proofs.Pipeline.Reads
import FrontPage.Proofs.Pipeline.Staleness
import FrontPage.Proofs.Pipeline.Isolation
import FrontPage.Proofs.Classification.History
import FrontPage.Proofs.Pipeline.WellFormed
import FrontPage.Proofs.Pipeline.Atomicity
import FrontPage.Proofs.Classification.Interleaving
import FrontPage.Proofs.Text.Trimming
import FrontPage.Proofs.Value.Decimals
import FrontPage.Proofs.Clause.Grammar
import FrontPage.Proofs.Pipeline.HandingBack
import FrontPage.Proofs.Api.HookBoundary
import FrontPage.Proofs.Store.Writes
import FrontPage.Proofs.Pipeline.Publishing
import FrontPage.Proofs.Pipeline.Overwriting
import FrontPage.Proofs.Roster.InOrder
import FrontPage.Proofs.Classification.Counting
import FrontPage.Proofs.Classification.Repeating
import FrontPage.Proofs.Classification.Overshoot
import FrontPage.Proofs.Store.History
import FrontPage.Proofs.Value.Comparison
import FrontPage.Proofs.Sorting.Stable
import FrontPage.Proofs.Sorting.Insertion
import FrontPage.Proofs.Sorting.Records
import FrontPage.Proofs.Sorting.Composition
import FrontPage.Proofs.Sorting.ScanOrder
import FrontPage.Proofs.Number.Nearest
import FrontPage.Proofs.Value.Integers
import FrontPage.Proofs.Value.Exactness
import FrontPage.Proofs.Layout.Entries
import FrontPage.Proofs.Layout.Indexes
import FrontPage.Proofs.Pipeline.Loading
import FrontPage.Proofs.Text.Casing
import FrontPage.Proofs.Pipeline.Accounting
import FrontPage.Proofs.Pipeline.Losses
import FrontPage.Proofs.Artifact
import FrontPage.Proofs.Pipeline.FunctionNames
import FrontPage.Proofs.Value.Agreement
import FrontPage.Proofs.Text.Capitals
import FrontPage.Proofs.Text.Words
import FrontPage.Proofs.Sorting.Specification
import FrontPage.Proofs.Layout.Selection
import FrontPage.Proofs.Settings
import FrontPage.Proofs.Pipeline.Menus
import FrontPage.Proofs.Store.Keys
import FrontPage.Proofs.Template.Branches
