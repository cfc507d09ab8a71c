import SqlDraft.Backend
import SqlDraft.Backend.Grid
import SqlDraft.Backend.Location
import SqlDraft.Backend.LogTable
import SqlDraft.Backend.ResultSet
import SqlDraft.Backend.Scripted
import SqlDraft.Backend.Stored
import SqlDraft.Backend.Traced
import SqlDraft.Bindings
import SqlDraft.Calendar.Reading
import SqlDraft.Calendar.Timestamp
import SqlDraft.Calendar.Writing
import SqlDraft.Clause.Comparison
import SqlDraft.Clause.Condition
import SqlDraft.Decimal.Binary64
import SqlDraft.Decimal.Power
import SqlDraft.Decimal.Reading
import SqlDraft.Decimal.Scaling
import SqlDraft.Decimal.Shortest
import SqlDraft.Dictionary
import SqlDraft.Draft
import SqlDraft.Draft.Setter
import SqlDraft.Draft.Staging
import SqlDraft.Failure
import SqlDraft.Pool
import SqlDraft.Record
import SqlDraft.Row
import SqlDraft.Row.User
import SqlDraft.Session
import SqlDraft.Session.Query
import SqlDraft.Settings
import SqlDraft.Settings.Document
import SqlDraft.Settings.Dotenv
import SqlDraft.Settings.Expansion
import SqlDraft.Settings.Folder
import SqlDraft.Template
import SqlDraft.Template.Interpolation
import SqlDraft.Template.Rendering
import SqlDraft.Text.Alphanumeric
import SqlDraft.Text.Blank
import SqlDraft.Text.Digits
import SqlDraft.Text.Escaped
import SqlDraft.Text.Hidden
import SqlDraft.Text.Quoted
import SqlDraft.Text.Ranges
import SqlDraft.Text.Start
import SqlDraft.Text.Utf8
import SqlDraft.Toml
import SqlDraft.Toml.Layout
import SqlDraft.Toml.Reading
import SqlDraft.Toml.Scalars
import SqlDraft.Toml.Strings
import SqlDraft.Value
import SqlDraft.Value.Extract
import SqlDraft.Value.Json
import SqlDraft.Value.Native
import SqlDraft.Value.Shown
import SqlDraft.Proofs.Text.Numerals
import SqlDraft.Proofs.Template.Shapes
import SqlDraft.Proofs.Template.Slots
import SqlDraft.Proofs.Draft.Coherence
import SqlDraft.Proofs.Draft.Finish
import SqlDraft.Proofs.Draft.Alignment
import SqlDraft.Proofs.Draft.Inlining
import SqlDraft.Proofs.Session.Script
import SqlDraft.Proofs.Session.Terminals
import SqlDraft.Proofs.Template.Alternatives
import SqlDraft.Proofs.Session.Search
import SqlDraft.Proofs.Session.Mirror
import SqlDraft.Proofs.Draft.Sheet
import SqlDraft.Proofs.Session.Transactions
import SqlDraft.Proofs.Session.Mutations
import SqlDraft.Proofs.Session.Upsert
import SqlDraft.Proofs.Draft.Groups
import SqlDraft.Proofs.Session.Dependence
import SqlDraft.Proofs.Session.Refusal
import SqlDraft.Proofs.Template.Readable
import SqlDraft.Proofs.Template.ReadableClauses
import SqlDraft.Proofs.Template.Unambiguous
import SqlDraft.Proofs.Pool.Openings
import SqlDraft.Proofs.Pool.Serving
import SqlDraft.Proofs.Pool.Current
import SqlDraft.Proofs.Draft.Normalised
import SqlDraft.Proofs.Session.InsertSelect
import SqlDraft.Proofs.Session.InsertColumns
import SqlDraft.Proofs.Session.Sequence
import SqlDraft.Proofs.Backend.Moves
import SqlDraft.Proofs.Backend.Traversal
import SqlDraft.Proofs.Settings.References
import SqlDraft.Proofs.Text.Literals
import SqlDraft.Proofs.Template.Placeholders
import SqlDraft.Proofs.Calendar.RoundTrip
import SqlDraft.Proofs.Value.Integers
import SqlDraft.Proofs.Row.Columns
import SqlDraft.Proofs.Row.Trees
import SqlDraft.Proofs.Text.Utf8
import SqlDraft.Proofs.Backend.Storing
import SqlDraft.Proofs.Bindings.Interleaving
import SqlDraft.Proofs.Template.Segments
import SqlDraft.Proofs.Clause.Comparisons
import SqlDraft.Proofs.Record.Merging
import SqlDraft.Proofs.Draft.Operators
import SqlDraft.Proofs.Template.Written
