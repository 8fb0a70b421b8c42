import EntityStore.Calendar.Date
import EntityStore.Calendar.Fields
import EntityStore.Calendar.Format
import EntityStore.Calendar.Read
import EntityStore.Calendar.Render
import EntityStore.Calendar.Stored
import EntityStore.Calendar.Timestamp
import EntityStore.Config
import EntityStore.Connection
import EntityStore.Connection.Command
import EntityStore.Connection.Scripted
import EntityStore.Context
import EntityStore.Context.Database
import EntityStore.Entity.ColumnType
import EntityStore.Entity.Description
import EntityStore.Entity.Descriptor
import EntityStore.Entity.Record
import EntityStore.Entity.Registry
import EntityStore.Entity.Statement
import EntityStore.Error
import EntityStore.Event
import EntityStore.Graph
import EntityStore.Graph.Identity
import EntityStore.Graph.Loading
import EntityStore.Include
import EntityStore.Join
import EntityStore.Join.Statement
import EntityStore.Join.View
import EntityStore.Json
import EntityStore.Json.Decode
import EntityStore.Json.Read
import EntityStore.Json.Write
import EntityStore.Number.Binary64
import EntityStore.Number.Rounded
import EntityStore.Number.Shortest
import EntityStore.Number.Text
import EntityStore.Outcome
import EntityStore.Predicate
import EntityStore.Predicate.Helper
import EntityStore.Predicate.Like
import EntityStore.Predicate.Translation
import EntityStore.Proofs.Number.Decimal
import EntityStore.Proofs.Translation.Emission
import EntityStore.Proofs.Translation.Naming
import EntityStore.Proofs.Translation.Trail
import EntityStore.Row
import EntityStore.Row.Mapper
import EntityStore.Schema.ConstraintName
import EntityStore.Schema.Document
import EntityStore.Schema.Live
import EntityStore.Schema.Plan
import EntityStore.Schema.Reconcile
import EntityStore.Schema.Shape
import EntityStore.Schema.Statement
import EntityStore.Schema.Target
import EntityStore.Session
import EntityStore.Session.Access
import EntityStore.Session.Call
import EntityStore.Session.Related
import EntityStore.Sql.Clause
import EntityStore.Sql.Condition
import EntityStore.Sql.Expression
import EntityStore.Sql.Keyword
import EntityStore.Sql.Name
import EntityStore.Sql.Reading
import EntityStore.Sql.ResultColumn
import EntityStore.Sql.Token
import EntityStore.Sqlite.Database
import EntityStore.Sqlite.File
import EntityStore.Sqlite.Resource
import EntityStore.Sqlite.Settings
import EntityStore.Sqlite.Statement
import EntityStore.Text.Ascii
import EntityStore.Text.Blank
import EntityStore.Text.Casing
import EntityStore.Text.Printable
import EntityStore.Text.Quoted
import EntityStore.Text.Utf8
import EntityStore.Text.Word
import EntityStore.Transaction
import EntityStore.Value
import EntityStore.Value.Coerce
import EntityStore.Value.FieldType
import EntityStore.Value.Numeric
import EntityStore.Value.Operation
import EntityStore.Value.Stored
import EntityStore.Value.Uuid
import EntityStore.Proofs.Except
import EntityStore.Proofs.Join.Parameters
import EntityStore.Proofs.Translation.Failure
import EntityStore.Proofs.Translation.Policy
import EntityStore.Proofs.Graph.Growth
import EntityStore.Proofs.Graph.Rows
import EntityStore.Proofs.Graph.Roots
import EntityStore.Proofs.Sql.Composition
import EntityStore.Proofs.Sql.Formula
import EntityStore.Proofs.Sql.Term
import EntityStore.Proofs.Translation.Writing
import EntityStore.Proofs.Translation.Reading
import EntityStore.Proofs.Graph.Assembly
import EntityStore.Proofs.Graph.Wiring
import EntityStore.Proofs.Schema.Registered
import EntityStore.Proofs.Schema.Difference
import EntityStore.Proofs.Schema.Convergence
import EntityStore.Proofs.Schema.Preservation
import EntityStore.Proofs.Connection.Log
import EntityStore.Proofs.Transaction.View
import EntityStore.Proofs.Transaction.Steps
import EntityStore.Proofs.Transaction.Lifecycle
import EntityStore.Proofs.Transaction.Fault
import EntityStore.Proofs.Schema.Inspection
import EntityStore.Proofs.Schema.Batch
import EntityStore.Proofs.Schema.Pass
import EntityStore.Proofs.Translation.Slots
import EntityStore.Proofs.Join.Slots
import EntityStore.Proofs.Join.Placeholders
import EntityStore.Proofs.Translation.Secrecy
import EntityStore.Proofs.Value.RoundTrip
import EntityStore.Proofs.Translation.Operands
import EntityStore.Proofs.Schema.Drift
import EntityStore.Proofs.Session.Sent
import EntityStore.Proofs.Entity.Declared
import EntityStore.Proofs.Entity.Assignments
import EntityStore.Proofs.Sql.Selection
import EntityStore.Proofs.Entity.Guards
import EntityStore.Proofs.Include.Steps
import EntityStore.Proofs.Include.Guards
import EntityStore.Proofs.Join.Guards
import EntityStore.Proofs.Session.Guards
import EntityStore.Proofs.Include.Columns
import EntityStore.Proofs.Include.Readers
import EntityStore.Proofs.Entity.Closed
import EntityStore.Proofs.Join.Cursor
import EntityStore.Proofs.Schema.Recognition
import EntityStore.Proofs.Schema.Findings
import EntityStore.Proofs.Schema.ConstraintText
import EntityStore.Proofs.Schema.ConstraintNames
import EntityStore.Proofs.Session.View
import EntityStore.Proofs.Session.Steps
import EntityStore.Proofs.Session.Outcomes
import EntityStore.Proofs.Session.Scope
import EntityStore.Proofs.Schema.Rows
import EntityStore.Proofs.Schema.Required
import EntityStore.Proofs.Schema.Keys
import EntityStore.Proofs.Schema.Catalog
import EntityStore.Proofs.Schema.Indexes
import EntityStore.Proofs.Calendar.International
import EntityStore.Proofs.Calendar.Layout
import EntityStore.Proofs.Calendar.Probe
import EntityStore.Proofs.Include.Targets
import EntityStore.Proofs.Sql.Pattern
import EntityStore.Proofs.Predicate.Matching
import EntityStore.Proofs.Predicate.Bounds
import EntityStore.Proofs.Sql.Evaluation
import EntityStore.Proofs.Sql.Escaping
import EntityStore.Proofs.Number.Integer
import EntityStore.Proofs.Value.Order
import EntityStore.Proofs.Translation.Folding
import EntityStore.Proofs.Translation.Computed
import EntityStore.Proofs.Join.Aliases
import EntityStore.Proofs.Join.Policies
import EntityStore.Proofs.Join.Pairings
import EntityStore.Proofs.Row.Mapping
import EntityStore.Proofs.Schema.Definitions
import EntityStore.Proofs.Join.Projection
import EntityStore.Proofs.Join.Rows
import EntityStore.Proofs.Join.Closing
import EntityStore.Proofs.Entity.Rules
import EntityStore.Proofs.Schema.Registration
import EntityStore.Proofs.Entity.Groups
import EntityStore.Proofs.Schema.IndexNames
import EntityStore.Proofs.Schema.Permission
import EntityStore.Proofs.Schema.NormalForm
import EntityStore.Proofs.Schema.Respelling
import EntityStore.Proofs.Schema.Reported
import EntityStore.Proofs.Schema.Reading
import EntityStore.Proofs.Session.Settlement
import EntityStore.Proofs.Sql.Quoting
import EntityStore.Proofs.Translation.Undated
import EntityStore.Proofs.Session.Views
import EntityStore.Proofs.Entity.Unquoted
