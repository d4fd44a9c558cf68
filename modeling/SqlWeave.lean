import SqlWeave.BoundValue
import SqlWeave.Connection.Address
import SqlWeave.Connection.Execution
import SqlWeave.Connection.HostAddress
import SqlWeave.Connection.Pool
import SqlWeave.Connection.Rows
import SqlWeave.Connection.Statement
import SqlWeave.Decimal.Binary
import SqlWeave.Decimal.Layout
import SqlWeave.Decimal.Literal
import SqlWeave.Decimal.Shortest
import SqlWeave.Decimal.Stepwise
import SqlWeave.Error
import SqlWeave.Json.Basic
import SqlWeave.Json.Decode
import SqlWeave.Json.Fault
import SqlWeave.Json.Reader
import SqlWeave.Json.Writer
import SqlWeave.KeyMap
import SqlWeave.KeyMap.Lemmas
import SqlWeave.Log
import SqlWeave.Program
import SqlWeave.Proofs.Assignments
import SqlWeave.Proofs.BadPositions
import SqlWeave.Proofs.BalancedStatements
import SqlWeave.Proofs.BatchRows
import SqlWeave.Proofs.BuiltReadings
import SqlWeave.Proofs.BuiltSites
import SqlWeave.Proofs.CallParts
import SqlWeave.Proofs.CanonicalForm
import SqlWeave.Proofs.ConflictClause
import SqlWeave.Proofs.EnclosedParts
import SqlWeave.Proofs.ErrorClassification
import SqlWeave.Proofs.ExposedNames
import SqlWeave.Proofs.Flattening
import SqlWeave.Proofs.FragmentCalls
import SqlWeave.Proofs.FragmentParts
import SqlWeave.Proofs.FreeReferences
import SqlWeave.Proofs.Inlining
import SqlWeave.Proofs.MappedPieces
import SqlWeave.Proofs.MergedLaterals
import SqlWeave.Proofs.NestedFragments
import SqlWeave.Proofs.ParentReferences
import SqlWeave.Proofs.Parentheses
import SqlWeave.Proofs.Placeholders
import SqlWeave.Proofs.Pushes
import SqlWeave.Proofs.Readings
import SqlWeave.Proofs.RecordWrites
import SqlWeave.Proofs.Rendering
import SqlWeave.Proofs.RowResults
import SqlWeave.Proofs.ScopedPieces
import SqlWeave.Proofs.SelectModes
import SqlWeave.Proofs.Transaction.Acts
import SqlWeave.Proofs.Transaction.Budget
import SqlWeave.Proofs.Transaction.Course
import SqlWeave.Proofs.Transaction.Delays
import SqlWeave.Proofs.Transaction.Events
import SqlWeave.Proofs.Transaction.Leases
import SqlWeave.Proofs.Transaction.Log
import SqlWeave.Proofs.Transaction.Outcome
import SqlWeave.Proofs.Transaction.Protocol
import SqlWeave.Proofs.Transaction.Scripted
import SqlWeave.Proofs.Transaction.Sessions
import SqlWeave.Proofs.ValueIndependence
import SqlWeave.Proofs.ValuePairs
import SqlWeave.Proofs.Yields
import SqlWeave.Query.Call
import SqlWeave.Query.Condition
import SqlWeave.Query.Insert
import SqlWeave.Query.Lateral
import SqlWeave.Query.MapValues
import SqlWeave.Query.Projection
import SqlWeave.Query.Select
import SqlWeave.Query.Truncate
import SqlWeave.Query.Update
import SqlWeave.Rehearsal.Author
import SqlWeave.Rehearsal.Report
import SqlWeave.Rehearsal.Script
import SqlWeave.Rehearsal.Step
import SqlWeave.Sql.Compile
import SqlWeave.Sql.Fault
import SqlWeave.Sql.Fragment
import SqlWeave.Sql.MapValues
import SqlWeave.Sql.Pieces
import SqlWeave.Sql.Record
import SqlWeave.Sql.Scope
import SqlWeave.Sql.Sites
import SqlWeave.Sql.Tree
import SqlWeave.Text.Blank
import SqlWeave.Text.Extender
import SqlWeave.Text.Hex
import SqlWeave.Text.Quoted
import SqlWeave.Text.Unprintable
import SqlWeave.Transaction.Control
import SqlWeave.Transaction.Event
import SqlWeave.Transaction.Isolation
import SqlWeave.Transaction.Retry
import SqlWeave.Transaction.Source
import SqlWeave.Uuid
import SqlWeave.Proofs.ByteOrder
import SqlWeave.Proofs.FiniteRecords
