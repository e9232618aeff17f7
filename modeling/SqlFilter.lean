import SqlFilter.Calendar.Date
import SqlFilter.Calendar.Moment
import SqlFilter.Calendar.Printer
import SqlFilter.Calendar.Reader
import SqlFilter.Column
import SqlFilter.Compound.Basic
import SqlFilter.Compound.Lists
import SqlFilter.Condition.Key
import SqlFilter.Condition.Operator
import SqlFilter.Condition.Predicate
import SqlFilter.Condition.Tree
import SqlFilter.Entries
import SqlFilter.Error
import SqlFilter.Execution.Executor
import SqlFilter.Execution.Fault
import SqlFilter.Execution.Retry
import SqlFilter.Execution.Server
import SqlFilter.Identifier
import SqlFilter.Json.Basic
import SqlFilter.Json.Document
import SqlFilter.Json.Printer
import SqlFilter.Json.Spelling
import SqlFilter.Number.Arithmetic
import SqlFilter.Number.Floating
import SqlFilter.Number.Literal
import SqlFilter.Number.Numeric
import SqlFilter.Number.Power
import SqlFilter.Number.Shortest
import SqlFilter.Query.Clauses
import SqlFilter.Query.Forms
import SqlFilter.Query.Options
import SqlFilter.Statement.Insert
import SqlFilter.Statement.Select
import SqlFilter.Statement.Table
import SqlFilter.Statement.Update
import SqlFilter.Text.Blank
import SqlFilter.Text.CaseData
import SqlFilter.Text.CodeTable
import SqlFilter.Text.Compatibility
import SqlFilter.Text.CompatibilityData
import SqlFilter.Text.Hex
import SqlFilter.Text.LowerCase
import SqlFilter.Text.Pieces
import SqlFilter.Uuid
import SqlFilter.Value.Basic
import SqlFilter.Value.Binding
import SqlFilter.Value.Decode
import SqlFilter.Value.Document
import SqlFilter.Value.Encode
import SqlFilter.Proofs.Condition.Leaves
import SqlFilter.Proofs.Condition.Reference
import SqlFilter.Proofs.Condition.Uniform
import SqlFilter.Proofs.Condition.Numbering
import SqlFilter.Proofs.Condition.Inversion
import SqlFilter.Proofs.Condition.Outline
import SqlFilter.Proofs.Compound.ArrayLiteral
import SqlFilter.Proofs.Sql.Formula
import SqlFilter.Proofs.Sql.Reading
import SqlFilter.Proofs.Condition.Phrases
import SqlFilter.Proofs.Condition.Meaning
import SqlFilter.Proofs.Compound.RowLiteral
import SqlFilter.Proofs.Condition.Composition
import SqlFilter.Proofs.Condition.FieldReference
import SqlFilter.Proofs.Statement.Name
import SqlFilter.Proofs.Query.Clauses
import SqlFilter.Proofs.Statement.Slots
import SqlFilter.Proofs.Statement.Alignment
import SqlFilter.Proofs.Condition.Renumbering
import SqlFilter.Proofs.Statement.SharedConditions
import SqlFilter.Proofs.Condition.Pruning
import SqlFilter.Proofs.Statement.UndefinedPolicy
import SqlFilter.Proofs.Condition.Documents
import SqlFilter.Execution.Attempt
import SqlFilter.Proofs.Execution.Retrying
import SqlFilter.Proofs.Statement.BuildFailures
import SqlFilter.Proofs.Execution.Sending
import SqlFilter.Proofs.Compound.Balance
import SqlFilter.Proofs.Statement.PlainName
import SqlFilter.Proofs.Number.Digits
import SqlFilter.Proofs.Calendar.Spelling
import SqlFilter.Proofs.Value.ColumnText
import SqlFilter.Proofs.Value.KeptDocument
import SqlFilter.Proofs.Statement.KeptRows
import SqlFilter.Proofs.Condition.TypedParameters
import SqlFilter.Proofs.Statement.TypedParameters
import SqlFilter.Proofs.Sql.Question
import SqlFilter.Proofs.Condition.WrittenKey
import SqlFilter.Proofs.Condition.PlainColumn
import SqlFilter.Proofs.Condition.ListMeaning
import SqlFilter.Proofs.Condition.ContainingPattern
import SqlFilter.Proofs.Condition.PathKey
import SqlFilter.Proofs.Calendar.WrittenTime
import SqlFilter.Proofs.Calendar.InstantSpelling
import SqlFilter.Proofs.Value.WrittenInstant
import SqlFilter.Proofs.Value.NumericText
import SqlFilter.Proofs.Number.NearestWord
import SqlFilter.Proofs.Compound.ExactNumber
import SqlFilter.Proofs.Value.ByteText
import SqlFilter.Proofs.Value.IntegerColumn
import SqlFilter.Proofs.Statement.ColumnList
import SqlFilter.Proofs.Query.HarmlessClauses
import SqlFilter.Proofs.Query.SortSpelling
import SqlFilter.Proofs.Value.BoundList
import SqlFilter.Proofs.Condition.Changes
import SqlFilter.Proofs.Condition.QuotedSegment
import SqlFilter.Proofs.Calendar.MillisRange
import SqlFilter.Proofs.Number.Denotation
import SqlFilter.Proofs.Value.DatedValue
import SqlFilter.Proofs.Value.PreparedValue
import SqlFilter.Proofs.Condition.ReportedEntry
import SqlFilter.Proofs.Json.WrittenText
import SqlFilter.Proofs.Query.WrittenOptions
