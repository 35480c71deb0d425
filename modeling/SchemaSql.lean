import SchemaSql.Text.Blank
import SchemaSql.Text.Case
import SchemaSql.Text.Alphanumeric
import SchemaSql.Text.Quoted
import SchemaSql.Text.Hex
import SchemaSql.Number.FloatText
import SchemaSql.Json.Printer
import SchemaSql.Json.Reader
import SchemaSql.Sql.Identifier
import SchemaSql.Sql.Param
import SchemaSql.Sql.ArrayLiteral
import SchemaSql.Calendar.Layout
import SchemaSql.Number.Numeric
import SchemaSql.Sql.Statement
import SchemaSql.Schema.Declaration
import SchemaSql.Query.Assignment
import SchemaSql.Query.JoinPlan
import SchemaSql.Row.Shape
import SchemaSql.Wire.Row
import SchemaSql.Repository.Operations
import SchemaSql.Repository.Server
import SchemaSql.Proofs.Outcome
import SchemaSql.Proofs.Text.Runs
import SchemaSql.Proofs.Sql.ArrayText
import SchemaSql.Proofs.Sql.Cells
import SchemaSql.Proofs.Sql.Segment
import SchemaSql.Proofs.Query.Asking
import SchemaSql.Proofs.Query.FilterText
import SchemaSql.Proofs.Repository.StatementSegments
import SchemaSql.Proofs.Repository.Binding
import SchemaSql.Proofs.Query.PayloadShape
import SchemaSql.Proofs.Repository.NonInterference
import SchemaSql.Proofs.Row.Layout
import SchemaSql.Proofs.Row.Reading
import SchemaSql.Proofs.Query.RowLayout
import SchemaSql.Proofs.Sql.BooleanText
import SchemaSql.Proofs.Sql.BooleanScan
import SchemaSql.Proofs.Query.FragmentTokens
import SchemaSql.Proofs.Query.BooleanReading
import SchemaSql.Proofs.Query.ReservedSlots
import SchemaSql.Proofs.Wire.ArrayBinding
import SchemaSql.Proofs.Number.Digits
import SchemaSql.Proofs.Number.IntegerText
import SchemaSql.Proofs.Json.Reading
import SchemaSql.Proofs.Calendar.Days
import SchemaSql.Proofs.Calendar.WrittenParts
import SchemaSql.Proofs.Calendar.Reading
import SchemaSql.Proofs.Calendar.Instants
import SchemaSql.Proofs.Wire.ArrayBytes
import SchemaSql.Proofs.Wire.JsonColumns
import SchemaSql.Proofs.Wire.UuidText
import SchemaSql.Proofs.Wire.ScalarValues
import SchemaSql.Proofs.Wire.ReturningValues
import SchemaSql.Proofs.Sql.Numbering
import SchemaSql.Proofs.Query.PlanUse
import SchemaSql.Proofs.Schema.WellFormed
import SchemaSql.Proofs.Query.Orderable
import SchemaSql.Proofs.Repository.ListOrder
import SchemaSql.Proofs.Query.RowFrame
import SchemaSql.Proofs.Repository.RowReading
import SchemaSql.Proofs.Repository.OneRequest
import SchemaSql.Proofs.Repository.RowsApart
import SchemaSql.Proofs.Query.Sources
import SchemaSql.Proofs.Wire.NaturalColumns
import SchemaSql.Proofs.Wire.CanonicalDates
import SchemaSql.Proofs.Row.ArrayCells
import SchemaSql.Proofs.Sql.LikePattern
import SchemaSql.Proofs.Query.Selection
import SchemaSql.Proofs.Query.Search
import SchemaSql.Proofs.Query.Membership
import SchemaSql.Proofs.Sql.ArrayGrammar
import SchemaSql.Proofs.Repository.Pages
import SchemaSql.Proofs.Query.Writing
import SchemaSql.Proofs.Query.PayloadParts
import SchemaSql.Proofs.Json.Members
import SchemaSql.Proofs.Row.RecordJson
import SchemaSql.Proofs.Query.HydratedJson
import SchemaSql.Proofs.Query.WrittenColumns
import SchemaSql.Proofs.Repository.Violations
import SchemaSql.Proofs.Repository.Options
import SchemaSql.Proofs.Number.ExactValue
import SchemaSql.Proofs.Schema.WholeNumbers
import SchemaSql.Proofs.Query.RecordViews
import SchemaSql.Proofs.Repository.Truncation
