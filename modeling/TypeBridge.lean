import TypeBridge.Connector.Catalog
import TypeBridge.LogicalType.Json
import TypeBridge.Main
import TypeBridge.Proofs.Column.Created
import TypeBridge.Proofs.Outcome
import TypeBridge.Value.Json
import TypeBridge.Proofs.Column.Rules
import TypeBridge.Proofs.Calendar.Days
import TypeBridge.Proofs.Calendar.Instants
import TypeBridge.Proofs.Temporal.Grid
import TypeBridge.Proofs.Temporal.RoundTrip
import TypeBridge.Proofs.Column.Agreement
import TypeBridge.Proofs.Column.WrittenBack
import TypeBridge.Proofs.Sql.Lexer
import TypeBridge.Proofs.Sql.Quoting
import TypeBridge.Proofs.Sql.FirstToken
import TypeBridge.Proofs.Pushdown.Grammar
import TypeBridge.Proofs.Pushdown.Rewriting
import TypeBridge.Proofs.Connector.Calls
import TypeBridge.Proofs.Connector.Statements
import TypeBridge.Proofs.Connector.Endings
import TypeBridge.Proofs.Connector.Runs
import TypeBridge.Proofs.Column.WellFormed
import TypeBridge.Proofs.Column.Numbers
import TypeBridge.Proofs.Column.ReadBack
import TypeBridge.Proofs.Calendar.Reading
import TypeBridge.Proofs.Column.TextBound
import TypeBridge.Proofs.Decimal.Precision
import TypeBridge.Proofs.Decimal.Unrounded
import TypeBridge.Proofs.Decimal.Reading
import TypeBridge.Proofs.Column.SecondDigits
import TypeBridge.Proofs.Connector.Lookup
import TypeBridge.Proofs.Pushdown.Aggregates
import TypeBridge.Proofs.Calendar.Order
import TypeBridge.Proofs.Temporal.Epoch
import TypeBridge.Proofs.Temporal.Zoned
import TypeBridge.Proofs.Temporal.Packing
import TypeBridge.Proofs.Temporal.HalfUp
import TypeBridge.Proofs.Temporal.TimeOfDay
import TypeBridge.Proofs.Temporal.EarlyYears
import TypeBridge.Proofs.Column.TextRoom
import TypeBridge.Proofs.Connector.TopN
import TypeBridge.Proofs.Pushdown.BareText
import TypeBridge.Proofs.LogicalType.TypeText
import TypeBridge.Proofs.Connector.Schemas
import TypeBridge.Proofs.Column.Dependence
import TypeBridge.Proofs.Pushdown.Totals
import TypeBridge.Proofs.Duration.Rereading
import TypeBridge.Proofs.Machine.Conversions
import TypeBridge.Proofs.Machine.ReportedColumns
import TypeBridge.Proofs.Column.Documents
import TypeBridge.Proofs.Value.Json
