import RecordFilter.Text.Blank
import RecordFilter.Text.Quoted
import RecordFilter.Text.EditDistance
import RecordFilter.Text.Lowercase
import RecordFilter.Text.Escaped
import RecordFilter.Text.Utf8
import RecordFilter.Number.Binary64
import RecordFilter.Number.Shortest
import RecordFilter.Number.Numeral
import RecordFilter.Number.Basic
import RecordFilter.Json.Numeral
import RecordFilter.Json.Basic
import RecordFilter.Json.Token
import RecordFilter.Json.Reader
import RecordFilter.Json.Record
import RecordFilter.Calendar.Civil
import RecordFilter.Calendar.Weekday
import RecordFilter.Calendar.Date
import RecordFilter.Dates.Mode
import RecordFilter.Tree.Conjunction
import RecordFilter.Tree.Operator
import RecordFilter.Tree.Value
import RecordFilter.Tree.Basic
import RecordFilter.Schema.FieldType
import RecordFilter.Available.ColumnType
import RecordFilter.Fault
import RecordFilter.Dates.Filter
import RecordFilter.Dates.Range
import RecordFilter.Schema.Field
import RecordFilter.Schema.Normalize
import RecordFilter.Schema.Codec
import RecordFilter.Available.Descriptor
import RecordFilter.Available.Classify
import RecordFilter.Available.Edit
import RecordFilter.Tree.Payload
import RecordFilter.Formula.Basic
import RecordFilter.Formula.Literal
import RecordFilter.Compile.Lowering
import RecordFilter.Compile.Test
import RecordFilter.Compile.Basic
import RecordFilter.Toml.Basic
import RecordFilter.Toml.Reader
import RecordFilter.Toml.Text
import RecordFilter.Toml.Numeral
import RecordFilter.Toml.Assembly
import RecordFilter.Toml.Document
import RecordFilter.Config.Basic
import RecordFilter.Config.Codec
import RecordFilter.Config.Location
import RecordFilter.Config.File
import RecordFilter.Session
import RecordFilter.Proofs.Compile.Expansion
import RecordFilter.Proofs.Compile.Tests
import RecordFilter.Proofs.Compile.Yields
import RecordFilter.Proofs.Compile.OnePass
import RecordFilter.Proofs.Formula.Grammar
import RecordFilter.Proofs.Formula.Reader
import RecordFilter.Proofs.Calendar.DateText
import RecordFilter.Proofs.Formula.Written
import RecordFilter.Proofs.Compile.Unambiguous
import RecordFilter.Proofs.Calendar.CivilDay
import RecordFilter.Proofs.Calendar.Succession
import RecordFilter.Proofs.Dates.Boundaries
import RecordFilter.Proofs.Compile.Domain
import RecordFilter.Proofs.Tree.Thinning
import RecordFilter.Proofs.Compile.DeadCriteria
import RecordFilter.Proofs.Support.First
import RecordFilter.Proofs.Compile.FirstFault
import RecordFilter.Proofs.Json.Settled
import RecordFilter.Proofs.Tree.ValueReading
import RecordFilter.Proofs.Tree.NormalForm
import RecordFilter.Proofs.Tree.PayloadWriting
import RecordFilter.Proofs.Dates.Words
import RecordFilter.Proofs.Dates.Table
import RecordFilter.Proofs.Support.SameOutcome
import RecordFilter.Proofs.Compile.Agreement
import RecordFilter.Proofs.Dates.Fields
import RecordFilter.Proofs.Compile.Settings
import RecordFilter.Proofs.Calendar.DayFormat
import RecordFilter.Proofs.Dates.Years
import RecordFilter.Proofs.Formula.Days
import RecordFilter.Proofs.Compile.ComparedDays
import RecordFilter.Proofs.Tree.PayloadShape
import RecordFilter.Proofs.Tree.PayloadFaults
import RecordFilter.Proofs.Available.Described
import RecordFilter.Proofs.Available.Classified
import RecordFilter.Proofs.Dates.CalendarUnits
import RecordFilter.Proofs.Compile.BlankTests
import RecordFilter.Proofs.Json.Restating
import RecordFilter.Proofs.Schema.Reading
import RecordFilter.Proofs.Schema.Restated
import RecordFilter.Proofs.Calendar.Months
import RecordFilter.Proofs.Dates.Windows
import RecordFilter.Proofs.Dates.Order
import RecordFilter.Proofs.Calendar.DateReading
import RecordFilter.Proofs.Formula.DayTests
import RecordFilter.Proofs.Compile.DayComparisons
import RecordFilter.Proofs.Text.Trimming
import RecordFilter.Proofs.Dates.Validation
import RecordFilter.Proofs.Number.Digits
import RecordFilter.Proofs.Number.Decimal
import RecordFilter.Proofs.Number.Rounding
import RecordFilter.Proofs.Number.FloatReading
import RecordFilter.Proofs.Formula.NumberLiterals
import RecordFilter.Proofs.Number.NumberText
import RecordFilter.Proofs.Compile.OtherValues
import RecordFilter.Proofs.Compile.NumberTexts
import RecordFilter.Proofs.Compile.ListOperators
import RecordFilter.Proofs.Tree.ValueNormalForm
import RecordFilter.Proofs.Schema.FormulaChains
import RecordFilter.Proofs.Text.EditDistance
import RecordFilter.Proofs.Text.Lowercase
import RecordFilter.Proofs.Dates.Suggestions
import RecordFilter.Proofs.Compile.LoweredTree
import RecordFilter.Proofs.Toml.Reading
import RecordFilter.Proofs.Toml.DistinctKeys
import RecordFilter.Proofs.Config.Overlay
import RecordFilter.Proofs.Formula.QuotedTexts
import RecordFilter.Proofs.Session
