import Postulate.Calendar.Date
import Postulate.Calendar.DateTime
import Postulate.Calendar.Fields
import Postulate.Calendar.Format
import Postulate.Calendar.Reading
import Postulate.Calendar.Timestamp
import Postulate.Chain.Clause
import Postulate.Chain.Error
import Postulate.Chain.Evaluation
import Postulate.Chain.Focus
import Postulate.Chain.Question
import Postulate.Chain.Step
import Postulate.Chain.Transformation
import Postulate.Conversion
import Postulate.Email
import Postulate.Journal
import Postulate.Json.Basic
import Postulate.Json.Token
import Postulate.Json.Tree
import Postulate.Json.Writing
import Postulate.Log.Entry
import Postulate.Log.Event
import Postulate.Log.Ledger
import Postulate.Log.Logger
import Postulate.Log.Metrics
import Postulate.Log.Severity
import Postulate.Number.Binary
import Postulate.Number.Decimal
import Postulate.Number.Floating
import Postulate.Number.Grouped
import Postulate.Number.Integer
import Postulate.Proofs.Calendar.DayNumber
import Postulate.Proofs.Calendar.Days
import Postulate.Proofs.Calendar.FormatLists
import Postulate.Proofs.Calendar.Instant
import Postulate.Proofs.Calendar.Plain
import Postulate.Proofs.Calendar.Resolution
import Postulate.Proofs.Calendar.RoundTrip
import Postulate.Proofs.Calendar.Unambiguous
import Postulate.Proofs.Calendar.Written
import Postulate.Proofs.Chain.Acts
import Postulate.Proofs.Chain.Agreement
import Postulate.Proofs.Chain.Blind
import Postulate.Proofs.Chain.Extent
import Postulate.Proofs.Chain.FirstStop
import Postulate.Proofs.Chain.Linking
import Postulate.Proofs.Chain.Malformed
import Postulate.Proofs.Chain.Marks
import Postulate.Proofs.Chain.Origin
import Postulate.Proofs.Chain.Own
import Postulate.Proofs.Conversion.Surroundings
import Postulate.Proofs.Email.Grammar
import Postulate.Proofs.Email.Pattern
import Postulate.Proofs.Json.Grammar
import Postulate.Proofs.Json.Lexeme
import Postulate.Proofs.Json.Members
import Postulate.Proofs.Json.Numeral
import Postulate.Proofs.Json.Scan
import Postulate.Proofs.Json.Text
import Postulate.Proofs.Json.Units
import Postulate.Proofs.Json.Written
import Postulate.Proofs.Log.Line
import Postulate.Proofs.Log.Members
import Postulate.Proofs.Number.Characters
import Postulate.Proofs.Number.Literal
import Postulate.Proofs.Number.Nearest
import Postulate.Proofs.Number.Nested
import Postulate.Proofs.Number.Scripts
import Postulate.Proofs.Number.Separated
import Postulate.Proofs.Number.Spelling
import Postulate.Proofs.Number.Whole
import Postulate.Proofs.Text.Digits
import Postulate.Proofs.Text.Letters
import Postulate.Proofs.Theory.Apart
import Postulate.Proofs.Theory.Atomicity
import Postulate.Proofs.Theory.Blind
import Postulate.Proofs.Theory.Chronicle
import Postulate.Proofs.Theory.Configuration
import Postulate.Proofs.Theory.Counters
import Postulate.Proofs.Theory.KnownMembers
import Postulate.Proofs.Theory.LifeCycle
import Postulate.Proofs.Theory.Logging
import Postulate.Proofs.Theory.Names
import Postulate.Proofs.Theory.Order
import Postulate.Proofs.Theory.Outcomes
import Postulate.Proofs.Theory.Pass
import Postulate.Proofs.Theory.Questions
import Postulate.Proofs.Theory.Registration
import Postulate.Proofs.Theory.ReportText
import Postulate.Proofs.Theory.Turns
import Postulate.Proofs.Theory.Verdict
import Postulate.Text.CodePoints
import Postulate.Text.Digits
import Postulate.Text.GraphemeExtend
import Postulate.Text.Lookahead
import Postulate.Text.Pieces
import Postulate.Text.Printable
import Postulate.Text.Quoted
import Postulate.Text.WhiteSpace
import Postulate.Text.WordCharacters
import Postulate.TextCheck
import Postulate.Theory.Basic
import Postulate.Theory.Command
import Postulate.Theory.Config
import Postulate.Theory.Error
import Postulate.Theory.Hypothesis
import Postulate.Theory.Report
import Postulate.Value
