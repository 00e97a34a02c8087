import Almanac.CacheSafety
import Almanac.Calendar.Arithmetic
import Almanac.Calendar.Date
import Almanac.Calendar.Moment
import Almanac.Calendar.Written
import Almanac.CalendarUnit
import Almanac.Cli.Arguments
import Almanac.Cli.Failure
import Almanac.Cli.Program
import Almanac.Cli.Report
import Almanac.Cli.Session
import Almanac.Cli.Setup
import Almanac.Cli.Style
import Almanac.DateField
import Almanac.DateMath.Expression
import Almanac.DateMath.Text
import Almanac.Decimal
import Almanac.Fault
import Almanac.Fault.Code
import Almanac.Fault.Diagnostic
import Almanac.FileTree
import Almanac.Index
import Almanac.Input
import Almanac.Instant
import Almanac.Json.Binary64
import Almanac.Json.Parser
import Almanac.Json.Printer
import Almanac.Json.Value
import Almanac.Layout
import Almanac.Log
import Almanac.Log.Filter
import Almanac.Main
import Almanac.Mapping
import Almanac.Pattern
import Almanac.Pattern.Field
import Almanac.Pattern.Findings
import Almanac.Pattern.Reader
import Almanac.Pattern.Template
import Almanac.Power
import Almanac.Proofs.Calendar.Adding
import Almanac.Proofs.Calendar.Moment
import Almanac.Proofs.Calendar.Months
import Almanac.Proofs.Calendar.Nesting
import Almanac.Proofs.Calendar.Offsets
import Almanac.Proofs.Calendar.Partition
import Almanac.Proofs.Calendar.Units
import Almanac.Proofs.DateField
import Almanac.Proofs.DateMath.Anchor
import Almanac.Proofs.DateMath.Composition
import Almanac.Proofs.DateMath.Evaluation
import Almanac.Proofs.DateMath.Faults
import Almanac.Proofs.DateMath.Grammar
import Almanac.Proofs.DateMath.Order
import Almanac.Proofs.DateMath.Reading
import Almanac.Proofs.DateMath.RoundTrip
import Almanac.Proofs.DateMath.Written
import Almanac.Proofs.Decimal
import Almanac.Proofs.Fault.Caret
import Almanac.Proofs.Fault.Place
import Almanac.Proofs.Index
import Almanac.Proofs.Json.Record
import Almanac.Proofs.Json.RoundTrip
import Almanac.Proofs.Json.Thinned
import Almanac.Proofs.Json.Token
import Almanac.Proofs.Layout
import Almanac.Proofs.Layout.Faults
import Almanac.Proofs.Layout.Joining
import Almanac.Proofs.Layout.Spelling
import Almanac.Proofs.Mapping
import Almanac.Proofs.Mapping.Written
import Almanac.Proofs.Outcome
import Almanac.Proofs.Pattern.Complete
import Almanac.Proofs.Pattern.Faults
import Almanac.Proofs.Pattern.Findings
import Almanac.Proofs.Pattern.FullDate
import Almanac.Proofs.Pattern.Grammar
import Almanac.Proofs.Pattern.Items
import Almanac.Proofs.Pattern.Reader
import Almanac.Proofs.Pattern.RoundTrip
import Almanac.Proofs.Pattern.Runs
import Almanac.Proofs.Pattern.Segments
import Almanac.Proofs.Pattern.Template
import Almanac.Proofs.Pattern.Verbatim
import Almanac.Proofs.Pattern.Written
import Almanac.Proofs.Reading
import Almanac.Proofs.Resolver.Advancing
import Almanac.Proofs.Resolver.Bytes
import Almanac.Proofs.Resolver.Caching
import Almanac.Proofs.Resolver.Default
import Almanac.Proofs.Resolver.Faults
import Almanac.Proofs.Resolver.Order
import Almanac.Proofs.Resolver.Stages
import Almanac.Proofs.Text.Bytes
import Almanac.Proofs.Text.Case
import Almanac.Proofs.Text.Digits
import Almanac.Proofs.Text.Encoding
import Almanac.Proofs.Text.Numeral
import Almanac.Proofs.Text.Run
import Almanac.Proofs.Timestamp.Agreement
import Almanac.Proofs.Timestamp.Alphabet
import Almanac.Proofs.Timestamp.Faults
import Almanac.Proofs.Timestamp.Grammar
import Almanac.Proofs.Timestamp.OptionalTime
import Almanac.Proofs.Timestamp.Scan
import Almanac.Proofs.Timestamp.Spelling
import Almanac.Proofs.Timestamp.Strict
import Almanac.Proofs.Timestamp.Written
import Almanac.Proofs.Tolerance
import Almanac.Proofs.Window
import Almanac.Proofs.Wire
import Almanac.Query
import Almanac.Reading
import Almanac.Regular
import Almanac.Regular.Brackets
import Almanac.Regular.Charset
import Almanac.Regular.Cursor
import Almanac.Regular.Encoding
import Almanac.Regular.Escape
import Almanac.Regular.Expression
import Almanac.Regular.Fault
import Almanac.Regular.Literals
import Almanac.Regular.Meaning
import Almanac.Regular.Nodes
import Almanac.Regular.Openings
import Almanac.Regular.Program
import Almanac.Regular.Reader
import Almanac.Regular.Size
import Almanac.Regular.Tree
import Almanac.Resolver
import Almanac.Resolver.Range
import Almanac.Scale
import Almanac.Span
import Almanac.Text.Alphabetic
import Almanac.Text.Ascii
import Almanac.Text.Blank
import Almanac.Text.Bytes
import Almanac.Text.ControlSequence
import Almanac.Text.ExtendingMark
import Almanac.Text.Ignorable
import Almanac.Text.Integer
import Almanac.Text.Numeric
import Almanac.Text.Quoted
import Almanac.Text.Ranges
import Almanac.Text.Unshown
import Almanac.Timestamp.Canonical
import Almanac.Timestamp.OptionalTime
import Almanac.Timestamp.Scan
import Almanac.Tolerance
import Almanac.Window
import Almanac.Wire
import Almanac.Word
import Almanac.Proofs.Fault.Position
