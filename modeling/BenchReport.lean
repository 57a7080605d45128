import BenchReport.Binary64.Basic
import BenchReport.Binary64.Bits
import BenchReport.Binary64.Rounding
import BenchReport.Calendar
import BenchReport.Catalogue.Figure
import BenchReport.Catalogue.Outline
import BenchReport.CommandLine.Directive
import BenchReport.CommandLine.Help
import BenchReport.CommandLine.Invocation
import BenchReport.CommandLine.LogFilter
import BenchReport.CommandLine.Reading
import BenchReport.CommandLine.Run
import BenchReport.Decimal.Fixed
import BenchReport.Decimal.Layout
import BenchReport.Decimal.Numeral
import BenchReport.Decimal.Shortest
import BenchReport.Document.ChartScript
import BenchReport.Document.Data
import BenchReport.Document.Markdown
import BenchReport.Document.Markup
import BenchReport.Document.Page
import BenchReport.Document.StyleSheet
import BenchReport.Document.Summary
import BenchReport.Event
import BenchReport.Files.Error
import BenchReport.Files.Path
import BenchReport.Files.Store
import BenchReport.Job
import BenchReport.Json.Reader
import BenchReport.Json.Token
import BenchReport.Json.Value
import BenchReport.Json.Writer
import BenchReport.Label
import BenchReport.Main
import BenchReport.Pattern.Basic
import BenchReport.Pattern.Reader
import BenchReport.Pattern.Usable
import BenchReport.Problem
import BenchReport.Proofs.Binary64.Correct
import BenchReport.Proofs.Binary64.Halves
import BenchReport.Proofs.Binary64.Nearest
import BenchReport.Proofs.Binary64.Order
import BenchReport.Proofs.Binary64.Scaling
import BenchReport.Proofs.Binary64.Thousands
import BenchReport.Proofs.Binary64.Value
import BenchReport.Proofs.Calendar.Gregorian
import BenchReport.Proofs.Calendar.Written
import BenchReport.Proofs.Catalogue.FirstReport
import BenchReport.Proofs.CommandLine.Usable
import BenchReport.Proofs.Decimal.Correct
import BenchReport.Proofs.Decimal.Fixed
import BenchReport.Proofs.Decimal.Grammar
import BenchReport.Proofs.Decimal.Layout
import BenchReport.Proofs.Decimal.Numeral
import BenchReport.Proofs.Decimal.Places
import BenchReport.Proofs.Decimal.Shortest
import BenchReport.Proofs.Document.Canvases
import BenchReport.Proofs.Document.ChartData
import BenchReport.Proofs.Document.Escaping
import BenchReport.Proofs.Document.Export
import BenchReport.Proofs.Document.Faithfulness
import BenchReport.Proofs.Document.Marks
import BenchReport.Proofs.Document.Protection
import BenchReport.Proofs.Document.ScriptData
import BenchReport.Proofs.Document.ScriptEnd
import BenchReport.Proofs.Document.TableText
import BenchReport.Proofs.Document.Tables
import BenchReport.Proofs.Files.Folder
import BenchReport.Proofs.Files.Growth
import BenchReport.Proofs.Files.Names
import BenchReport.Proofs.Files.Rewrite
import BenchReport.Proofs.Files.Ways
import BenchReport.Proofs.Json.Grammar
import BenchReport.Proofs.Json.Lookup
import BenchReport.Proofs.Json.Moves
import BenchReport.Proofs.Json.Number
import BenchReport.Proofs.Json.Pretty
import BenchReport.Proofs.Json.Reading
import BenchReport.Proofs.Json.RoundTrip
import BenchReport.Proofs.Json.Spelling
import BenchReport.Proofs.Json.Token
import BenchReport.Proofs.Label.Alphabet
import BenchReport.Proofs.Label.Compact
import BenchReport.Proofs.Label.Grouped
import BenchReport.Proofs.Record.Integers
import BenchReport.Proofs.Record.Numbers
import BenchReport.Proofs.Record.Search
import BenchReport.Proofs.Record.Typed
import BenchReport.Proofs.Report.Agreement
import BenchReport.Proofs.Report.Alignment
import BenchReport.Proofs.Report.Exchanges
import BenchReport.Proofs.Report.FileNames
import BenchReport.Proofs.Report.Finiteness
import BenchReport.Proofs.Report.Isolation
import BenchReport.Proofs.Report.Overhead
import BenchReport.Proofs.Report.Presence
import BenchReport.Proofs.Report.Publication
import BenchReport.Proofs.Report.Requests
import BenchReport.Proofs.Report.Structure
import BenchReport.Proofs.Report.Timestamp
import BenchReport.Proofs.Report.Writing
import BenchReport.Proofs.Results.Answers
import BenchReport.Proofs.Results.Given
import BenchReport.Proofs.Results.Growth
import BenchReport.Proofs.Results.Loading
import BenchReport.Proofs.Results.Looking
import BenchReport.Proofs.Results.Newest
import BenchReport.Proofs.Results.Precedence
import BenchReport.Proofs.Results.Separation
import BenchReport.Proofs.Settings.Changes
import BenchReport.Proofs.Settings.Environment
import BenchReport.Proofs.Settings.Usable
import BenchReport.Proofs.Text.Digits
import BenchReport.Proofs.Text.Order
import BenchReport.Proofs.Text.Split
import BenchReport.Proofs.Text.Trim
import BenchReport.Publication
import BenchReport.Record
import BenchReport.Report.Assembly
import BenchReport.Report.Model
import BenchReport.Results.Collect
import BenchReport.Results.Fault
import BenchReport.Results.Inputs
import BenchReport.Results.Load
import BenchReport.Results.Locate
import BenchReport.Settings
import BenchReport.Suite
import BenchReport.Text.Alphabetic
import BenchReport.Text.Alphanumeric
import BenchReport.Text.Basic
import BenchReport.Text.Digits
