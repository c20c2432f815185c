import CaseScript.Action
import CaseScript.Action.Json
import CaseScript.Csv.Dialect
import CaseScript.Csv.File
import CaseScript.Csv.Read
import CaseScript.Csv.Record
import CaseScript.Csv.Write
import CaseScript.Disk
import CaseScript.Glob
import CaseScript.Json.Basic
import CaseScript.Json.Parse
import CaseScript.Json.Shape
import CaseScript.Json.Token
import CaseScript.Path
import CaseScript.Proofs.Csv.Record
import CaseScript.Proofs.Csv.RoundTrip
import CaseScript.Proofs.Run.Host
import CaseScript.Proofs.Run.ScopeCheck
import CaseScript.Proofs.Run.Step
import CaseScript.Proofs.Run.Valid
import CaseScript.Proofs.Syntax.Balance
import CaseScript.Proofs.Syntax.Grammar
import CaseScript.Proofs.Syntax.Lexeme
import CaseScript.Proofs.Syntax.RoundTrip
import CaseScript.Proofs.Table.Bounds
import CaseScript.Proofs.Table.Operation
import CaseScript.Proofs.Table.Valid
import CaseScript.Proofs.World
import CaseScript.Query
import CaseScript.Regex
import CaseScript.Run.Error
import CaseScript.Run.Host
import CaseScript.Run.Program
import CaseScript.Run.Step
import CaseScript.Samples
import CaseScript.Scopes
import CaseScript.Settings.Basic
import CaseScript.Settings.Decode
import CaseScript.Settings.Json
import CaseScript.Settings.Yaml
import CaseScript.Shelf
import CaseScript.Source.Error
import CaseScript.Syntax.Error
import CaseScript.Syntax.Expected
import CaseScript.Syntax.Form
import CaseScript.Syntax.Reader
import CaseScript.Syntax.Script
import CaseScript.Syntax.Token
import CaseScript.Syntax.Trivia
import CaseScript.Table.Basic
import CaseScript.Table.Columns
import CaseScript.Table.Combine
import CaseScript.Table.Error
import CaseScript.Table.Filter
import CaseScript.Table.Json
import CaseScript.Template
import CaseScript.Text.Alphanumeric
import CaseScript.Text.Blank
import CaseScript.Text.Hexadecimal
import CaseScript.Text.LowerCase
import CaseScript.Text.Quotation
import CaseScript.Text.Ranges
import CaseScript.Text.Utf8
import CaseScript.World
import CaseScript.Yaml.Cursor
import CaseScript.Yaml.Node
import CaseScript.Yaml.Scalar
import CaseScript.Yaml.Token
import CaseScript.Proofs.Syntax.Language
import CaseScript.Proofs.Run.Compose
import CaseScript.Proofs.Run.InPlace
import CaseScript.Proofs.Run.Failure
import CaseScript.Proofs.Run.Footprint
import CaseScript.Proofs.Syntax.Remainder
import CaseScript.Proofs.Syntax.Compose
import CaseScript.Proofs.Run.Point
import CaseScript.Proofs.Run.Calls
import CaseScript.Proofs.Run.Shelf
import CaseScript.Proofs.Run.Shared
import CaseScript.Proofs.Table.Place
import CaseScript.Proofs.Table.Join
import CaseScript.Proofs.Table.Union
import CaseScript.Proofs.Json.Text
import CaseScript.Proofs.Json.RoundTrip
import CaseScript.Proofs.Syntax.Cut
import CaseScript.Proofs.Syntax.Missing
import CaseScript.Proofs.Syntax.Completion
import CaseScript.Proofs.Syntax.Order
import CaseScript.Proofs.Glob
import CaseScript.Proofs.Regex
import CaseScript.Proofs.Template
import CaseScript.Proofs.Table.FilterFirst
import CaseScript.Proofs.Table.Product
import CaseScript.Proofs.Table.Distinct
import CaseScript.Proofs.Table.Stack
import CaseScript.Proofs.Table.Edit
import CaseScript.Proofs.Table.Build
import CaseScript.Proofs.Csv.Reading
import CaseScript.Proofs.Table.Undo
import CaseScript.Proofs.Syntax.Report
import CaseScript.Proofs.Syntax.Bytes
import CaseScript.Proofs.Syntax.Progress
