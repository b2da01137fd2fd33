import RecordRules.Check
import RecordRules.Command.Arguments
import RecordRules.Command.Config
import RecordRules.Command.Run
import RecordRules.Date
import RecordRules.Date.Calendar
import RecordRules.Date.Loose
import RecordRules.Date.Strict
import RecordRules.Decimal
import RecordRules.Decimal.Read
import RecordRules.Digits
import RecordRules.Disk
import RecordRules.Disk.Tree
import RecordRules.Entries
import RecordRules.Json.Fault
import RecordRules.Json.Numeral
import RecordRules.Json.Print
import RecordRules.Json.Read
import RecordRules.Json.Respelled
import RecordRules.Json.Skim
import RecordRules.Json.Token
import RecordRules.Json.Typed
import RecordRules.Json.Value
import RecordRules.Loading
import RecordRules.Log.Event
import RecordRules.Log.Line
import RecordRules.Main
import RecordRules.Pattern
import RecordRules.Pattern.Expr
import RecordRules.Pattern.Fault
import RecordRules.Pattern.Meaning
import RecordRules.Pattern.Reader
import RecordRules.Pattern.Size
import RecordRules.Pattern.Span
import RecordRules.Pattern.Tree
import RecordRules.Record.Value
import RecordRules.Record.WireTransfer
import RecordRules.Rule.Defect
import RecordRules.Rule.Document
import RecordRules.Rule.Kind
import RecordRules.Rule.Node
import RecordRules.Rule.Resolve
import RecordRules.Rule.Store
import RecordRules.Template
import RecordRules.Text.Ascii
import RecordRules.Text.Blank
import RecordRules.Text.Quote
import RecordRules.Text.Utf8
import RecordRules.Unicode.Age
import RecordRules.Unicode.Boundary
import RecordRules.Unicode.CaseClass
import RecordRules.Unicode.Category
import RecordRules.Unicode.CharSet
import RecordRules.Unicode.Property
import RecordRules.Unicode.Script
import RecordRules.Unicode.ScriptUse
import RecordRules.Unicode.Trait
import RecordRules.Validation
import RecordRules.Proofs.Entries
import RecordRules.Proofs.Resolution.Walk
import RecordRules.Proofs.Resolution.Outcome
import RecordRules.Proofs.Resolution.Inheritance
import RecordRules.Proofs.FirstError
import RecordRules.Proofs.Validation.Collected
import RecordRules.Proofs.Validation.Checked
import RecordRules.Proofs.Store.Documents
import RecordRules.Proofs.Store.Findings
import RecordRules.Proofs.Validation.Reported
import RecordRules.Proofs.Validation.Inlined
import RecordRules.Proofs.Date.Strict
import RecordRules.Proofs.Date.Calendar
import RecordRules.Proofs.Date.Texts
import RecordRules.Proofs.Record.Alike
import RecordRules.Proofs.Resolution.Reach
import RecordRules.Proofs.Resolution.Flattened
import RecordRules.Proofs.Validation.Unasked
import RecordRules.Proofs.Loading.Files
import RecordRules.Proofs.Loading.Loaded
import RecordRules.Proofs.Store.History
import RecordRules.Proofs.Json.Printed
import RecordRules.Proofs.Command.Channels
import RecordRules.Proofs.Validation.Logged
import RecordRules.Proofs.Command.Begun
import RecordRules.Proofs.Command.Foretold
import RecordRules.Proofs.Date.Loose
import RecordRules.Proofs.Decimal.Numeric
import RecordRules.Proofs.Decimal.Written
import RecordRules.Proofs.Decimal.Value
import RecordRules.Proofs.Json.Typed
import RecordRules.Proofs.Record.Rewritten
import RecordRules.Proofs.Check.Limit
import RecordRules.Proofs.Check.Fields
import RecordRules.Proofs.Check.Texts
import RecordRules.Proofs.Check.Numbers
import RecordRules.Proofs.Template
import RecordRules.Proofs.Pattern.Covered
import RecordRules.Proofs.Pattern.Bare
import RecordRules.Proofs.Pattern.Run
import RecordRules.Proofs.Pattern.Inside
import RecordRules.Proofs.Pattern.Escapes
import RecordRules.Proofs.Pattern.Brackets
import RecordRules.Proofs.Pattern.Groups
import RecordRules.Proofs.Pattern.Branches
import RecordRules.Proofs.Pattern.Whole
import RecordRules.Proofs.Check.Patterns
import RecordRules.Proofs.Check.Complaints
import RecordRules.Proofs.Check.Worded
import RecordRules.Proofs.Check.Dates
import RecordRules.Proofs.Check.Spellings
import RecordRules.Proofs.Validation.Reworded
import RecordRules.Proofs.Log.Line
import RecordRules.Proofs.Command.Settings
import RecordRules.Proofs.Resolution.Depth
