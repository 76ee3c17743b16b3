import PagePolicy.Unicode.CodeTable
import PagePolicy.Unicode.Category
import PagePolicy.Unicode.Property
import PagePolicy.Unicode.Age
import PagePolicy.Unicode.Boundary
import PagePolicy.Unicode.Script
import PagePolicy.Unicode.Case
import PagePolicy.Unicode.Letter
import PagePolicy.Unicode.Visible
import PagePolicy.Unicode.Decomposition
import PagePolicy.Unicode.HostMapping
import PagePolicy.Unicode.Direction
import PagePolicy.Unicode.Joining
import PagePolicy.Unicode.Composition
import PagePolicy.Text.Blank
import PagePolicy.Text.Search
import PagePolicy.Text.Bytes
import PagePolicy.Text.Quoted
import PagePolicy.Text.Lowercase
import PagePolicy.Text.Reader
import PagePolicy.Regex.CharClass
import PagePolicy.Regex.Basic
import PagePolicy.Regex.Search
import PagePolicy.Regex.Property
import PagePolicy.Regex.Mode
import PagePolicy.Regex.Escape
import PagePolicy.Regex.Bracket
import PagePolicy.Regex.Parser
import PagePolicy.Regex.Flags
import PagePolicy.Regex.Literal
import PagePolicy.Host.Punycode
import PagePolicy.Host.Label
import PagePolicy.Host.Domain
import PagePolicy.Host.Address
import PagePolicy.Url.Percent
import PagePolicy.Url.Path
import PagePolicy.Url.Basic
import PagePolicy.Url.Parser
import PagePolicy.Properties
import PagePolicy.Event
import PagePolicy.Condition.Token
import PagePolicy.Condition.Lexer
import PagePolicy.Condition.Basic
import PagePolicy.Condition.Printer
import PagePolicy.Condition.Eval
import PagePolicy.Condition.Parser
import PagePolicy.Condition.TokenReader
import PagePolicy.Pattern.Glob
import PagePolicy.Pattern.Basic
import PagePolicy.Rule.Basic
import PagePolicy.Rule.Line
import PagePolicy.Rule.Text
import PagePolicy.Decision
import PagePolicy.Lint
import PagePolicy.Session
import PagePolicy.Command.Basic
import PagePolicy.Command.Arguments
import PagePolicy.Command.JsonValue
import PagePolicy.Command.Run
import PagePolicy.Main
import PagePolicy.Proofs.LastApplicable
import PagePolicy.Proofs.IdleRules
import PagePolicy.Proofs.Findings
import PagePolicy.Proofs.Text.Letters
import PagePolicy.Proofs.Text.Search
import PagePolicy.Proofs.Text.Trimmed
import PagePolicy.Proofs.Text.Lowercase
import PagePolicy.Proofs.Text.Replaced
import PagePolicy.Proofs.Text.Filled
import PagePolicy.Proofs.Text.Reader
import PagePolicy.Proofs.Text.Offsets
import PagePolicy.Proofs.Text.ByteOrder
import PagePolicy.Proofs.Unicode.Composition
import PagePolicy.Proofs.Condition.Tokens
import PagePolicy.Proofs.Condition.Grammar
import PagePolicy.Proofs.Condition.Legible
import PagePolicy.Proofs.Condition.Printed
import PagePolicy.Proofs.Condition.RoundTrip
import PagePolicy.Proofs.Condition.Spans
import PagePolicy.Proofs.Condition.Written
import PagePolicy.Proofs.Condition.Locality
import PagePolicy.Proofs.Condition.Progress
import PagePolicy.Proofs.Condition.Errors
import PagePolicy.Proofs.Condition.Signs
import PagePolicy.Proofs.Condition.LetterCase
import PagePolicy.Proofs.Regex.Search
import PagePolicy.Proofs.Regex.Spelled
import PagePolicy.Proofs.Regex.Parsed
import PagePolicy.Proofs.Regex.Closing
import PagePolicy.Proofs.Regex.ClosingGroup
import PagePolicy.Proofs.Regex.Flags
import PagePolicy.Proofs.Regex.Sticky
import PagePolicy.Proofs.Pattern.Language
import PagePolicy.Proofs.Pattern.Acceptance
import PagePolicy.Proofs.Host.Characters
import PagePolicy.Proofs.Host.Labels
import PagePolicy.Proofs.Url.Shape
import PagePolicy.Proofs.Url.HostText
import PagePolicy.Proofs.Url.Decoded
import PagePolicy.Proofs.Pattern.Hosts
import PagePolicy.Proofs.Pattern.Schemes
import PagePolicy.Proofs.Pattern.UnicodeHosts
import PagePolicy.Proofs.Pattern.HostStars
import PagePolicy.Proofs.Rule.Directives
import PagePolicy.Proofs.Rule.Patterns
import PagePolicy.Proofs.Rule.Lines
import PagePolicy.Proofs.Rule.Reading
import PagePolicy.Proofs.Rule.Joined
import PagePolicy.Proofs.Rule.Padding
import PagePolicy.Proofs.Command.LintReport
import PagePolicy.Proofs.Command.Check
import PagePolicy.Proofs.Condition.Understood
import PagePolicy.Proofs.Influence
import PagePolicy.Proofs.Derived
import PagePolicy.Proofs.Entries
import PagePolicy.Proofs.LatestWrite
