import SearchQuery.Config.Basic
import SearchQuery.Config.Decode
import SearchQuery.Expect.Basic
import SearchQuery.Expect.Exact
import SearchQuery.Expect.Failure
import SearchQuery.Expect.TextPattern
import SearchQuery.Grammar.Clause
import SearchQuery.Grammar.Cursor
import SearchQuery.Grammar.Error
import SearchQuery.Grammar.Excerpt
import SearchQuery.Grammar.Machine
import SearchQuery.Grammar.Parse
import SearchQuery.Json.Basic
import SearchQuery.Json.Numeral
import SearchQuery.Json.Printer
import SearchQuery.Json.Scan
import SearchQuery.Json.Skip
import SearchQuery.Json.Text
import SearchQuery.Json.Value
import SearchQuery.Proofs.Acceptance
import SearchQuery.Proofs.Association
import SearchQuery.Proofs.Balance
import SearchQuery.Proofs.Breakage
import SearchQuery.Proofs.Caret
import SearchQuery.Proofs.Completeness
import SearchQuery.Proofs.Cursor
import SearchQuery.Proofs.DefaultField
import SearchQuery.Proofs.Diagnosis
import SearchQuery.Proofs.Difference
import SearchQuery.Proofs.Drawing
import SearchQuery.Proofs.Economy
import SearchQuery.Proofs.Encoding
import SearchQuery.Proofs.Feed
import SearchQuery.Proofs.Grouping
import SearchQuery.Proofs.Joining
import SearchQuery.Proofs.Lawful
import SearchQuery.Proofs.Layout
import SearchQuery.Proofs.Lexemes
import SearchQuery.Proofs.Lexing
import SearchQuery.Proofs.Likeness
import SearchQuery.Proofs.Lines
import SearchQuery.Proofs.Lockstep
import SearchQuery.Proofs.Machine
import SearchQuery.Proofs.Nesting
import SearchQuery.Proofs.NestingLimit
import SearchQuery.Proofs.Places
import SearchQuery.Proofs.Pointing
import SearchQuery.Proofs.Printing
import SearchQuery.Proofs.Progress
import SearchQuery.Proofs.Pulls
import SearchQuery.Proofs.Quoting
import SearchQuery.Proofs.Reading
import SearchQuery.Proofs.Replay
import SearchQuery.Proofs.Reprint
import SearchQuery.Proofs.Rereading
import SearchQuery.Proofs.RoundTrip
import SearchQuery.Proofs.Scanning
import SearchQuery.Proofs.Scope
import SearchQuery.Proofs.Session
import SearchQuery.Proofs.Settings
import SearchQuery.Proofs.Shape
import SearchQuery.Proofs.Skipping
import SearchQuery.Proofs.Soundness
import SearchQuery.Proofs.Spans
import SearchQuery.Proofs.Splicing
import SearchQuery.Proofs.Steps
import SearchQuery.Proofs.Strays
import SearchQuery.Proofs.Supply
import SearchQuery.Proofs.Viability
import SearchQuery.Proofs.Yield
import SearchQuery.Query.Basic
import SearchQuery.Query.Encode
import SearchQuery.Query.Node
import SearchQuery.Query.Operator
import SearchQuery.Query.Outline
import SearchQuery.Query.Printer
import SearchQuery.Text.Blank
import SearchQuery.Text.Combining
import SearchQuery.Text.Offset
import SearchQuery.Text.Printable
import SearchQuery.Text.Quoted
import SearchQuery.Text.Ranges
import SearchQuery.Token.Basic
import SearchQuery.Token.Feed
import SearchQuery.Token.LexError
import SearchQuery.Token.Quotes
import SearchQuery.Token.Recorded
import SearchQuery.Token.Rule
import SearchQuery.Token.Session
import SearchQuery.Token.Spacing
import SearchQuery.Token.Tokenizer
