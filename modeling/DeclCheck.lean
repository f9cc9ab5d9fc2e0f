import DeclCheck.Main
import DeclCheck.Proofs.CodeLine.Order
import DeclCheck.Proofs.Lexeme.Presence
import DeclCheck.Proofs.Checker.Run
import DeclCheck.Proofs.Source.CodeLines
import DeclCheck.Proofs.Source.Recording
import DeclCheck.Proofs.Statement.Declared
import DeclCheck.Proofs.Statement.Grammar
import DeclCheck.Proofs.Program.Form
import DeclCheck.Proofs.Program.DeclaredNames
import DeclCheck.Proofs.Program.WellFormed
import DeclCheck.Proofs.Literal.Mismatch
import DeclCheck.Proofs.Literal.Widening
import DeclCheck.Proofs.Literal.Numeric
import DeclCheck.Proofs.Literal.Integer
import DeclCheck.Proofs.Literal.Acceptance
import DeclCheck.Proofs.Literal.Recognition
import DeclCheck.Proofs.Program.Trackers
import DeclCheck.Proofs.Program.Locality
import DeclCheck.Proofs.Program.Widening
import DeclCheck.Proofs.Lexeme.Regular
import DeclCheck.Proofs.Lexeme.Spacing
import DeclCheck.Proofs.Lexeme.Greedy
import DeclCheck.Proofs.Source.LineLexemes
import DeclCheck.Proofs.Source.Layout
import DeclCheck.Proofs.Source.Concatenation
import DeclCheck.Proofs.Decimal.Numeral
import DeclCheck.Proofs.Json.Token
import DeclCheck.Proofs.Json.Spelling
import DeclCheck.Proofs.Json.RoundTrip
import DeclCheck.Proofs.Json.Fields
import DeclCheck.Proofs.Feedback.Codec
import DeclCheck.Proofs.Feedback.RoundTrip
import DeclCheck.Proofs.Typing.Redeclaration
import DeclCheck.Proofs.Statement.Deviation
import DeclCheck.Proofs.Feedback.Location
import DeclCheck.Proofs.Program.Trace
import DeclCheck.Proofs.Source.Insertion
import DeclCheck.Proofs.Program.DeclarationFix
import DeclCheck.Proofs.Checker.Reading
import DeclCheck.Proofs.Statement.Reading
import DeclCheck.Proofs.Typing.Reading
import DeclCheck.Proofs.Program.Verdicts
import DeclCheck.Proofs.Program.Renaming
import DeclCheck.Proofs.Text.Lines
import DeclCheck.Proofs.Program.TextReport
import DeclCheck.Proofs.Sorting
import DeclCheck.Proofs.Feedback.Ranking
import DeclCheck.Proofs.Feedback.Merge
import DeclCheck.Proofs.SymbolTable.History
import DeclCheck.Proofs.Token.FirstMatch
import DeclCheck.Proofs.Program.LineLogs
import DeclCheck.Proofs.CommandLine.Arguments
import DeclCheck.Proofs.CommandLine.Outcome
