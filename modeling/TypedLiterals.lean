import TypedLiterals.Text.WordRanges
import TypedLiterals.Text.Character
import TypedLiterals.Source.Cursor
import TypedLiterals.Source.Excerpt
import TypedLiterals.Token.Kind
import TypedLiterals.Token.Basic
import TypedLiterals.Token.Lexer
import TypedLiterals.Token.Reader
import TypedLiterals.Lexicon.Pattern
import TypedLiterals.Lexicon.PatternText
import TypedLiterals.Lexicon.Rules
import TypedLiterals.Lexicon.Recognizer
import TypedLiterals.Number.Text
import TypedLiterals.Number.Binary
import TypedLiterals.Types.Primitive
import TypedLiterals.Expression.Node
import TypedLiterals.Expression.Arena
import TypedLiterals.Diagnostic.LexicalError
import TypedLiterals.Diagnostic.Issue
import TypedLiterals.Coercion.Finding
import TypedLiterals.Coercion.Verdict
import TypedLiterals.Coercion.Pass
import TypedLiterals.CommandLine.Arguments
import TypedLiterals.CommandLine.Run
import TypedLiterals.Main
import TypedLiterals.Proofs.Source.Place
import TypedLiterals.Proofs.Source.Returns
import TypedLiterals.Proofs.Lexicon.Delimiters
import TypedLiterals.Proofs.Lexicon.Scan
import TypedLiterals.Proofs.Lexicon.PatternMatch
import TypedLiterals.Proofs.Lexicon.NumberPattern
import TypedLiterals.Proofs.Lexicon.Separation
import TypedLiterals.Proofs.Lexicon.Lexeme
import TypedLiterals.Proofs.Lexicon.Follower
import TypedLiterals.Proofs.Lexicon.Candidate
import TypedLiterals.Proofs.Number.Rounding
import TypedLiterals.Proofs.Number.Whole
import TypedLiterals.Proofs.Number.PointText
import TypedLiterals.Proofs.Number.DecimalText
import TypedLiterals.Proofs.Number.Format
import TypedLiterals.Proofs.Number.ShortestText
import TypedLiterals.Proofs.Token.Run
import TypedLiterals.Proofs.Token.Layout
import TypedLiterals.Proofs.Token.NumberTokens
import TypedLiterals.Proofs.Token.Order
import TypedLiterals.Proofs.Token.LongestMatch
import TypedLiterals.Proofs.Token.Refusal
import TypedLiterals.Proofs.Token.Passage
import TypedLiterals.Proofs.Token.LineBreak
import TypedLiterals.Proofs.Token.LineEnding
import TypedLiterals.Proofs.Token.Spaced
import TypedLiterals.Proofs.Token.ErrorPlace
import TypedLiterals.Proofs.Token.QuotedText
import TypedLiterals.Proofs.Coercion.Accounting
import TypedLiterals.Proofs.Coercion.Locality
import TypedLiterals.Proofs.Coercion.LexedLiterals
import TypedLiterals.Proofs.Coercion.IntegerRange
import TypedLiterals.Proofs.Coercion.FloatAsInt
import TypedLiterals.Proofs.Coercion.FloatAsFloat
import TypedLiterals.Proofs.Coercion.Handles
import TypedLiterals.Proofs.Coercion.IntegerNodes
import TypedLiterals.Proofs.Coercion.WholeFloat
import TypedLiterals.Proofs.Coercion.EndOfInput
import TypedLiterals.Proofs.CommandLine.Report
import TypedLiterals.Proofs.Source.Diagram
import TypedLiterals.Proofs.Token.Caret
import TypedLiterals.Proofs.Token.LeadingNumber
import TypedLiterals.Proofs.Token.ClosingQuote
import TypedLiterals.Proofs.Token.EscapeSegments
import TypedLiterals.Proofs.Number.IntegerForm
import TypedLiterals.Proofs.Coercion.Spelling
import TypedLiterals.Proofs.Coercion.Malformed
import TypedLiterals.Proofs.Token.Reading
import TypedLiterals.Proofs.Token.Rounds
import TypedLiterals.Proofs.Number.IntegerGrammar
import TypedLiterals.Proofs.Source.Moves
import TypedLiterals.Proofs.Token.Slices
import TypedLiterals.Proofs.Types.Values
