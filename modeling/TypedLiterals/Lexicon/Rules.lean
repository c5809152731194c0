import TypedLiterals.Lexicon.Pattern
import TypedLiterals.Token.Kind

/-!
The tables that say which texts are tokens, and the tables of the language: its punctuation, its
operators and its decimal numbers. Within a table the first entry that matches wins.
-/

namespace TypedLiterals

/-- One character that is a token by itself. -/
structure CharRule where
  char : Char
  kind : TokenKind
  /-- Characters that may not follow, because a longer token begins there. -/
  notBefore : List Char := []

namespace CharRule

def accepts (rule : CharRule) (c : Char) (next : Option Char) : Bool :=
  c = rule.char && !next.any rule.notBefore.contains

end CharRule

/-- A token with one fixed spelling, such as `==`. -/
structure SpellingRule where
  spelling : List Char
  kind : TokenKind

/-- A token described by what matches it, such as a regular expression. -/
structure PatternRule where
  pattern : Matcher
  kind : TokenKind

structure Rules where
  chars : List CharRule := []
  spellings : List SpellingRule := []
  patterns : List PatternRule := []

namespace Rules

/-- A table whose fixed spellings are not empty, so that every match moves on. -/
def Productive (rules : Rules) : Prop :=
  ∀ rule ∈ rules.spellings, rule.spelling ≠ []

instance (rules : Rules) : Decidable rules.Productive :=
  inferInstanceAs (Decidable (∀ rule ∈ rules.spellings, rule.spelling ≠ []))

end Rules

namespace Pattern

/-- Digits, a point, digits and perhaps an `f`, up to the edge of a word. -/
def decimalFraction : Pattern :=
  digit.some1.seq <| (char '.').seq <| digit.some1.seq <| (char 'f').optional.seq wordEdge

def decimalInteger : Pattern :=
  digit.some1.seq wordEdge

end Pattern

namespace Rules

def language : Rules where
  chars := [
    { char := '(', kind := .openParen },
    { char := ')', kind := .closeParen },
    { char := '{', kind := .openCurly },
    { char := '}', kind := .closeCurly },
    { char := '[', kind := .openBracket },
    { char := ']', kind := .closeBracket },
    { char := ',', kind := .comma },
    { char := ';', kind := .semicolon },
    { char := ':', kind := .colon },
    { char := '.', kind := .dot },
    { char := '?', kind := .question },
    { char := '~', kind := .tilde },
    { char := '%', kind := .percent },
    { char := '^', kind := .caret },
    { char := '*', kind := .star },
    { char := '=', kind := .assignment, notBefore := ['='] },
    { char := '!', kind := .not, notBefore := ['='] },
    { char := '<', kind := .less, notBefore := ['='] },
    { char := '>', kind := .greater, notBefore := ['='] },
    { char := '+', kind := .plus, notBefore := ['+', '='] },
    { char := '-', kind := .dash, notBefore := ['-', '=', '>'] },
    { char := '&', kind := .ampersand, notBefore := ['&'] },
    { char := '|', kind := .pipe, notBefore := ['|'] },
    -- A comment begins with a slash too.
    { char := '/', kind := .slash, notBefore := ['/', '*'] }]
  spellings := [
    ⟨['=', '='], .equals⟩,
    ⟨['!', '='], .notEquals⟩,
    ⟨['<', '='], .lessEquals⟩,
    ⟨['>', '='], .greaterEquals⟩,
    ⟨['&', '&'], .and⟩,
    ⟨['|', '|'], .or⟩,
    ⟨['-', '>'], .arrow⟩,
    ⟨['+', '+'], .plusPlus⟩,
    ⟨['-', '-'], .minusMinus⟩,
    ⟨['+', '='], .plusEquals⟩,
    ⟨['-', '='], .minusEquals⟩]
  patterns := [
    ⟨Pattern.decimalFraction, .floatingLiteral⟩,
    ⟨Pattern.decimalInteger, .integerLiteral⟩]

theorem language_productive : language.Productive := by decide

end Rules

end TypedLiterals
