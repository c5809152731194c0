/-!
The kinds of token and their names.
-/

namespace TypedLiterals

/-- What a token is. The constructors that end in `Word` are the reserved words. -/
inductive TokenKind where
  | identifier
  | integerLiteral | floatingLiteral | boolLiteral | stringLiteral
  | tilde
  | openBracket | closeBracket | openCurly | closeCurly | openParen | closeParen
  | assignment | equals | not | notEquals
  | less | lessEquals | greater | greaterEquals
  | or | and | ampersand | pipe | caret
  | dot | semicolon | colon | question | comma | arrow
  | plusPlus | minusMinus | plusEquals | minusEquals
  | plus | dash | slash | star | percent
  | letWord | constWord | fnWord | returnWord | ifWord | elseWord | whileWord
deriving DecidableEq, Inhabited

namespace TokenKind

def all : List TokenKind := [
  .identifier,
  .integerLiteral, .floatingLiteral, .boolLiteral, .stringLiteral,
  .tilde,
  .openBracket, .closeBracket, .openCurly, .closeCurly, .openParen, .closeParen,
  .assignment, .equals, .not, .notEquals,
  .less, .lessEquals, .greater, .greaterEquals,
  .or, .and, .ampersand, .pipe, .caret,
  .dot, .semicolon, .colon, .question, .comma, .arrow,
  .plusPlus, .minusMinus, .plusEquals, .minusEquals,
  .plus, .dash, .slash, .star, .percent,
  .letWord, .constWord, .fnWord, .returnWord, .ifWord, .elseWord, .whileWord ]

def name : TokenKind → String
  | .identifier => "Identifier"
  | .integerLiteral => "IntegerLiteral"
  | .floatingLiteral => "FloatingLiteral"
  | .boolLiteral => "BoolLiteral"
  | .stringLiteral => "StringLiteral"
  | .tilde => "Tilde"
  | .openBracket => "OpenBracket"
  | .closeBracket => "CloseBracket"
  | .openCurly => "OpenCurly"
  | .closeCurly => "CloseCurly"
  | .openParen => "OpenParen"
  | .closeParen => "CloseParen"
  | .assignment => "Assignment"
  | .equals => "Equals"
  | .not => "Not"
  | .notEquals => "NotEquals"
  | .less => "Less"
  | .lessEquals => "LessEquals"
  | .greater => "Greater"
  | .greaterEquals => "GreaterEquals"
  | .or => "Or"
  | .and => "And"
  | .ampersand => "Ampersand"
  | .pipe => "Pipe"
  | .caret => "Caret"
  | .dot => "Dot"
  | .semicolon => "Semicolon"
  | .colon => "Colon"
  | .question => "Question"
  | .comma => "Comma"
  | .arrow => "Arrow"
  | .plusPlus => "PlusPlus"
  | .minusMinus => "MinusMinus"
  | .plusEquals => "PlusEquals"
  | .minusEquals => "MinusEquals"
  | .plus => "Plus"
  | .dash => "Dash"
  | .slash => "Slash"
  | .star => "Star"
  | .percent => "Percent"
  | .letWord => "Let"
  | .constWord => "Const"
  | .fnWord => "Fn"
  | .returnWord => "Return"
  | .ifWord => "If"
  | .elseWord => "Else"
  | .whileWord => "While"

/-- Literals denote a constant: a number, a truth value or a string. -/
def isLiteral : TokenKind → Bool
  | .integerLiteral | .floatingLiteral | .boolLiteral | .stringLiteral => true
  | _ => false

/-- The kind of a name: a reserved word, one of the two truth values, or an identifier. -/
def ofWord : String → TokenKind
  | "let" => .letWord
  | "const" => .constWord
  | "fn" => .fnWord
  | "return" => .returnWord
  | "if" => .ifWord
  | "else" => .elseWord
  | "while" => .whileWord
  | "true" => .boolLiteral
  | "false" => .boolLiteral
  | _ => .identifier

end TokenKind

end TypedLiterals
