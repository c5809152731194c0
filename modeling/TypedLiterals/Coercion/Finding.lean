import TypedLiterals.Diagnostic.Issue
import TypedLiterals.Number.Text
import TypedLiterals.Token.Kind
import TypedLiterals.Types.Primitive

/-!
What can be wrong with an expression, and how it is reported.
-/

namespace TypedLiterals

inductive Finding where
  | tooLarge (text : String) (type : PrimType) (greatest : Int)
  | tooSmall (text : String) (type : PrimType) (least : Int)
  | notInteger (text : String)
  | notIntegerType (type : PrimType)
  /-- The text of a literal is not in the form that its kind asks for. -/
  | unreadable (kind : TokenKind) (text : String)
  /-- A literal cannot have the type that is expected. -/
  | unexpectedLiteral (kind : TokenKind) (text : String) (type : PrimType)
  /-- The value that is stored differs from the one that is written. -/
  | rounded (text : String) (stored : Binary64)
  | fractional (text : String)
  | beyondInt64 (text : String)
  | negative (text : String)
  | undeclared (name : String)
  | notExpression (kind : TokenKind) (text : String)
  | endOfInput
deriving DecidableEq

namespace Finding

def kind : Finding → IssueKind
  | tooLarge .. => .integerOverflow
  | tooSmall .. => .integerUnderflow
  | notInteger _ | unreadable .. => .malformedLiteral
  | notIntegerType _ | fractional _ | beyondInt64 _ | negative _ => .invalidTypeConversion
  | rounded .. => .lossOfPrecision
  | undeclared _ => .unknownVariable
  | unexpectedLiteral .. | notExpression .. | endOfInput => .unexpectedToken

def message : Finding → String
  | tooLarge text type greatest =>
    s!"The literal '{text}' is too large for the integer type '{type.name}'. " ++
      s!"The maximum value is '{writeInteger greatest}'."
  | tooSmall text type least =>
    s!"The literal '{text}' is too small for the integer type '{type.name}'. " ++
      s!"The minimum value is '{writeInteger least}'."
  | notInteger text => s!"The literal '{text}' is not a valid integer."
  | notIntegerType type => s!"The type '{type.name}' is not an integer type."
  | unreadable kind text => s!"The literal '{text}' could not be read as a {kind.name}."
  | unexpectedLiteral kind text type =>
    s!"Unexpected {kind.name} '{text}' where a value of type '{type.name}' is expected."
  | rounded text stored =>
    s!"The literal '{text}' is stored in a 32bit float which will result in the effective " ++
      s!"value {stored.text}"
  | fractional text =>
    s!"The floating point number literal '{text}' cannot be implicitly converted to an " ++
      "integer type due to non zero decimal values."
  | beyondInt64 text =>
    s!"The floating point number literal '{text}' cannot be implicitly converted to an " ++
      "integer type because it is outside of the 64bit integer range."
  | negative text =>
    s!"The integer literal '{text}' cannot be implicitly converted to an unsigned integer " ++
      "because it is negative."
  | undeclared name => s!"The variable '{name}' is not declared."
  | notExpression kind text => s!"Unexpected {kind.name} '{text}', expected an expression."
  | endOfInput => "Unexpected end of input, expected an expression."

def issueAt (f : Finding) (location : Location) : Issue :=
  ⟨f.kind, location, f.message⟩

end Finding

end TypedLiterals
