import TypedLiterals.Number.Text
import TypedLiterals.Token.Basic
import TypedLiterals.Types.Primitive

/-!
Expressions with a type: literals and references to variables, each with the token that it was made
from.
-/

namespace TypedLiterals

structure Numeric where
  token : Token
  type : PrimType
  expected : Option PrimType := none
  /-- The text that stands for the value in place of the token's, if they differ. -/
  replacement : Option String := none
deriving DecidableEq

namespace Numeric

def text (n : Numeric) : String :=
  n.replacement.getD n.token.text

end Numeric

inductive Literal where
  | float (number : Numeric)
  | int (number : Numeric)
  | bool (token : Token)
deriving DecidableEq

namespace Literal

/-- A floating-point literal whose type was asked for. -/
def castFloat (token : Token) (type : PrimType) (replacement : Option String := none) : Literal :=
  float ⟨token, type, some type, replacement⟩

def castInt (token : Token) (type : PrimType) (replacement : Option String := none) : Literal :=
  int ⟨token, type, some type, replacement⟩

def token : Literal → Token
  | float n | int n => n.token
  | bool t => t

def type : Literal → PrimType
  | float n | int n => n.type
  | bool _ => .bool

def expected? : Literal → Option PrimType
  | float n | int n => n.expected
  | bool _ => none

def replacement? : Literal → Option String
  | float n | int n => n.replacement
  | bool _ => none

def text : Literal → String
  | float n | int n => n.text
  | bool t => t.text

/-- The value of a floating-point literal as its type stores it. -/
def floatValue? : Literal → Option Binary64
  | float n =>
    (readFloat? n.text).map fun x => if n.type = .float .single then x.toSingle else x
  | _ => none

def intValue? : Literal → Option Int
  | int n => readInteger? n.text
  | _ => none

def boolValue? : Literal → Option Bool
  | bool t => some (t.text = "true")
  | _ => none

def describe (l : Literal) : String :=
  s!"literal<{l.type.name}>({l.text})"

end Literal

inductive Node where
  | literal (literal : Literal)
  | reference (token : Token) (type : PrimType)
deriving DecidableEq

namespace Node

def type : Node → PrimType
  | literal l => l.type
  | reference _ type => type

def literal? : Node → Option Literal
  | literal l => some l
  | reference .. => none

def describe : Node → String
  | literal l => l.describe
  | reference token type => s!"varref<{type.name}>({token.text})"

end Node

end TypedLiterals
