import TypedLiterals.Coercion.Finding
import TypedLiterals.Expression.Node
import TypedLiterals.Types.Primitive

/-!
From one token and the type that is expected there to an expression. The verdict hangs on nothing
else, except on the declarations where the token names a variable.
-/

namespace TypedLiterals

/-- Declarations, the latest first. -/
structure Scope where
  declarations : List (String × PrimType) := []
deriving DecidableEq

namespace Scope

/-- Declares a variable, in place of an earlier one of the same name. -/
def declare (s : Scope) (name : String) (type : PrimType) : Scope :=
  ⟨(name, type) :: s.declarations⟩

def find? (s : Scope) (name : String) : Option PrimType :=
  s.declarations.lookup name

@[simp] theorem find?_declare_self (s : Scope) (name : String) (type : PrimType) :
    (s.declare name type).find? name = some type := by
  simp [declare, find?]

theorem find?_declare_of_ne (s : Scope) {name other : String} (h : other ≠ name)
    (type : PrimType) : (s.declare name type).find? other = s.find? other := by
  have hne : (other == name) = false := by simpa using h
  simp [declare, find?, List.lookup_cons, hne]

end Scope

inductive Verdict where
  | accepted (node : Node)
  /-- There is a node, and something to report about it. -/
  | reported (node : Node) (finding : Finding)
  | refused (finding : Finding)
deriving DecidableEq

namespace Verdict

/-- What speaks against the integer that a text writes as a value of a type. -/
def rangeFault? (type : PrimType) (text : String) : Option Finding :=
  match readInteger? text, type.range? with
  | none, _ => some (.notInteger text)
  | some _, none => some (.notIntegerType type)
  | some value, some range =>
    if range.greatest < value then some (.tooLarge text type range.greatest)
    else if value < range.least then some (.tooSmall text type range.least)
    else none

/-- The type of a floating-point literal by itself: an `f` at the end marks single precision. -/
def inferFloat (token : Token) : PrimType :=
  .float (if token.text.toList.getLast? = some 'f' then .single else .double)

def inferInt (value : Int) : PrimType :=
  .signed (if (IntRange.signed 32).contains value then .w32 else .w64)

/-- A floating-point literal where a type of this kind is expected. Only a value that really changes
is worth a warning. -/
def floatAsFloat (token : Token) (type : PrimType) : Verdict :=
  if (inferFloat token).fitsInto type then accepted (.literal (.castFloat token type))
  else
    match readFloat? token.text with
    | none => refused (.unreadable token.kind token.text)
    | some value =>
      let stored := value.toSingle
      if value.equals stored then accepted (.literal (.castFloat token type))
      else
        reported (.literal (.castFloat token type (some stored.text)))
          (.rounded token.text stored)

/-- A floating-point literal where an integer is expected: its value has to be whole, and then the
text before the point is the integer. -/
def floatAsInt (token : Token) (type : PrimType) : Verdict :=
  match readFloat? token.text with
  | none => refused (.unreadable token.kind token.text)
  | some value =>
    if value.equals (.ofInt value.toInt64) then
      let whole := String.ofList (token.text.toList.takeWhile (· ≠ '.'))
      match rangeFault? type whole with
      | some finding => refused finding
      | none => accepted (.literal (.castInt token type (some whole)))
    else if value.isWhole then refused (.beyondInt64 token.text)
    else refused (.fractional token.text)

def ofFloat (token : Token) (expected : Option PrimType) : Verdict :=
  let inferred : Node := .literal (.float { token := token, type := inferFloat token })
  match expected with
  | none => accepted inferred
  | some .bool => reported inferred (.unexpectedLiteral token.kind token.text .bool)
  | some (.float width) => floatAsFloat token (.float width)
  | some type => floatAsInt token type

def intAsInt (token : Token) (value : Int) (type : PrimType) : Verdict :=
  if type.isUnsigned ∧ value < 0 then refused (.negative token.text)
  else
    match rangeFault? type token.text with
    | some finding => refused finding
    | none => accepted (.literal (.castInt token type))

/-- A floating-point number has no hexadecimal form, so a hexadecimal integer that becomes one is
written anew. -/
def ofInt (token : Token) (expected : Option PrimType) : Verdict :=
  match readInteger? token.text with
  | none => refused (.unreadable token.kind token.text)
  | some value =>
    let inferred : Node := .literal (.int { token := token, type := inferInt value })
    match expected with
    | none => accepted inferred
    | some .bool => reported inferred (.unexpectedLiteral token.kind token.text .bool)
    | some (.float width) =>
      let replacement := if isHexText token.text then some (writeInteger value) else none
      accepted (.literal (.castFloat token (.float width) replacement))
    | some type => intAsInt token value type

def ofBool (token : Token) : Verdict :=
  accepted (.literal (.bool token))

def ofToken (scope : Scope) (token : Token) (expected : Option PrimType) : Verdict :=
  match token.kind with
  | .floatingLiteral => ofFloat token expected
  | .integerLiteral => ofInt token expected
  | .boolLiteral => ofBool token
  | .identifier =>
    match scope.find? token.text with
    | some type => accepted (.reference token type)
    | none => refused (.undeclared token.text)
  | _ => refused (.notExpression token.kind token.text)

end Verdict

end TypedLiterals
