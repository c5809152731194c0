import TypedLiterals.Coercion.Verdict
import TypedLiterals.Expression.Arena
import TypedLiterals.Token.Reader

/-!
A pass over the tokens of one source. Reading an expression takes one token, adds its node to the
arena and its findings to the issues, and answers with the handle of the node. A sweep reads every
literal of the source, each against the same expected type.
-/

namespace TypedLiterals

structure Pass where
  file : String
  reader : TokenReader
  arena : Arena := {}
  log : IssueLog := {}
  scope : Scope := {}
deriving DecidableEq

namespace Pass

def ofTokens (tokens : List Token) (file : String) : Pass where
  file := file
  reader := { tokens := tokens }

def locationOf (p : Pass) (token : Token) : Location :=
  { token.place with file := p.file }

def skip (p : Pass) : Pass :=
  { p with reader := p.reader.skip }

def restore (p : Pass) (s : Snapshot) : Pass :=
  { p with reader := p.reader.restore s }

def declare (p : Pass) (name : String) (type : PrimType) : Pass :=
  { p with scope := p.scope.declare name type }

def report (p : Pass) (issue : Issue) : Pass :=
  { p with log := p.log.push issue }

def insert (p : Pass) (node : Node) : Handle × Pass :=
  let (handle, arena) := p.arena.insert node
  (handle, { p with arena := arena })

/-- Whether the current token can begin or end an expression. -/
def atExpression (p : Pass) : Bool :=
  p.reader.current?.any (·.isOneOf [.floatingLiteral, .integerLiteral, .boolLiteral, .identifier,
    .openParen, .closeParen])

/-- Where the input ends: behind the last token. -/
def endLocation (p : Pass) : Location :=
  match p.reader.last? with
  | some token =>
    { line := token.place.line, column := token.place.column + token.text.length, file := p.file }
  | none => { Place.start with file := p.file }

def missingExpression (p : Pass) : Handle × Pass :=
  (.void, p.report (Finding.endOfInput.issueAt p.endLocation))

def settle (p : Pass) (token : Token) : Verdict → Handle × Pass
  | .accepted node => p.insert node
  | .reported node finding => (p.report (finding.issueAt (p.locationOf token))).insert node
  | .refused finding => (.void, p.report (finding.issueAt (p.locationOf token)))

/-- Takes the current token and carries out the verdict on it. -/
def readWith (p : Pass) (verdict : Token → Verdict) : Handle × Pass :=
  match p.reader.current? with
  | some token => p.skip.settle token (verdict token)
  | none => p.missingExpression

def readExpression (p : Pass) (expected : Option PrimType) : Handle × Pass :=
  p.readWith (Verdict.ofToken p.scope · expected)

def readFloat (p : Pass) (expected : Option PrimType) : Handle × Pass :=
  p.readWith (Verdict.ofFloat · expected)

def readInt (p : Pass) (expected : Option PrimType) : Handle × Pass :=
  p.readWith (Verdict.ofInt · expected)

def readBool (p : Pass) : Handle × Pass :=
  p.readWith Verdict.ofBool

/-- Whether the text of a token at hand is an integer of the type. If not, that is reported at the
token. -/
def checkRange (p : Pass) (type : PrimType) (text : String) (token : Token) : Bool × Pass :=
  match Verdict.rangeFault? type text with
  | none => (true, p)
  | some finding => (false, p.report (finding.issueAt (p.locationOf token)))

@[simp] theorem settle_reader (p : Pass) (token : Token) (v : Verdict) :
    (p.settle token v).2.reader = p.reader := by
  cases v <;> rfl

theorem readWith_reader {p : Pass} {token : Token} (h : p.reader.current? = some token)
    (verdict : Token → Verdict) : (p.readWith verdict).2.reader = p.reader.skip := by
  simp [readWith, h, skip]

/-- Reads the literals from the current token on, and passes over strings and all other tokens. -/
def readLiterals (expected : Option PrimType) (p : Pass) : List (Token × Handle) × Pass :=
  match h : p.reader.current? with
  | none => ([], p)
  | some token =>
    have hskip : p.reader.skip.remaining < p.reader.remaining := TokenReader.remaining_skip_lt h
    if token.kind.isLiteral ∧ token.kind ≠ .stringLiteral then
      have hread : (p.readExpression expected).2.reader = p.reader.skip := readWith_reader h _
      have : (p.readExpression expected).2.reader.remaining < p.reader.remaining :=
        hread ▸ hskip
      let read := p.readExpression expected
      let others := read.2.readLiterals expected
      ((token, read.1) :: others.1, others.2)
    else
      p.skip.readLiterals expected
termination_by p.reader.remaining

end Pass

end TypedLiterals
