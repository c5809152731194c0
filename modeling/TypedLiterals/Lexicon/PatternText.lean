import TypedLiterals.Lexicon.Rules

/-!
The written form of regular expressions: characters, classes such as `[a-z]`, the point for any
character within a line, `\b` for the edge of a word, groups, alternatives and the repetitions
`*`, `+`, `?` and `{m,n}`.
-/

namespace TypedLiterals

namespace Pattern

inductive Symbol where
  | atom (pattern : Pattern)
  /-- A repetition of what stands before it, at least `least` times and at most `most` times. -/
  | repetition (least : Nat) (most : Option Nat)
  | openGroup | closeGroup | bar

/-- The most repetitions that an expression may ask for. -/
def maxRepetitions : Nat := 1000

/-- Characters that do not stand for themselves in a class. -/
def classSigns : List Char := "[]\\^&~-".toList

/-- The ranges of a class up to its closing bracket, and the text behind it. -/
def classRanges? : List Char → Option (List (Char × Char) × List Char)
  | low :: '-' :: high :: rest =>
    if low ≤ high && !(classSigns.contains low || classSigns.contains high) then
      match rest with
      | ']' :: rest => some ([(low, high)], rest)
      | rest => (classRanges? rest).map fun (ranges, rest) => ((low, high) :: ranges, rest)
    else none
  | c :: rest =>
    if classSigns.contains c then none
    else
      match rest with
      | ']' :: rest => some ([(c, c)], rest)
      | rest => (classRanges? rest).map fun (ranges, rest) => ((c, c) :: ranges, rest)
  | [] => none

/-- A number at the start of a text, if it is not too large a count. -/
def count? (cs : List Char) : Option (Nat × List Char) :=
  let digits := cs.takeWhile Char.isDigit
  let n := ofDigits 10 digits
  if digits.isEmpty || maxRepetitions < n then none else some (n, cs.drop digits.length)

/-- The bounds of a counted repetition, after its opening brace. -/
def bounds? (cs : List Char) : Option (Symbol × List Char) := do
  let (least, rest) ← count? cs
  match rest with
  | '}' :: rest => some (.repetition least (some least), rest)
  | ',' :: '}' :: rest => some (.repetition least none, rest)
  | ',' :: rest =>
    let (most, rest) ← count? rest
    match rest with
    | '}' :: rest => if least ≤ most then some (.repetition least (some most), rest) else none
    | _ => none
  | _ => none

/-- The first part of a written expression and the text behind it. -/
def symbol? : List Char → Option (Symbol × List Char)
  | [] => none
  | '(' :: '?' :: ':' :: rest => some (.openGroup, rest)
  | '(' :: rest => some (.openGroup, rest)
  | ')' :: rest => some (.closeGroup, rest)
  | '|' :: rest => some (.bar, rest)
  | '*' :: rest => some (.repetition 0 none, rest)
  | '+' :: rest => some (.repetition 1 none, rest)
  | '?' :: rest => some (.repetition 0 (some 1), rest)
  | '{' :: rest => bounds? rest
  | '[' :: rest => (classRanges? rest).map fun (ranges, rest) => (.atom (oneOf ranges), rest)
  | '\\' :: 'b' :: rest => some (.atom wordEdge, rest)
  | '\\' :: c :: rest =>
    if c.isAlphanum || 0x80 ≤ c.toNat then none else some (.atom (char c), rest)
  | '.' :: rest =>
    some (.atom (oneOf [('\x00', '\t'), ('\x0b', Char.ofNat 0x10FFFF)]), rest)
  | c :: rest => if c = '^' || c = '$' then none else some (.atom (char c), rest)

def symbols? (cs : List Char) : Option (List Symbol) :=
  go cs.length cs
where
  /-- Every part takes a character, so `n` parts are enough for `n` characters. -/
  go : Nat → List Char → Option (List Symbol)
    | _, [] => some []
    | 0, _ => none
    | n + 1, cs => do
      let (symbol, rest) ← symbol? cs
      return symbol :: (← go n rest)

/-- A group that is being read: the alternatives before the last bar, and the parts behind it with
the newest first. -/
structure Group where
  before : Option Pattern := none
  items : List Pattern := []

namespace Group

def sequence (g : Group) : Pattern :=
  match g.items with
  | [] => empty
  | last :: earlier => earlier.foldl (fun rest p => p.seq rest) last

def toPattern (g : Group) : Pattern :=
  match g.before with
  | none => g.sequence
  | some p => p.alt g.sequence

def push (g : Group) (p : Pattern) : Group :=
  { g with items := p :: g.items }

def repeatLast? (g : Group) (least : Nat) (most : Option Nat) : Option Group :=
  match g.items with
  | [] => none
  | p :: earlier =>
    let repeated :=
      match least, most with
      | 0, none => p.many
      | 1, none => p.some1
      | least, none => (p.times least).seq p.many
      | 0, some 1 => p.optional
      | least, some most => (p.times least).seq (p.upTo (most - least))
    some { g with items := repeated :: earlier }

end Group

/-- Reads the parts into the open groups, the innermost first. A repetition of a repetition has no
meaning here. -/
def ofSymbols? : List Group → List Symbol → Option Pattern
  | [g], [] => some g.toPattern
  | _, [] => none
  | [], _ => none
  | g :: outer, symbol :: rest =>
    match symbol with
    | .atom p => ofSymbols? (g.push p :: outer) rest
    | .openGroup => ofSymbols? ({} :: g :: outer) rest
    | .bar => ofSymbols? ({ before := some g.toPattern } :: outer) rest
    | .closeGroup =>
      match outer with
      | [] => none
      | parent :: outer => ofSymbols? (parent.push g.toPattern :: outer) rest
    | .repetition least most =>
      match rest with
      | .repetition .. :: _ => none
      | _ => (g.repeatLast? least most).bind fun g => ofSymbols? (g :: outer) rest

def ofChars? (cs : List Char) : Option Pattern :=
  (symbols? cs).bind (ofSymbols? [{}])

end Pattern

/-- The rule for a written expression, if it is a valid one. -/
def PatternRule.ofText? (text : String) (kind : TokenKind) : Option PatternRule :=
  (Pattern.ofChars? text.toList).map fun pattern => ⟨pattern, kind⟩

/-- The patterns of the language as they are written. -/
theorem Rules.language_patterns :
    [PatternRule.ofText? "[0-9]+\\.[0-9]+f?\\b" .floatingLiteral,
      PatternRule.ofText? "[0-9]+\\b" .integerLiteral] = language.patterns.map some := by
  have hfraction : "[0-9]+\\.[0-9]+f?\\b".toList =
      ['[', '0', '-', '9', ']', '+', '\\', '.', '[', '0', '-', '9', ']', '+',
        'f', '?', '\\', 'b'] := rfl
  have hinteger : "[0-9]+\\b".toList = ['[', '0', '-', '9', ']', '+', '\\', 'b'] := rfl
  rw [PatternRule.ofText?, PatternRule.ofText?, hfraction, hinteger]
  rfl

end TypedLiterals
