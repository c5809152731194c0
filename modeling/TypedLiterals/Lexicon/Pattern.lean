import TypedLiterals.Text.Character

/-!
Regular expressions, matched at the start of a text. Alternatives are tried from left to right and
repetitions take as much as they can; the first way to match the whole expression wins. They are one
kind of matcher, and a table of rules may hold any other.
-/

namespace TypedLiterals

inductive Pattern where
  | empty
  /-- One character in one of these inclusive ranges. -/
  | oneOf (ranges : List (Char × Char))
  /-- The edge between a word character and anything else. -/
  | wordEdge
  | seq (first second : Pattern)
  | alt (left right : Pattern)
  /-- Any number of repetitions, as many as possible. -/
  | many (body : Pattern)
deriving DecidableEq, Inhabited

namespace Pattern

def char (c : Char) : Pattern := oneOf [(c, c)]

def some1 (p : Pattern) : Pattern := p.seq p.many

def optional (p : Pattern) : Pattern := p.alt empty

def digit : Pattern := oneOf [('0', '9')]

def times (p : Pattern) : Nat → Pattern
  | 0 => empty
  | n + 1 => p.seq (p.times n)

/-- `p` repeated at most `n` times, as often as possible. -/
def upTo (p : Pattern) : Nat → Pattern
  | 0 => empty
  | n + 1 => (p.seq (p.upTo n)).optional

/-- How far a match has come: what it has read, newest character first, and what is left. -/
structure Progress where
  read : List Char
  rest : List Char

namespace Progress

/-- Whether a word character stands on exactly one side. -/
def atWordEdge (s : Progress) : Bool :=
  s.read.head?.any isWordChar != s.rest.head?.any isWordChar

def readOne? (accept : Char → Bool) (s : Progress) : Option Progress :=
  match s.rest with
  | [] => none
  | c :: rest => if accept c then some ⟨c :: s.read, rest⟩ else none

end Progress

def inRanges (ranges : List (Char × Char)) (c : Char) : Bool :=
  ranges.any fun (low, high) => low ≤ c && c ≤ high

/-- Repeats `body` while it moves on and what follows can still succeed, in at most `n` rounds. -/
def repeating {α : Type} (body : (Progress → Option α) → Progress → Option α)
    (next : Progress → Option α) : Nat → Progress → Option α
  | 0, s => next s
  | n + 1, s =>
    (body (fun t => if t.rest.length < s.rest.length then repeating body next n t else none) s)
      <|> next s

/-- The first way to match `p` after which `next` succeeds too. Every round of a repetition reads
at least one character, so as many rounds as there are characters are enough. -/
def run {α : Type} : Pattern → (Progress → Option α) → Progress → Option α
  | empty, next, s => next s
  | oneOf ranges, next, s => (s.readOne? (inRanges ranges)).bind next
  | wordEdge, next, s => if s.atWordEdge then next s else none
  | seq p q, next, s => p.run (q.run next) s
  | alt p q, next, s => p.run next s <|> q.run next s
  | many p, next, s => repeating p.run next s.rest.length s

/-- The number of characters that `p` matches at the start of `cs`. -/
def matchLength? (p : Pattern) (cs : List Char) : Option Nat :=
  (p.run some ⟨[], cs⟩).map (·.read.length)

end Pattern

/-- Whatever matches texts from their start on. How it searches is left open. The length of a match
is a number of characters, so a match never ends inside one. -/
structure Matcher where
  length? : List Char → Option Nat

namespace Matcher

instance : Coe Pattern Matcher := ⟨fun p => ⟨p.matchLength?⟩⟩

/-- The text that matches at the start of `cs`. A match of no characters does not count. -/
def lexeme? (m : Matcher) (cs : List Char) : Option (List Char) :=
  ((m.length? cs).map cs.take).filter (· ≠ [])

theorem lexeme?_eq_some {m : Matcher} {cs lexeme : List Char} (h : m.lexeme? cs = some lexeme) :
    lexeme <+: cs ∧ lexeme ≠ [] := by
  obtain ⟨hmap, hne⟩ := Option.filter_eq_some_iff.mp h
  obtain ⟨n, -, rfl⟩ := Option.map_eq_some_iff.mp hmap
  exact ⟨cs.take_prefix n, of_decide_eq_true hne⟩

end Matcher

end TypedLiterals
