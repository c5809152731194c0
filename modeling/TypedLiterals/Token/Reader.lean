import TypedLiterals.Token.Basic

/-!
A reading position in a list of tokens, which can be saved and restored.
-/

namespace TypedLiterals

/-- A saved position. One saved elsewhere may lie behind the last token. -/
structure Snapshot where
  position : Nat
deriving DecidableEq, Inhabited

structure TokenReader where
  tokens : List Token
  position : Nat := 0
deriving DecidableEq

namespace TokenReader

/-- The token `n` places ahead. -/
def peek? (r : TokenReader) (n : Nat) : Option Token :=
  r.tokens[r.position + n]?

def current? (r : TokenReader) : Option Token :=
  r.tokens[r.position]?

def isDone (r : TokenReader) : Bool :=
  r.tokens.length ≤ r.position

def isAt (r : TokenReader) (kind : TokenKind) : Bool :=
  r.current?.any (·.kind = kind)

def skip (r : TokenReader) : TokenReader :=
  if r.isDone then r else { r with position := r.position + 1 }

def last? (r : TokenReader) : Option Token :=
  r.tokens.getLast?

def snapshot (r : TokenReader) : Snapshot :=
  ⟨r.position⟩

def restore (r : TokenReader) (s : Snapshot) : TokenReader :=
  { r with position := s.position }

/-- The tokens from a first index up to a last one. There are none to give if the bounds are out of
order or the last one is behind the end. -/
def range? (r : TokenReader) (first last : Nat) : Option (List Token) :=
  if first ≤ last ∧ last ≤ r.tokens.length then some ((r.tokens.take last).drop first) else none

/-- The tokens from one saved position up to another. The bounds are cut off at the end, and the
first at the last. -/
def slice? (r : TokenReader) (start stop : Snapshot) : Option (List Token) :=
  let last := min stop.position r.tokens.length
  r.range? (min start.position last) last

theorem isDone_iff (r : TokenReader) : r.isDone = true ↔ r.current? = none := by
  simp [isDone, current?]

theorem skip_of_current? {r : TokenReader} {token : Token} (h : r.current? = some token) :
    r.skip = { r with position := r.position + 1 } := by
  have hlt : r.position < r.tokens.length := (List.getElem?_eq_some_iff.mp h).1
  simp [skip, isDone, Nat.not_le.mpr hlt]

theorem skip_of_isDone {r : TokenReader} (h : r.isDone = true) : r.skip = r := by
  simp [skip, h]

def remaining (r : TokenReader) : Nat :=
  r.tokens.length - r.position

theorem remaining_skip_lt {r : TokenReader} {token : Token} (h : r.current? = some token) :
    r.skip.remaining < r.remaining := by
  have hlt : r.position < r.tokens.length := (List.getElem?_eq_some_iff.mp h).1
  rw [skip_of_current? h]
  exact Nat.sub_succ_lt_self _ _ hlt

end TokenReader

end TypedLiterals
