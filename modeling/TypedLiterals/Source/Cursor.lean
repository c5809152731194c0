import TypedLiterals.Text.Character

/-!
Places in a text, and a reading head that moves over it. A place is a line and a column, both
counted from 1 in characters; a location is a place in a named source. The head knows the text still
to be read, the place it stands at and the number of UTF-8 bytes behind it. Every move is a `skip`
over some number of characters.
-/

namespace TypedLiterals

/-- A line and a column, both counted from 1. -/
structure Place where
  line : Nat
  column : Nat
deriving DecidableEq, Inhabited

namespace Place

def start : Place := ⟨1, 1⟩

/-- The place behind one character. A line feed is the only character that ends a line, so a
carriage return takes a column like any other. -/
def step (p : Place) (c : Char) : Place :=
  if c = '\n' then ⟨p.line + 1, 1⟩ else ⟨p.line, p.column + 1⟩

/-- The place behind a run of characters that begins at `p`. -/
def after (p : Place) (cs : List Char) : Place :=
  cs.foldl step p

@[simp] theorem after_nil (p : Place) : p.after [] = p := rfl

@[simp] theorem after_cons (p : Place) (c : Char) (cs : List Char) :
    p.after (c :: cs) = (p.step c).after cs := rfl

theorem after_append (p : Place) (xs ys : List Char) :
    p.after (xs ++ ys) = (p.after xs).after ys := by
  simp [after, List.foldl_append]

end Place

structure Location extends Place where
  file : String
deriving DecidableEq, Inhabited

namespace Location

/-- A location is written `file:line:column`. -/
def text (l : Location) : String :=
  s!"{l.file}:{l.line}:{l.column}"

end Location

structure Cursor where
  rest : List Char
  place : Place
  /-- The number of UTF-8 bytes already read. -/
  offset : Nat
deriving DecidableEq

namespace Cursor

/-- The head before the first character of `source`. -/
def ofSource (source : List Char) : Cursor :=
  ⟨source, .start, 0⟩

def atEnd (c : Cursor) : Bool :=
  c.rest.isEmpty

/-- The character `n` places ahead; the next one is at `0`. -/
def peek? (c : Cursor) (n : Nat) : Option Char :=
  c.rest[n]?

def startsWith (c : Cursor) (text : List Char) : Bool :=
  text.isPrefixOf c.rest

def atQuote (c : Cursor) : Bool :=
  c.rest.head?.any fun ch => ch = '"' || ch = '\''

def atBlank (c : Cursor) : Bool :=
  c.rest.head?.any isBlank

/-- Reads the next `n` characters, or all that are left. -/
def skip (c : Cursor) (n : Nat) : Cursor where
  rest := c.rest.drop n
  place := c.place.after (c.rest.take n)
  offset := c.offset + utf8Length (c.rest.take n)

def skipBlanks (c : Cursor) : Cursor :=
  c.skip (c.rest.takeWhile isBlank).length

/-- Reads up to, and not including, the next `stop`. -/
def skipUntil (c : Cursor) (stop : Char) : Cursor :=
  c.skip (c.rest.takeWhile (· ≠ stop)).length

/-- At most `n` characters of what comes next, cut at the first line feed. -/
def snippet (c : Cursor) (n : Nat) : List Char :=
  (c.rest.takeWhile (· ≠ '\n')).take n

@[simp] theorem utf8Length_append (xs ys : List Char) :
    utf8Length (xs ++ ys) = utf8Length xs + utf8Length ys := by
  simp [utf8Length]

@[simp] theorem skip_rest (c : Cursor) (n : Nat) : (c.skip n).rest = c.rest.drop n := rfl

@[simp] theorem skip_place (c : Cursor) (n : Nat) :
    (c.skip n).place = c.place.after (c.rest.take n) := rfl

@[simp] theorem skip_zero (c : Cursor) : c.skip 0 = c := by
  simp [skip, utf8Length]

theorem skip_skip (c : Cursor) (m n : Nat) : (c.skip m).skip n = c.skip (m + n) := by
  simp [skip, List.drop_drop, List.take_add, Place.after_append, Nat.add_assoc]

@[simp] theorem skipBlanks_rest (c : Cursor) :
    c.skipBlanks.rest = c.rest.dropWhile isBlank := by
  simp only [skipBlanks, skip_rest]
  induction c.rest with
  | nil => rfl
  | cons a as ih => by_cases h : isBlank a <;> simp [h, ih]

theorem skipBlanks_rest_length_le (c : Cursor) :
    c.skipBlanks.rest.length ≤ c.rest.length := by
  simp only [skipBlanks, skip_rest, List.length_drop]
  omega

end Cursor

end TypedLiterals
