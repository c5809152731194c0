import TypedLiterals.Text.WordRanges

/-!
Classes of characters: the blanks between tokens, the white space trimmed from a shown line, the
characters of a name, and the characters that can be part of a word.
-/

-- Sums of natural numbers begin with the zero of the core library.
attribute [local instance (10000)] Zero.ofOfNat0

namespace TypedLiterals

/-- A blank separates tokens and is never part of one outside a quoted string. -/
def isBlank (c : Char) : Bool :=
  c = ' ' || c = '\t' || c = '\n' || c = '\r'

/-- A name starts with an ASCII letter or an underscore. -/
def isNameStart (c : Char) : Bool :=
  c.isAlpha || c = '_'

/-- A name goes on with ASCII letters, ASCII digits and underscores. -/
def isNameChar (c : Char) : Bool :=
  c.isAlphanum || c = '_'

def isHexDigit (c : Char) : Bool :=
  c.isDigit || ('a' ≤ c && c ≤ 'f') || ('A' ≤ c && c ≤ 'F')

/-- The value of a digit of base ten or sixteen. -/
def digitValue (c : Char) : Nat :=
  if c.isDigit then c.toNat - '0'.toNat
  else if 'a' ≤ c then c.toNat - 'a'.toNat + 10
  else c.toNat - 'A'.toNat + 10

/-- The number that a row of digits writes in the given base. -/
def ofDigits (base : Nat) (digits : List Char) : Nat :=
  digits.foldl (fun value d => value * base + digitValue d) 0

/-- A word character of Unicode: alphabetic, a mark, a decimal digit, a connector or a joiner.
Among the ASCII characters these are the letters, the digits and the underscore. -/
def isWordChar (c : Char) : Bool :=
  if c.toNat < 0x80 then isNameChar c
  else
    let ranges := if c.toNat < 0x10000 then basicPlaneWordRanges else higherPlaneWordRanges
    ranges.any fun (low, high) => low ≤ c.toNat && c.toNat ≤ high

def isWhiteSpace (c : Char) : Bool :=
  let n := c.toNat
  (0x09 ≤ n && n ≤ 0x0D) || n = 0x20 || n = 0x85 || n = 0xA0 || n = 0x1680 ||
    (0x2000 ≤ n && n ≤ 0x200A) || n = 0x2028 || n = 0x2029 || n = 0x202F || n = 0x205F ||
    n = 0x3000

def utf8Length (cs : List Char) : Nat :=
  (cs.map Char.utf8Size).sum

end TypedLiterals
