import TypedLiterals.Source.Cursor
import TypedLiterals.Text.Character
import TypedLiterals.Token.Kind

/-!
Tokens: a kind, the text exactly as it stands in the source, and the place where it begins. The text
of a string token is quoted: where it ends and what its escapes stand for is said here too.
-/

namespace TypedLiterals

namespace Quoted

/-- What follows an opening `quote`, up to and including the quote that closes it: the first one
that no backslash escapes. A backslash escapes exactly the character behind it. -/
def close? (quote : Char) : List Char → Option (List Char)
  | [] => none
  | '\\' :: c :: rest => (close? quote rest).map ('\\' :: c :: ·)
  | c :: rest => if c = quote then some [c] else (close? quote rest).map (c :: ·)

/-- The character that a backslash followed by `c` names. -/
def named? : Char → Option Char
  | 'n' => some '\n'
  | 't' => some '\t'
  | 'r' => some '\r'
  | '0' => some '\x00'
  | '\\' => some '\\'
  | '"' => some '"'
  | '\'' => some '\''
  | _ => none

/-- The hexadecimal digits, at most two, that `cs` begins with. -/
def hexDigits (cs : List Char) : List Char :=
  (cs.take 2).takeWhile isHexDigit

/-- What a backslash followed by `c` and `rest` stands for, and how many characters of `rest` belong
to it. Besides the named escapes there is `\x` with one or two hexadecimal digits, which stands for
the character of that code. A backslash that begins no escape stands for itself. -/
def escape (c : Char) (rest : List Char) : List Char × Nat :=
  match named? c with
  | some d => ([d], 0)
  | none =>
    if c = 'x' then
      match hexDigits rest with
      | [] => (['\\', 'x'], 0)
      | digits => ([Char.ofNat (ofDigits 16 digits)], digits.length)
    else (['\\', c], 0)

/-- Resolves the escapes of what stands behind the first `skip` characters. -/
def unescapeAfter : Nat → List Char → List Char
  | _, [] => []
  | skip + 1, _ :: rest => unescapeAfter skip rest
  | 0, '\\' :: c :: rest => (escape c rest).1 ++ unescapeAfter (escape c rest).2 rest
  | 0, c :: rest => c :: unescapeAfter 0 rest

/-- Resolves the escapes of a text. -/
def unescape (cs : List Char) : List Char :=
  unescapeAfter 0 cs

end Quoted

structure Token where
  kind : TokenKind
  /-- The source text of the token, with quotes and escapes. -/
  text : String
  place : Place
deriving DecidableEq, Inhabited

namespace Token

/-- A token is shown as `Kind (text) at line:column`. -/
def describe (t : Token) : String :=
  s!"{t.kind.name} ({t.text}) at {t.place.line}:{t.place.column}"

def isOneOf (t : Token) (kinds : List TokenKind) : Bool :=
  kinds.contains t.kind

/-- Why a string token has no contents to speak of: its text does not begin and end with a
character of one byte, so there are no quotes to take off. -/
inductive ContentsError where
  | notDelimited
deriving DecidableEq

/-- The text between the quotes of a string token, with its escapes resolved. Other tokens, and
texts too short to hold two quotes, have none. -/
def contents (t : Token) : Except ContentsError (Option String) :=
  let chars := t.text.toList
  if t.kind ≠ .stringLiteral ∨ utf8Length chars < 2 then .ok none
  else if [chars.head?, chars.getLast?].any (·.any (1 < ·.utf8Size)) then .error .notDelimited
  else .ok (some (String.ofList (Quoted.unescape (chars.drop 1).dropLast)))

end Token

end TypedLiterals
