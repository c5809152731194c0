import TypedLiterals.Lexicon.Rules
import TypedLiterals.Token.Basic

/-!
The eight ways to recognize something at the start of a text. Each looks at the text alone and
says how much of it makes a token or a comment.
-/

namespace TypedLiterals

inductive Unterminated where
  | string | comment
deriving DecidableEq, Inhabited

inductive Scan where
  | token (kind : TokenKind) (lexeme : List Char)
  /-- A comment is read and yields no token. -/
  | comment (lexeme : List Char)
  | unterminated (what : Unterminated)
deriving DecidableEq

namespace Scan

def char? (rules : List CharRule) : List Char → Option Scan
  | [] => none
  | c :: rest => (rules.find? (·.accepts c rest.head?)).map fun rule => token rule.kind [c]

def spelling? (rules : List SpellingRule) (cs : List Char) : Option Scan :=
  (rules.find? (·.spelling.isPrefixOf cs)).map fun rule => token rule.kind rule.spelling

def pattern? (rules : List PatternRule) (cs : List Char) : Option Scan :=
  rules.findSome? fun rule => (rule.pattern.lexeme? cs).map (token rule.kind)

/-- A name, a reserved word or a truth value. -/
def word? (cs : List Char) : Option Scan :=
  if cs.head?.any isNameStart then
    let lexeme := cs.takeWhile isNameChar
    some (token (.ofWord (String.ofList lexeme)) lexeme)
  else none

def string? : List Char → Option Scan
  | [] => none
  | quote :: rest =>
    if quote = '"' ∨ quote = '\'' then
      match Quoted.close? quote rest with
      | some body => some (token .stringLiteral (quote :: body))
      | none => some (unterminated .string)
    else none

def hex? : List Char → Option Scan
  | '0' :: x :: rest =>
    if x = 'x' ∨ x = 'X' then
      match rest.takeWhile isHexDigit with
      | [] => none
      | digits => some (token .integerLiteral ('0' :: x :: digits))
    else none
  | _ => none

def lineComment? : List Char → Option Scan
  | '/' :: '/' :: rest => some (comment ('/' :: '/' :: rest.takeWhile (· ≠ '\n')))
  | _ => none

/-- The text up to and including the first mark that closes a block comment. -/
def closeComment? : List Char → Option (List Char)
  | [] => none
  | '*' :: '/' :: _ => some ['*', '/']
  | c :: rest => (closeComment? rest).map (c :: ·)

def blockComment? : List Char → Option Scan
  | '/' :: '*' :: rest =>
    match closeComment? rest with
    | some body => some (comment ('/' :: '*' :: body))
    | none => some (unterminated .comment)
  | _ => none

end Scan

inductive Recognizer where
  | char | spelling | pattern | word | string | hex | lineComment | blockComment
deriving DecidableEq, Inhabited

/-- The text that a token or a comment takes. -/
def Scan.lexeme? : Scan → Option (List Char)
  | token _ lexeme => some lexeme
  | comment lexeme => some lexeme
  | unterminated _ => none

namespace Recognizer

/-- The order in which the recognizers are tried. -/
def inOrder : List Recognizer :=
  [char, spelling, pattern, word, string, hex, lineComment, blockComment]

/-- What the recognizer finds at the start of a text, if it applies there. -/
def scan? (recognizer : Recognizer) (rules : Rules) (cs : List Char) : Option Scan :=
  match recognizer with
  | char => Scan.char? rules.chars cs
  | spelling => Scan.spelling? rules.spellings cs
  | pattern => Scan.pattern? rules.patterns cs
  | word => Scan.word? cs
  | string => Scan.string? cs
  | hex => Scan.hex? cs
  | lineComment => Scan.lineComment? cs
  | blockComment => Scan.blockComment? cs

/-- What the first recognizer that applies finds at the start of a text. -/
def firstScan? (order : List Recognizer) (rules : Rules) (cs : List Char) : Option Scan :=
  order.findSome? (·.scan? rules cs)

theorem lexeme_ne_nil_of_scan? {recognizer : Recognizer} {rules : Rules} {cs lexeme : List Char}
    {found : Scan} (h : rules.Productive) (hf : recognizer.scan? rules cs = some found)
    (hl : found.lexeme? = some lexeme) : lexeme ≠ [] := by
  cases recognizer <;> simp only [scan?] at hf
  case char =>
    unfold Scan.char? at hf
    split at hf
    · contradiction
    · obtain ⟨rule, -, rfl⟩ := Option.map_eq_some_iff.mp hf
      simp [Scan.lexeme?] at hl
      simp [← hl]
  case spelling =>
    obtain ⟨rule, hr, rfl⟩ := Option.map_eq_some_iff.mp hf
    simp only [Scan.lexeme?, Option.some.injEq] at hl
    exact hl ▸ h rule (List.mem_of_find?_eq_some hr)
  case pattern =>
    obtain ⟨rule, -, hr⟩ := List.exists_of_findSome?_eq_some hf
    obtain ⟨text, ht, rfl⟩ := Option.map_eq_some_iff.mp hr
    simp only [Scan.lexeme?, Option.some.injEq] at hl
    exact hl ▸ (Matcher.lexeme?_eq_some ht).2
  case word =>
    unfold Scan.word? at hf
    split at hf
    · rename_i hs
      simp only [Option.some.injEq] at hf
      subst hf
      simp only [Scan.lexeme?, Option.some.injEq] at hl
      subst hl
      match cs with
      | [] => simp at hs
      | c :: rest =>
        have hc : isNameChar c = true := by
          simp [isNameStart, isNameChar, Char.isAlphanum] at hs ⊢
          rcases hs with hs | hs <;> simp [hs]
        simp [hc]
    · contradiction
  case string =>
    unfold Scan.string? at hf
    split at hf
    · contradiction
    · split at hf
      · split at hf <;> simp at hf <;> subst hf <;> simp [Scan.lexeme?] at hl
        simp [← hl]
      · contradiction
  case hex =>
    unfold Scan.hex? at hf
    split at hf
    · split at hf
      · split at hf
        · contradiction
        · simp at hf
          subst hf
          simp [Scan.lexeme?] at hl
          simp [← hl]
      · contradiction
    · contradiction
  case lineComment =>
    unfold Scan.lineComment? at hf
    split at hf
    · simp at hf
      subst hf
      simp [Scan.lexeme?] at hl
      simp [← hl]
    · contradiction
  case blockComment =>
    unfold Scan.blockComment? at hf
    split at hf
    · split at hf <;> simp at hf <;> subst hf <;> simp [Scan.lexeme?] at hl
      simp [← hl]
    · contradiction

-- With a productive table, whatever is found takes at least one character.
theorem lexeme_ne_nil_of_firstScan? {order : List Recognizer} {rules : Rules}
    {cs lexeme : List Char} {found : Scan} (h : rules.Productive)
    (hf : firstScan? order rules cs = some found) (hl : found.lexeme? = some lexeme) :
    lexeme ≠ [] := by
  obtain ⟨recognizer, -, hr⟩ := List.exists_of_findSome?_eq_some hf
  exact lexeme_ne_nil_of_scan? h hr hl

end Recognizer

end TypedLiterals
