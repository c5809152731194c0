import TypedLiterals.Diagnostic.LexicalError
import TypedLiterals.Lexicon.Rules
import TypedLiterals.Source.Cursor
import TypedLiterals.Token.Basic

/-!
Reading a whole source into tokens. Blanks and comments are dropped, and the first error ends the
reading without any tokens.
-/

namespace TypedLiterals

/-- The rules of a language and the name of the source to be read with them. -/
structure Lexer where
  rules : Rules := .language
  productive : rules.Productive := by decide
  file : String := "shell"

namespace Lexer

/-- How many characters of the source an error shows. -/
def snippetLength : Nat := 16

/-- One match: the token that it makes, if any, and the cursor behind it. -/
structure Step where
  token? : Option Token
  cursor : Cursor

def errorAt (file : String) (c : Cursor) (fault : LexicalFault) : LexicalError where
  fault := fault
  snippet := String.ofList (c.snippet snippetLength)
  location := { c.place with file := file }

def stepOver (file : String) (c : Cursor) : Scan → Except LexicalError Step
  | .token kind lexeme =>
    .ok ⟨some ⟨kind, String.ofList lexeme, c.place⟩, c.skip lexeme.length⟩
  | .comment lexeme => .ok ⟨none, c.skip lexeme.length⟩
  | .unterminated what => .error (errorAt file c (.unterminated what))

/-- Tries one recognizer at the cursor. There is no step if it does not apply. -/
def attempt (rules : Rules) (file : String) (recognizer : Recognizer) (c : Cursor) :
    Except LexicalError (Option Step) :=
  match recognizer.scan? rules c.rest with
  | none => .ok none
  | some found => (stepOver file c found).map some

theorem length_lt_of_stepOver {order : List Recognizer} {rules : Rules} {file : String} {c : Cursor}
    {found : Scan} {step : Step} (h : rules.Productive) (hc : c.rest ≠ [])
    (hf : Recognizer.firstScan? order rules c.rest = some found)
    (ht : stepOver file c found = .ok step) : step.cursor.rest.length < c.rest.length := by
  have hlt (lexeme : List Char) (hl : found.lexeme? = some lexeme) :
      (c.skip lexeme.length).rest.length < c.rest.length := by
    have hne := Recognizer.lexeme_ne_nil_of_firstScan? h hf hl
    have h₁ := List.length_pos_iff.mpr hne
    have h₂ := List.length_pos_iff.mpr hc
    simp only [Cursor.skip_rest, List.length_drop]
    omega
  unfold stepOver at ht
  split at ht
  · cases ht
    exact hlt _ rfl
  · cases ht
    exact hlt _ rfl
  · cases ht

/-- The tokens from the cursor on, when the recognizers are tried in the given order. -/
def tokensFrom (order : List Recognizer) (lexer : Lexer) (c : Cursor) :
    Except LexicalError (List Token) :=
  let head := c.skipBlanks
  if hc : head.rest = [] then .ok []
  else
    match hf : Recognizer.firstScan? order lexer.rules head.rest with
    | none => .error (errorAt lexer.file head .unknownToken)
    | some found =>
      match ht : stepOver lexer.file head found with
      | .error e => .error e
      | .ok step =>
        have : step.cursor.rest.length < c.rest.length :=
          Nat.lt_of_lt_of_le (length_lt_of_stepOver lexer.productive hc hf ht)
            c.skipBlanks_rest_length_le
        (tokensFrom order lexer step.cursor).map (step.token?.toList ++ ·)
termination_by c.rest.length

def tokenize (lexer : Lexer) (source : String) : Except LexicalError (List Token) :=
  lexer.tokensFrom Recognizer.inOrder (.ofSource source.toList)

end Lexer

end TypedLiterals
