import TypedLiterals.Lexicon.Recognizer
import TypedLiterals.Source.Excerpt

/-!
Errors that end the reading of a source, because no token can be made where they arise.
-/

namespace TypedLiterals

inductive LexicalFault where
  | unknownToken
  | unterminated (what : Unterminated)
deriving DecidableEq, Inhabited

namespace LexicalFault

def name : LexicalFault → String
  | unknownToken => "UnknownToken"
  | unterminated .string => "UnterminatedString"
  | unterminated .comment => "UnterminatedComment"

def headline : LexicalFault → String
  | unknownToken => "Unknown token"
  | unterminated .string => "Unterminated string"
  | unterminated .comment => "Unterminated comment"

end LexicalFault

structure LexicalError where
  fault : LexicalFault
  /-- The start of the text that could not be read. -/
  snippet : String
  location : Location
deriving DecidableEq

namespace LexicalError

def message (e : LexicalError) : String :=
  s!"{e.fault.headline} at line {e.location.line} offset {e.location.column} near: {e.snippet}"

def tip? (e : LexicalError) : Option String :=
  match e.fault with
  | .unknownToken => none
  | .unterminated .string =>
    some ("String starting with `" ++ e.snippet ++ "` is missing its closing quote")
  | .unterminated .comment => some "Block comment is missing its closing `*/`"

def render (e : LexicalError) (source : String) : Except FieldError String := do
  let headline :=
    match e.tip? with
    | none => s!"Error: {e.fault.name}\n"
    | some tip => s!"Error: {e.fault.name} ({tip})\n"
  return headline ++ (← e.location.excerpt source)

end LexicalError

end TypedLiterals
