import TypedLiterals.CommandLine.Run
import TypedLiterals.Proofs.Coercion.Handles
import TypedLiterals.Proofs.Token.Caret
import Mathlib.Data.List.Basic

/-!
What a run prints and its exit code. Every literal of a source is reported as if it were the only
one, in the order of the source. If a source cannot be split into tokens, nothing but the error is
printed. Around the issues stand the lines of the log, if the environment asks for any.
-/

namespace TypedLiterals

namespace Pass

/-- What is reported of a token alone. -/
def issuesAlone (file : String) (expected : Option PrimType) (token : Token) : List Issue :=
  (readAlone file expected token).log.issues.toList

variable {p q : Pass} {token : Token} {handle : Handle} {nodes : List Node} {issues : List Issue}
  {file : String} {expected : Option PrimType}

end Pass

namespace CommandLine

open Pass

/-- How a run ends where files have these contents. -/
def Plan.outcome (files : String → ByteArray) : Plan → Outcome
  | finish outcome => outcome
  | needFile path next => next (decode (files path))

/-- All the issues of these tokens have room in their excerpts. -/
def IssuesFit (file : String) (expected : Option PrimType) (source : String)
    (tokens : List Token) : Prop :=
  ∀ token ∈ tokens, token.kind.isTyped = true → ∀ issue ∈ issuesAlone file expected token,
    issue.location.Fits source.toList

instance decidableIssuesFit (file : String) (expected : Option PrimType) (source : String)
    (tokens : List Token) : Decidable (IssuesFit file expected source tokens) :=
  inferInstanceAs (Decidable (∀ token ∈ tokens, token.kind.isTyped = true →
    ∀ issue ∈ issuesAlone file expected token, issue.location.Fits source.toList))

variable {host : Host} {verbose : Bool} {file source : String} {expected : Option PrimType}
  {tokens : List Token}

section Records

end Records

section Sources

end Sources

section Far

variable {m : Nat}

end Far

end CommandLine

end TypedLiterals
