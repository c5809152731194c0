import TypedLiterals.Token.Lexer

/-!
What a lexer does from a cursor to the end of a source: one step after the other, and as a
derivation with one rule for the end, one for a token and one for a comment.
-/

namespace TypedLiterals.Lexer

section Steps

/-- The step from a cursor that stands neither at the end nor at a blank. -/
def firstStep (order : List Recognizer) (lexer : Lexer) (c : Cursor) : Except LexicalError Step :=
  match Recognizer.firstScan? order lexer.rules c.rest with
  | none => .error (errorAt lexer.file c .unknownToken)
  | some found => stepOver lexer.file c found

variable {order : List Recognizer} {lexer : Lexer} {c : Cursor} {step : Step}

theorem length_lt_of_firstStep (hc : c.rest ≠ [])
    (h : firstStep order lexer c = .ok step) : step.cursor.rest.length < c.rest.length := by
  rw [firstStep] at h
  split at h
  · cases h
  · rename_i found hfound
    exact length_lt_of_stepOver lexer.productive hc hfound h

theorem tokensFrom_eq (order : List Recognizer) (lexer : Lexer) (c : Cursor) :
    lexer.tokensFrom order c =
      if c.skipBlanks.rest = [] then .ok []
      else (firstStep order lexer c.skipBlanks).bind fun step =>
        (lexer.tokensFrom order step.cursor).map (step.token?.toList ++ ·) := by
  rw [tokensFrom.eq_def, firstStep]
  dsimp only
  split
  · rfl
  · split
    · rename_i hnone
      rw [hnone]
      rfl
    · rename_i found hfound
      rw [hfound]
      dsimp only
      split
      · rename_i e hstep
        rw [hstep]
        rfl
      · rename_i step hstep
        rw [hstep]
        rfl

end Steps

/-- From the cursor on, the lexer reads these tokens and reaches the end. -/
inductive Reads (order : List Recognizer) (lexer : Lexer) : Cursor → List Token → Prop where
  | atEnd {c : Cursor} (blank : c.skipBlanks.rest = []) : Reads order lexer c []
  | token {c : Cursor} {kind : TokenKind} {lexeme : List Char} {tokens : List Token}
      (head : c.skipBlanks.rest ≠ [])
      (found : Recognizer.firstScan? order lexer.rules c.skipBlanks.rest =
        some (.token kind lexeme))
      (more : Reads order lexer (c.skipBlanks.skip lexeme.length) tokens) :
      Reads order lexer c (⟨kind, String.ofList lexeme, c.skipBlanks.place⟩ :: tokens)
  | comment {c : Cursor} {lexeme : List Char} {tokens : List Token}
      (head : c.skipBlanks.rest ≠ [])
      (found : Recognizer.firstScan? order lexer.rules c.skipBlanks.rest = some (.comment lexeme))
      (more : Reads order lexer (c.skipBlanks.skip lexeme.length) tokens) :
      Reads order lexer c tokens

variable {order : List Recognizer} {lexer : Lexer} {c : Cursor} {tokens : List Token}

theorem reads_of_tokensFrom (h : lexer.tokensFrom order c = .ok tokens) :
    Reads order lexer c tokens := by
  fun_induction lexer.tokensFrom order c generalizing tokens with
  | case1 c head =>
    rename_i hend
    cases h
    exact .atEnd hend
  | case2 => contradiction
  | case3 => contradiction
  | case4 c head hne found hfound step hstep _ =>
    rename_i ih
    cases htail : lexer.tokensFrom order step.cursor with
    | error e =>
      rw [htail] at h
      cases h
    | ok tail =>
      rw [htail] at h
      cases h
      cases found with
      | token kind lexeme =>
        cases hstep
        exact .token hne hfound (ih htail)
      | comment lexeme =>
        cases hstep
        exact .comment hne hfound (ih htail)
      | unterminated what => cases hstep

end TypedLiterals.Lexer
