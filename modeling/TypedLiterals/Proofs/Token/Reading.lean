import TypedLiterals.Proofs.Lexicon.Scan
import TypedLiterals.Proofs.Source.Place
import TypedLiterals.Token.Lexer

/-!
One recognizer at work on the tokens read so far and on the cursor. Either it changes nothing, or it
takes a text of the source from the cursor on: the cursor moves behind that text, and a token with
exactly that text is put down, unless the text is a comment.
-/

namespace TypedLiterals

namespace Recognizer

/-- The recognizers of comments put no token down. -/
def isComment : Recognizer → Bool
  | lineComment | blockComment => true
  | char | spelling | pattern | word | string | hex => false

variable {recognizer : Recognizer} {rules : Rules} {cs lexeme : List Char} {kind : TokenKind}

theorem isComment_of_token (h : recognizer.scan? rules cs = some (.token kind lexeme)) :
    recognizer.isComment = false := by
  cases recognizer with
  | lineComment => exact absurd h Scan.lineComment?_ne_token
  | blockComment => exact absurd h Scan.blockComment?_ne_token
  | char => rfl
  | spelling => rfl
  | pattern => rfl
  | word => rfl
  | string => rfl
  | hex => rfl

theorem isComment_of_comment (h : recognizer.scan? rules cs = some (.comment lexeme)) :
    recognizer.isComment = true := by
  cases recognizer with
  | lineComment => rfl
  | blockComment => rfl
  | char =>
    cases cs with
    | nil => cases h
    | cons c rest =>
      obtain ⟨rule, -, hrule⟩ := Option.map_eq_some_iff.mp h
      cases hrule
  | spelling =>
    obtain ⟨rule, -, hrule⟩ := Option.map_eq_some_iff.mp h
    cases hrule
  | pattern =>
    obtain ⟨rule, -, hrule⟩ := List.exists_of_findSome?_eq_some h
    obtain ⟨text, -, htext⟩ := Option.map_eq_some_iff.mp hrule
    cases htext
  | word =>
    rw [scan?, Scan.word?] at h
    split at h
    · cases h
    · cases h
  | string =>
    rw [scan?, Scan.string?.eq_def] at h
    split at h
    · cases h
    · split at h
      · split at h
        · cases h
        · cases h
      · cases h
  | hex =>
    rw [scan?, Scan.hex?.eq_def] at h
    split at h
    · split at h
      · split at h
        · cases h
        · cases h
      · cases h
    · cases h

end Recognizer

section Bytes

theorem toUTF8_eq_encode {s : String} {cs : List Char} (h : s.toList = cs) :
    s.toUTF8 = cs.utf8Encode := by
  rw [String.toUTF8_eq_toByteArray, ← h, ← String.toByteArray_ofList, String.ofList_toList]

end Bytes

namespace Cursor

/-- The cursor stands in the source, and the bytes behind it are counted. Its place is left open. -/
def Over (source : String) (c : Cursor) : Prop :=
  ∃ before, source.toList = before ++ c.rest ∧ c.offset = utf8Length before

variable {source : String} {c : Cursor} {lexeme : List Char}

theorem ofSource_over (source : String) : (ofSource source.toList).Over source :=
  ⟨[], rfl, rfl⟩

theorem Over.skip (h : c.Over source) (n : Nat) : (c.skip n).Over source := by
  obtain ⟨before, hsource, hoffset⟩ := h
  refine ⟨before ++ c.rest.take n, ?_, ?_⟩
  · rw [skip_rest, List.append_assoc, List.take_append_drop, hsource]
  · rw [utf8Length_append, ← hoffset]
    rfl

-- A text that stands at the cursor is what the source has between the two offsets.
theorem Over.extract (h : c.Over source) (hl : lexeme <+: c.rest) :
    source.toUTF8.extract c.offset (c.skip lexeme.length).offset =
      (String.ofList lexeme).toUTF8 := by
  obtain ⟨before, hsource, hoffset⟩ := h
  obtain ⟨after, hrest⟩ := hl
  rw [← hrest] at hsource
  have hend : (c.skip lexeme.length).offset = before.utf8Encode.size + lexeme.utf8Encode.size := by
    show c.offset + utf8Length (c.rest.take lexeme.length) = _
    rw [← hrest, List.take_left, hoffset, size_utf8Encode, size_utf8Encode]
  have hbegin : c.offset = before.utf8Encode.size + 0 := by
    rw [hoffset, size_utf8Encode, Nat.add_zero]
  rw [toUTF8_eq_encode hsource, toUTF8_eq_encode String.toList_ofList, hbegin, hend,
    List.utf8Encode_append, List.utf8Encode_append, ByteArray.extract_append_size_add,
    ByteArray.extract_append_size_left, ByteArray.extract_zero_size]

end Cursor

/-- The tokens read so far, and the cursor behind them. -/
structure Reading where
  tokens : List Token
  cursor : Cursor

namespace Reading

/-- Puts the token of a step down, if it makes one, and moves on. -/
def follow (r : Reading) (step : Lexer.Step) : Reading where
  tokens := r.tokens ++ step.token?.toList
  cursor := step.cursor

/-- Tries one recognizer: whether it applies, or how it fails, and what becomes of the reading. -/
def attempt (rules : Rules) (file : String) (recognizer : Recognizer) (r : Reading) :
    Except LexicalError Bool × Reading :=
  match Lexer.attempt rules file recognizer r.cursor with
  | .error e => (.error e, r)
  | .ok none => (.ok false, r)
  | .ok (some step) => (.ok true, r.follow step)

/-- What a recognizer does with the text that it takes at the cursor. -/
structure Takes (rules : Rules) (recognizer : Recognizer) (r after : Reading)
    (lexeme : List Char) : Prop where
  begins : lexeme <+: r.cursor.rest
  ne : rules.Productive → lexeme ≠ []
  cursor : after.cursor = r.cursor.skip lexeme.length
  tokens : (recognizer.isComment = true ∧ after.tokens = r.tokens) ∨
    (recognizer.isComment = false ∧
      ∃ kind, after.tokens = r.tokens ++ [⟨kind, String.ofList lexeme, r.cursor.place⟩])

/-- The text of the source between the two cursors is put down as one token at the place of the
first, unless it is a comment. -/
structure InStep (source : String) (recognizer : Recognizer) (r after : Reading) : Prop where
  stands : after.cursor.Over source
  moves : ∃ n, after.cursor = r.cursor.skip n
  comment : recognizer.isComment = true → after.tokens = r.tokens
  token : recognizer.isComment = false → ∃ kind text,
    after.tokens = r.tokens ++ [⟨kind, text, r.cursor.place⟩] ∧
      text.toUTF8 = source.toUTF8.extract r.cursor.offset after.cursor.offset

variable {source : String} {rules : Rules} {file : String} {recognizer : Recognizer}
  {r after : Reading} {result : Except LexicalError Bool} {lexeme : List Char}

theorem attempt_of_none (h : recognizer.scan? rules r.cursor.rest = none) :
    r.attempt rules file recognizer = (.ok false, r) := by
  rw [attempt, Lexer.attempt, h]

theorem attempt_of_some {found : Scan} (h : recognizer.scan? rules r.cursor.rest = some found) :
    r.attempt rules file recognizer =
      match Lexer.stepOver file r.cursor found with
      | .error e => (.error e, r)
      | .ok step => (.ok true, r.follow step) := by
  rw [attempt, Lexer.attempt, h]
  dsimp only
  cases Lexer.stepOver file r.cursor found <;> rfl

/-- A recognizer changes nothing or takes a text. -/
theorem attempt_cases (h : r.attempt rules file recognizer = (result, after)) :
    (result ≠ .ok true ∧ after = r) ∨
      (result = .ok true ∧ ∃ lexeme, Takes rules recognizer r after lexeme) := by
  cases hfound : recognizer.scan? rules r.cursor.rest with
  | none =>
    rw [attempt_of_none hfound] at h
    cases h
    exact .inl ⟨nofun, rfl⟩
  | some found =>
    have hstands := Recognizer.scan?_stands hfound
    have hne {lexeme : List Char} (hl : found.lexeme? = some lexeme)
        (hproductive : rules.Productive) : lexeme ≠ [] :=
      Recognizer.lexeme_ne_nil_of_scan? hproductive hfound hl
    rw [attempt_of_some hfound] at h
    cases hstands with
    | unterminated =>
      cases h
      exact .inl ⟨nofun, rfl⟩
    | @comment lexeme rest text isComment =>
      cases h
      refine .inr ⟨rfl, lexeme, ⟨rest, text.symm⟩, hne rfl, rfl, ?_⟩
      exact .inl ⟨Recognizer.isComment_of_comment hfound, List.append_nil r.tokens⟩
    | @token kind lexeme begins =>
      cases h
      refine .inr ⟨rfl, lexeme, begins, hne rfl, rfl, ?_⟩
      exact .inr ⟨Recognizer.isComment_of_token hfound, kind, rfl⟩

theorem Takes.inStep (h : Takes rules recognizer r after lexeme) (hover : r.cursor.Over source) :
    InStep source recognizer r after := by
  refine ⟨h.cursor ▸ hover.skip _, ⟨_, h.cursor⟩, ?_, ?_⟩
  · intro hcomment
    rcases h.tokens with ⟨-, hsame⟩ | ⟨hno, -⟩
    · exact hsame
    · cases hno.symm.trans hcomment
  · intro htoken
    rcases h.tokens with ⟨hyes, -⟩ | ⟨-, kind, hmore⟩
    · cases hyes.symm.trans htoken
    · refine ⟨kind, String.ofList lexeme, hmore, ?_⟩
      rw [h.cursor]
      exact (hover.extract h.begins).symm

/-- A recognizer that does not apply, or fails, changes nothing. One that applies takes a text of
the source and keeps the tokens and the cursor in step with it. -/
theorem attempt_atomic (rules : Rules) (file : String) (recognizer : Recognizer)
    (hover : r.cursor.Over source) (h : r.attempt rules file recognizer = (result, after)) :
    (result ≠ .ok true → after = r) ∧
      (result = .ok true → InStep source recognizer r after) := by
  rcases attempt_cases h with ⟨hresult, rfl⟩ | ⟨hresult, lexeme, htakes⟩
  · exact ⟨fun _ => rfl, fun htrue => absurd htrue hresult⟩
  · exact ⟨fun hne => absurd hresult hne, fun _ => htakes.inStep hover⟩

/-- A character of three bytes, behind one of two, is taken as one column and three bytes. -/
theorem attempt_atomic_wide :
    ((Cursor.ofSource "é≠x".toList).skip 1).Over "é≠x" ∧
      attempt ⟨[], [⟨['≠'], .notEquals⟩], []⟩ "shell" .spelling
          ⟨[], (Cursor.ofSource "é≠x".toList).skip 1⟩ =
        (.ok true, ⟨[⟨.notEquals, "≠", ⟨1, 2⟩⟩], ⟨['x'], ⟨1, 3⟩, 5⟩⟩) ∧
      InStep "é≠x" .spelling ⟨[], (Cursor.ofSource "é≠x".toList).skip 1⟩
        ⟨[⟨.notEquals, "≠", ⟨1, 2⟩⟩], ⟨['x'], ⟨1, 3⟩, 5⟩⟩ := by
  have hover := (Cursor.ofSource_over "é≠x").skip 1
  have hattempt : attempt ⟨[], [⟨['≠'], .notEquals⟩], []⟩ "shell" .spelling
      ⟨[], (Cursor.ofSource "é≠x".toList).skip 1⟩ =
        (.ok true, ⟨[⟨.notEquals, "≠", ⟨1, 2⟩⟩], ⟨['x'], ⟨1, 3⟩, 5⟩⟩) := rfl
  exact ⟨hover, hattempt, (attempt_atomic _ _ _ hover hattempt).2 rfl⟩

end Reading

end TypedLiterals
