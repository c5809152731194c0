import TypedLiterals.Proofs.Token.Reading
import TypedLiterals.Proofs.Token.Run

/-!
The lexer as a loop over a reading. One round skips blanks and tries the recognizers in their order,
and the loop goes on until a round finds the end or fails. A round that goes on takes at least one
character and puts down at most one token, so the loop has no more of them than the source has
characters.
-/

namespace TypedLiterals.Reading

open Recognizer

def start (source : String) : Reading :=
  ⟨[], .ofSource source.toList⟩

def skipBlanks (r : Reading) : Reading :=
  { r with cursor := r.cursor.skipBlanks }

/-- Tries the recognizers one after the other, until one applies or fails. -/
def tryAll (rules : Rules) (file : String) :
    List Recognizer → Reading → Except LexicalError Bool × Reading
  | [], r => (.ok false, r)
  | recognizer :: order, r =>
    match r.attempt rules file recognizer with
    | (.ok false, after) => tryAll rules file order after
    | outcome => outcome

/-- One round of the loop. There is no reading to go on with at the end of the source. -/
def round (lexer : Lexer) (r : Reading) : Except LexicalError (Option Reading) :=
  if r.skipBlanks.cursor.atEnd then .ok none
  else
    match tryAll lexer.rules lexer.file inOrder r.skipBlanks with
    | (.error e, _) => .error e
    | (.ok true, after) => .ok (some after)
    | (.ok false, after) => .error (Lexer.errorAt lexer.file after.cursor .unknownToken)

/-- The loop makes this many rounds that go on, and then it ends with this result. -/
inductive Loops (lexer : Lexer) : Reading → Nat → Except LexicalError (List Token) → Prop where
  | ends {r : Reading} (last : round lexer r = .ok none) : Loops lexer r 0 (.ok r.tokens)
  | fails {r : Reading} {e : LexicalError} (last : round lexer r = .error e) :
      Loops lexer r 0 (.error e)
  | goesOn {r after : Reading} {rounds : Nat} {result : Except LexicalError (List Token)}
      (first : round lexer r = .ok (some after)) (more : Loops lexer after rounds result) :
      Loops lexer r (rounds + 1) result

variable {lexer : Lexer} {rules : Rules} {file : String} {order : List Recognizer}
  {r after : Reading} {rounds : Nat} {tokens : List Token}
  {result result' : Except LexicalError (List Token)}

section Round

-- Nothing changes before the first recognizer that finds something.
theorem tryAll_eq : tryAll rules file order r =
    match firstScan? order rules r.cursor.rest with
    | none => (.ok false, r)
    | some found =>
      match Lexer.stepOver file r.cursor found with
      | .error e => (.error e, r)
      | .ok step => (.ok true, r.follow step) := by
  induction order with
  | nil => rfl
  | cons recognizer order ih =>
    rw [tryAll, firstScan?, List.findSome?_cons]
    cases hfound : recognizer.scan? rules r.cursor.rest with
    | none =>
      rw [attempt_of_none hfound]
      exact ih
    | some found =>
      rw [attempt_of_some hfound]
      dsimp only
      cases Lexer.stepOver file r.cursor found <;> rfl

theorem exists_attempt_of_tryAll (h : tryAll rules file order r = (.ok true, after)) :
    ∃ recognizer ∈ order, r.attempt rules file recognizer = (.ok true, after) := by
  induction order with
  | nil => cases h
  | cons recognizer order ih =>
    rw [tryAll] at h
    cases hfound : recognizer.scan? rules r.cursor.rest with
    | none =>
      rw [attempt_of_none hfound] at h
      obtain ⟨other, hmem, hother⟩ := ih h
      exact ⟨other, List.mem_cons_of_mem recognizer hmem, hother⟩
    | some found =>
      refine ⟨recognizer, List.mem_cons_self, ?_⟩
      rw [attempt_of_some hfound] at h ⊢
      cases hstep : Lexer.stepOver file r.cursor found with
      | error e =>
        rw [hstep] at h
        cases h
      | ok step =>
        rw [hstep] at h
        exact h

theorem round_eq (lexer : Lexer) (r : Reading) : round lexer r =
    if r.cursor.skipBlanks.rest = [] then .ok none
    else (lexer.firstStep inOrder r.cursor.skipBlanks).map fun step =>
      some (r.skipBlanks.follow step) := by
  have hend : r.skipBlanks.cursor.atEnd = true ↔ r.cursor.skipBlanks.rest = [] :=
    List.isEmpty_iff
  have hcursor : r.skipBlanks.cursor = r.cursor.skipBlanks := rfl
  rw [round, if_congr hend rfl rfl, tryAll_eq, Lexer.firstStep, hcursor]
  split_ifs
  · rfl
  · cases firstScan? inOrder lexer.rules r.cursor.skipBlanks.rest with
    | none => rfl
    | some found =>
      dsimp only
      cases Lexer.stepOver lexer.file r.cursor.skipBlanks found <;> rfl

/-- With a productive table a recognizer that applies takes at least one character and puts down at
most one token. -/
theorem attempt_consumes {recognizer : Recognizer} (hproductive : rules.Productive)
    (h : r.attempt rules file recognizer = (.ok true, after)) :
    (∃ text ≠ [], r.cursor.rest = text ++ after.cursor.rest) ∧
      after.tokens.length ≤ r.tokens.length + 1 := by
  rcases attempt_cases h with ⟨hresult, -⟩ | ⟨-, lexeme, htakes⟩
  · exact absurd rfl hresult
  · refine ⟨⟨lexeme, htakes.ne hproductive, ?_⟩, ?_⟩
    · obtain ⟨rest, hrest⟩ := htakes.begins
      rw [htakes.cursor, Cursor.skip_length_rest hrest.symm, hrest]
    · rcases htakes.tokens with ⟨-, hsame⟩ | ⟨-, kind, hmore⟩
      · rw [hsame]
        exact Nat.le_succ _
      · rw [hmore, List.length_append]
        exact Nat.le_refl _

/-- In a round that goes on one of the recognizers applies behind the blanks. -/
theorem exists_attempt_of_round (h : round lexer r = .ok (some after)) :
    ∃ recognizer ∈ inOrder,
      r.skipBlanks.attempt lexer.rules lexer.file recognizer = (.ok true, after) := by
  rw [round] at h
  split at h
  · cases h
  · split at h
    · cases h
    · rename_i found htry
      cases h
      exact exists_attempt_of_tryAll htry
    · cases h

theorem length_lt_of_round (h : round lexer r = .ok (some after)) :
    after.cursor.rest.length < r.cursor.rest.length := by
  obtain ⟨recognizer, -, hattempt⟩ := exists_attempt_of_round h
  obtain ⟨⟨text, hne, htext⟩, -⟩ := attempt_consumes lexer.productive hattempt
  have hblanks := r.cursor.skipBlanks_rest_length_le
  have hpos := List.length_pos_iff.mpr hne
  have hlength : r.cursor.skipBlanks.rest.length = text.length + after.cursor.rest.length := by
    rw [← List.length_append, ← htext]
    rfl
  omega

theorem length_tokens_of_round (h : round lexer r = .ok (some after)) :
    after.tokens.length ≤ r.tokens.length + 1 := by
  obtain ⟨recognizer, -, hattempt⟩ := exists_attempt_of_round h
  exact (attempt_consumes lexer.productive hattempt).2

end Round

namespace Loops

theorem unique (h : Loops lexer r rounds result) {rounds' : Nat}
    (h' : Loops lexer r rounds' result') : rounds = rounds' ∧ result = result' := by
  induction h generalizing rounds' with
  | ends last =>
    cases h' with
    | ends _ => exact ⟨rfl, rfl⟩
    | fails last' => cases last.symm.trans last'
    | goesOn first _ => cases last.symm.trans first
  | fails last =>
    cases h' with
    | ends last' => cases last.symm.trans last'
    | fails last' =>
      cases last.symm.trans last'
      exact ⟨rfl, rfl⟩
    | goesOn first _ => cases last.symm.trans first
  | goesOn first _ ih =>
    cases h' with
    | ends last => cases first.symm.trans last
    | fails last => cases first.symm.trans last
    | goesOn first' more =>
      cases first.symm.trans first'
      obtain ⟨rfl, rfl⟩ := ih more
      exact ⟨rfl, rfl⟩

theorem rounds_le (h : Loops lexer r rounds result) : rounds ≤ r.cursor.rest.length := by
  induction h with
  | ends _ => exact Nat.zero_le _
  | fails _ => exact Nat.zero_le _
  | goesOn first _ ih => exact Nat.lt_of_le_of_lt ih (length_lt_of_round first)

theorem length_le (h : Loops lexer r rounds result) (hresult : result = .ok tokens) :
    tokens.length ≤ r.tokens.length + rounds := by
  induction h with
  | ends _ =>
    cases hresult
    exact Nat.le_refl _
  | fails _ => cases hresult
  | goesOn first _ ih =>
    have hrest := ih hresult
    have hfirst := length_tokens_of_round first
    omega

end Loops

theorem map_follow (r : Reading) (step : Lexer.Step) (result : Except LexicalError (List Token)) :
    result.map ((r.follow step).tokens ++ ·) =
      (result.map (step.token?.toList ++ ·)).map (r.tokens ++ ·) := by
  cases result with
  | error e => rfl
  | ok tokens => exact congrArg Except.ok (List.append_assoc ..)

/-- The loop from a reading on puts the tokens from its cursor on behind those it has. -/
theorem exists_loops (lexer : Lexer) (r : Reading) :
    ∃ rounds, Loops lexer r rounds ((lexer.tokensFrom inOrder r.cursor).map (r.tokens ++ ·)) := by
  -- The induction is on what is left to read: a round that goes on leaves less.
  induction hlength : r.cursor.rest.length using Nat.strong_induction_on generalizing r with
  | _ n ih =>
    subst hlength
    have hround := round_eq lexer r
    rw [Lexer.tokensFrom_eq]
    split_ifs with hend
    · rw [if_pos hend] at hround
      have hends := Loops.ends hround
      rw [← List.append_nil r.tokens] at hends
      exact ⟨0, hends⟩
    · rw [if_neg hend] at hround
      cases hstep : lexer.firstStep inOrder r.cursor.skipBlanks with
      | error e =>
        rw [hstep] at hround
        exact ⟨0, .fails hround⟩
      | ok step =>
        rw [hstep] at hround
        obtain ⟨rounds, hmore⟩ := ih _ (length_lt_of_round hround) _ rfl
        rw [show (r.skipBlanks.follow step).cursor = step.cursor from rfl, map_follow] at hmore
        exact ⟨rounds + 1, .goesOn hround hmore⟩

end TypedLiterals.Reading

namespace TypedLiterals.Lexer

open Reading Recognizer

/-- In every round that goes on, one recognizer takes at least one character. The loop ends after no
more such rounds than the source has characters. It ends with the answer of the lexer: an error, or
no more tokens than there were rounds. -/
theorem tokenize_rounds (lexer : Lexer) (source : String) :
    (∀ r after, round lexer r = .ok (some after) → ∃ recognizer ∈ inOrder,
      r.skipBlanks.attempt lexer.rules lexer.file recognizer = (.ok true, after) ∧
        ∃ text ≠ [], r.skipBlanks.cursor.rest = text ++ after.cursor.rest) ∧
    (∃ rounds, Loops lexer (.start source) rounds (lexer.tokenize source)) ∧
    ∀ rounds result, Loops lexer (.start source) rounds result →
      rounds ≤ source.length ∧ result = lexer.tokenize source ∧
        ∀ tokens, result = .ok tokens → tokens.length ≤ rounds := by
  obtain ⟨rounds, hloops⟩ := exists_loops lexer (.start source)
  have hresult : (lexer.tokensFrom inOrder (start source).cursor).map ((start source).tokens ++ ·) =
      lexer.tokenize source := congrFun Except.map_id _
  rw [hresult] at hloops
  refine ⟨?_, ⟨rounds, hloops⟩, ?_⟩
  · intro r after hround
    obtain ⟨recognizer, hmem, hattempt⟩ := exists_attempt_of_round hround
    exact ⟨recognizer, hmem, hattempt, (attempt_consumes lexer.productive hattempt).1⟩
  · intro rounds' result hloops'
    obtain ⟨-, rfl⟩ := hloops'.unique hloops
    refine ⟨?_, rfl, ?_⟩
    · have hle := hloops'.rounds_le
      rwa [start, Cursor.ofSource, String.length_toList] at hle
    · intro tokens htokens
      have hle := hloops'.length_le htokens
      rwa [start, List.length_nil, Nat.zero_add] at hle

/-- The pattern also matches where there is no digit, and a blank is skipped before its rule is
tried. -/
theorem tokenize_rounds_empty :
    let lexer : Lexer :=
      { rules := ⟨[⟨' ', .semicolon, []⟩, ⟨'/', .slash, []⟩], [],
          [⟨(Pattern.digit.many : Pattern), .integerLiteral⟩]⟩ }
    Loops lexer (.start "7 /") 2
        (.ok [⟨.integerLiteral, "7", ⟨1, 1⟩⟩, ⟨.slash, "/", ⟨1, 3⟩⟩]) ∧
      lexer.tokenize "7 /" = .ok [⟨.integerLiteral, "7", ⟨1, 1⟩⟩, ⟨.slash, "/", ⟨1, 3⟩⟩] := by
  intro lexer
  have hloops : Loops lexer (.start "7 /") 2
      (.ok [⟨.integerLiteral, "7", ⟨1, 1⟩⟩, ⟨.slash, "/", ⟨1, 3⟩⟩]) :=
    .goesOn rfl (.goesOn rfl (.ends rfl))
  exact ⟨hloops, ((tokenize_rounds lexer "7 /").2.2 2 _ hloops).2.1.symm⟩

end TypedLiterals.Lexer
