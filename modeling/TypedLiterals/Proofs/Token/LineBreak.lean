import TypedLiterals.Proofs.Token.Passage

/-!
A line feed keeps apart what stands on its two sides. Two texts with a line feed between them are
read like the first and then the second, which stands on lower lines. If the first is refused
because of an unknown token, nothing behind it makes a difference.
-/

namespace TypedLiterals

/-- The place in the same column, `n` lines further down. -/
def Place.lower (n : Nat) (p : Place) : Place :=
  ⟨p.line + n, p.column⟩

def Token.lower (n : Nat) (t : Token) : Token :=
  { t with place := t.place.lower n }

def LexicalError.lower (n : Nat) (e : LexicalError) : LexicalError :=
  { e with location := { e.location.toPlace.lower n with file := e.location.file } }

namespace Place

theorem lower_step (n : Nat) (p : Place) (c : Char) : (p.lower n).step c = (p.step c).lower n := by
  by_cases hc : c = '\n'
  · rw [step, if_pos hc, step, if_pos hc, lower, lower, Nat.add_right_comm]
  · rw [step, if_neg hc, step, if_neg hc]
    rfl

theorem lower_after (n : Nat) (p : Place) (cs : List Char) :
    (p.lower n).after cs = (p.after cs).lower n := by
  induction cs generalizing p with
  | nil => rfl
  | cons c cs ih => rw [after_cons, lower_step, ih, after_cons]

-- Behind a line feed a text begins as a source does, but on a lower line.
theorem start_after_lineFeed (before : List Char) :
    (start.after before).step '\n' = start.lower (before.count '\n' + 1) := by
  rw [start_after, step, if_pos rfl, behind, lower, start, Nat.add_assoc]

end Place

namespace Passage

variable {rest text more : List Char} {p : Place} {tokens tokens' : List Token}

theorem lower (h : Passage rest p text tokens) (n : Nat) :
    Passage rest (p.lower n) text (tokens.map (Token.lower n)) := by
  induction h with
  | done => exact .done
  | blank blank _ ih =>
    rw [← Place.lower_step] at ih
    exact .blank blank ih
  | comment isComment _ ih =>
    rw [← Place.lower_after] at ih
    exact .comment isComment ih
  | token isLexeme _ ih =>
    rw [← Place.lower_after] at ih
    exact .token isLexeme ih

theorem lineFeed (h : Passage rest p text tokens) (more : List Char) :
    Passage (rest ++ '\n' :: more) p text tokens := by
  apply h.change
  · intro _ tail _ _
    rw [← List.append_assoc]
    exact .lineFeed (tail ++ rest) more
  · intro c hc
    cases rest with
    | nil => exact .inr (Option.some.inj hc).symm
    | cons d rest => exact .inl hc

-- The text behind the line feed is a passage of its own, which begins on a lower line.
theorem append_lineFeed (first : Passage [] .start text tokens)
    (second : Passage rest .start more tokens') :
    Passage rest .start (text ++ '\n' :: more)
      (tokens ++ tokens'.map (Token.lower (text.count '\n' + 1))) := by
  have hfirst : Passage ('\n' :: more ++ rest) .start text tokens := first.lineFeed (more ++ rest)
  have hsecond := second.lower (text.count '\n' + 1)
  rw [← Place.start_after_lineFeed] at hsecond
  exact hfirst.append (.blank rfl hsecond)

end Passage

section Stuck

variable {cs rest : List Char}

-- The characters that make it unknown all stand in front of the line feed.
theorem Unknown.lineFeed (h : Unknown cs) (more : List Char) : Unknown (cs ++ '\n' :: more) := by
  cases h with
  | char strange => exact .char strange
  | @number row rest w ne digits goesOn noDigit noHex =>
    rw [List.append_assoc, List.cons_append]
    apply Unknown.number ne digits goesOn noDigit
    intro hrow hw
    have hbegins : BeginsLike rest (rest ++ '\n' :: more) := (Follower.lineFeed rest more).begins
    exact hbegins.any_eq_false (noHex hrow hw) (by decide)

theorem Stuck.lineFeed (h : Stuck cs .unknownToken) (more : List Char) :
    Stuck (cs ++ '\n' :: more) .unknownToken := by
  obtain ⟨c, rest, rfl, hblank⟩ := h.exists_head
  cases h with
  | unknown unknown => exact .unknown (unknown.lineFeed more) hblank

theorem takeWhile_lineFeed (cs more : List Char) :
    (cs ++ '\n' :: more).takeWhile (· ≠ '\n') = cs.takeWhile (· ≠ '\n') := by
  induction cs with
  | nil => rfl
  | cons c cs ih =>
    rw [List.cons_append, List.takeWhile_cons, List.takeWhile_cons, ih]

end Stuck

namespace Lexer

variable {lexer : Lexer}

theorem errorBehind_lineFeed (file : String) (before text rest : List Char)
    (fault : LexicalFault) :
    errorBehind file (before ++ '\n' :: text) rest fault =
      (errorBehind file text rest fault).lower (before.count '\n' + 1) := by
  have hplace : Place.start.after (before ++ '\n' :: text) =
      (Place.start.after text).lower (before.count '\n' + 1) := by
    rw [Place.after_append, Place.after_cons, Place.start_after_lineFeed, Place.lower_after]
  rw [errorBehind, errorAt, hplace]
  rfl

-- The snippet ends before the line feed.
theorem errorBehind_of_lineFeed (file : String) (text rest more : List Char)
    (fault : LexicalFault) :
    errorBehind file text (rest ++ '\n' :: more) fault = errorBehind file text rest fault := by
  rw [errorBehind, errorAt, Cursor.snippet, takeWhile_lineFeed]
  rfl

/-- Reading goes on behind a line feed as if a new source began there. -/
theorem tokenize_lineFeed (hrules : lexer.rules = .language) (first second : String) :
    (∀ tokens, lexer.tokenize first = .ok tokens →
      (∀ more, lexer.tokenize second = .ok more →
        lexer.tokenize (first ++ "\n" ++ second) =
          .ok (tokens ++ more.map (Token.lower (first.toList.count '\n' + 1)))) ∧
      ∀ e, lexer.tokenize second = .error e →
        lexer.tokenize (first ++ "\n" ++ second) =
          .error (e.lower (first.toList.count '\n' + 1))) ∧
    ∀ e, lexer.tokenize first = .error e → e.fault = .unknownToken →
      lexer.tokenize (first ++ "\n" ++ second) = .error e := by
  have hsource : (first ++ "\n" ++ second).toList = first.toList ++ '\n' :: second.toList := by
    rw [String.toList_append, String.toList_append, List.append_assoc]
    rfl
  refine ⟨?_, ?_⟩
  · intro tokens hfirst
    have hpassage := (tokenize_eq_ok_iff hrules).mp hfirst
    refine ⟨?_, ?_⟩
    · intro more hsecond
      rw [tokenize_eq_ok_iff hrules, hsource]
      exact hpassage.append_lineFeed ((tokenize_eq_ok_iff hrules).mp hsecond)
    · intro e hsecond
      obtain ⟨text, rest, more, htext, hmore, hstuck, he⟩ :=
        (tokenize_eq_error_iff hrules).mp hsecond
      have hbefore := hpassage.append_lineFeed hmore
      rw [tokenize_eq_error_iff hrules, hsource]
      refine ⟨_, rest, _, ?_, hbefore, hstuck, ?_⟩
      · rw [htext, List.append_assoc, List.cons_append]
      · rw [errorBehind_lineFeed]
        exact congrArg _ he
  · intro e hfirst hfault
    obtain ⟨text, rest, tokens, htext, hpassage, hstuck, he⟩ :=
      (tokenize_eq_error_iff hrules).mp hfirst
    rw [hfault] at hstuck
    rw [tokenize_eq_error_iff hrules, hsource]
    refine ⟨text, rest ++ '\n' :: second.toList, tokens, ?_, hpassage.lineFeed _, ?_, ?_⟩
    · rw [htext, List.append_assoc]
    · rw [hfault]
      exact hstuck.lineFeed _
    · rwa [errorBehind_of_lineFeed]

/-- A comment that the line feed ends, a string over two lines, and a number in front of a word. -/
theorem tokenize_lineFeed_comment :
    ({} : Lexer).tokenize ("a //" ++ "\n" ++ "'\n' b") =
        .ok [⟨.identifier, "a", ⟨1, 1⟩⟩, ⟨.stringLiteral, "'\n'", ⟨2, 1⟩⟩,
          ⟨.identifier, "b", ⟨3, 3⟩⟩] ∧
      ({} : Lexer).tokenize ("a //" ++ "\n" ++ " 2x") =
        .error ⟨.unknownToken, "2x", ⟨⟨2, 2⟩, "shell"⟩⟩ ∧
      ({} : Lexer).tokenize ("2x" ++ "\n" ++ " 2x") =
        .error ⟨.unknownToken, "2x", ⟨⟨1, 1⟩, "shell"⟩⟩ := by
  have hcomment : ({} : Lexer).tokenize "a //" = .ok [⟨.identifier, "a", ⟨1, 1⟩⟩] := by
    decide +kernel
  have hstring : ({} : Lexer).tokenize "'\n' b" =
      .ok [⟨.stringLiteral, "'\n'", ⟨1, 1⟩⟩, ⟨.identifier, "b", ⟨2, 3⟩⟩] := by
    decide +kernel
  have hindented : ({} : Lexer).tokenize " 2x" =
      .error ⟨.unknownToken, "2x", ⟨⟨1, 2⟩, "shell"⟩⟩ := by
    decide +kernel
  have hnumber : ({} : Lexer).tokenize "2x" =
      .error ⟨.unknownToken, "2x", ⟨⟨1, 1⟩, "shell"⟩⟩ := by
    decide +kernel
  refine ⟨?_, ?_, ?_⟩
  · exact ((tokenize_lineFeed rfl "a //" "'\n' b").1 _ hcomment).1 _ hstring
  · exact ((tokenize_lineFeed rfl "a //" " 2x").1 _ hcomment).2 _ hindented
  · exact (tokenize_lineFeed rfl "2x" " 2x").2 _ hnumber rfl

end Lexer

end TypedLiterals
