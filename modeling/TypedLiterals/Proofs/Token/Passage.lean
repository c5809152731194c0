import TypedLiterals.Proofs.Source.Place
import TypedLiterals.Proofs.Token.Refusal

/-!
How far the lexer of the language gets. A passage is a text that it reads, with whatever really
stands behind that text: a token or a comment may not go on there. Reading ends well behind a
passage over all of the source, and fails behind a passage up to where the lexer is stuck.
-/

namespace TypedLiterals

/-- The text begins at a place and has `rest` behind it. It is blanks, comments and these tokens. -/
inductive Passage (rest : List Char) : Place → List Char → List Token → Prop where
  | done {p : Place} : Passage rest p [] []
  | blank {p : Place} {c : Char} {text : List Char} {tokens : List Token}
      (blank : isBlank c = true) (more : Passage rest (p.step c) text tokens) :
      Passage rest p (c :: text) tokens
  | comment {p : Place} {lexeme text : List Char} {tokens : List Token}
      (isComment : Comment (text ++ rest) lexeme)
      (more : Passage rest (p.after lexeme) text tokens) : Passage rest p (lexeme ++ text) tokens
  | token {p : Place} {kind : TokenKind} {lexeme text : List Char} {tokens : List Token}
      (isLexeme : Lexeme (text ++ rest) kind lexeme)
      (more : Passage rest (p.after lexeme) text tokens) :
      Passage rest p (lexeme ++ text) (⟨kind, String.ofList lexeme, p⟩ :: tokens)

section Heads

variable {rest text : List Char} {kind : TokenKind}

theorem exists_head_of_begins (h : text.head?.any Rules.begins = true) :
    ∃ c tail, text = c :: tail ∧ isBlank c = false := by
  obtain ⟨c, tail, rfl, hc⟩ := exists_cons_of_head?_any h
  refine ⟨c, tail, rfl, ?_⟩
  rw [Bool.eq_false_iff]
  intro hblank
  exact absurd (hc.symm.trans (Rules.not_begins_of_isBlank hblank)) nofun

theorem Lexeme.exists_head (h : Lexeme rest kind text) :
    ∃ c tail, text = c :: tail ∧ isBlank c = false :=
  exists_head_of_begins h.candidate.head?_any_begins

theorem Comment.exists_head (h : Comment rest text) :
    ∃ c tail, text = c :: tail ∧ isBlank c = false :=
  exists_head_of_begins (Candidate.comment h).head?_any_begins

end Heads

namespace Passage

variable {rest text text' : List Char} {p : Place} {tokens tokens' : List Token}

theorem append (first : Passage (text' ++ rest) p text tokens)
    (second : Passage rest (p.after text) text' tokens') :
    Passage rest p (text ++ text') (tokens ++ tokens') := by
  induction first with
  | done => exact second
  | blank blank _ ih => exact .blank blank (ih second)
  | comment isComment _ ih =>
    rw [Place.after_append] at second
    rw [List.append_assoc]
    exact .comment (by rwa [List.append_assoc]) (ih second)
  | token isLexeme _ ih =>
    rw [Place.after_append] at second
    rw [List.append_assoc]
    exact .token (by rwa [List.append_assoc]) (ih second)

theorem of_comment (h : Comment rest text) : Passage rest p text [] := by
  rw [← List.append_nil text]
  exact .comment h .done

theorem of_lexeme {kind : TokenKind} (h : Lexeme rest kind text) :
    Passage rest p text [⟨kind, String.ofList text, p⟩] := by
  have hpassage : Passage rest p (text ++ []) [⟨kind, String.ofList text, p⟩] := .token h .done
  rwa [List.append_nil] at hpassage

theorem of_blanks (h : ∀ c ∈ text, isBlank c = true) : Passage rest p text [] := by
  induction text generalizing p with
  | nil => exact .done
  | cons c text ih =>
    rw [List.forall_mem_cons] at h
    exact .blank h.1 (ih h.2)

/-- A passage begins with a blank or with what may be taken at its start. -/
theorem head_cases {c : Char} (h : Passage rest p (c :: text) tokens) :
    (isBlank c = true ∧ Passage rest (p.step c) text tokens) ∨
      (isBlank c = false ∧ ∃ lexeme tail more, text = lexeme ++ tail ∧
        Candidate (tail ++ rest) (c :: lexeme) ∧
        Passage rest (p.after (c :: lexeme)) tail more) := by
  generalize hcs : c :: text = cs at h
  cases h with
  | done => cases hcs
  | blank blank more =>
    obtain ⟨rfl, rfl⟩ := List.cons.inj hcs
    exact .inl ⟨blank, more⟩
  | comment isComment more =>
    obtain ⟨d, lexeme, rfl, hd⟩ := isComment.exists_head
    obtain ⟨rfl, rfl⟩ := List.cons.inj hcs
    exact .inr ⟨hd, lexeme, _, _, rfl, .comment isComment, more⟩
  | token isLexeme more =>
    obtain ⟨d, lexeme, rfl, hd⟩ := isLexeme.exists_head
    obtain ⟨rfl, rfl⟩ := List.cons.inj hcs
    exact .inr ⟨hd, lexeme, _, _, rfl, isLexeme.candidate, more⟩

/-- Another text may stand behind a passage if it follows every token of the passage and, like a
line feed, ends a comment of one line. -/
theorem change {rest' : List Char} (h : Passage rest p text tokens)
    (hfollows : ∀ {p tail tokens}, Passage rest p tail tokens →
      Follower (tail ++ rest) (tail ++ rest'))
    (hline : ∀ c ∈ rest'.head?, c ∈ rest.head? ∨ c = '\n') : Passage rest' p text tokens := by
  induction h with
  | done => exact .done
  | blank blank _ ih => exact .blank blank ih
  | @comment p lexeme text tokens isComment more ih =>
    have hline' : ∀ c ∈ (text ++ rest').head?, c ∈ (text ++ rest).head? ∨ c = '\n' := by
      cases text with
      | nil => exact hline
      | cons d text => exact fun c hc => .inl hc
    exact .comment (isComment.of_follower hline') ih
  | token isLexeme more ih => exact .token (isLexeme.of_follower (hfollows more)) ih

/-- A token of a passage stands in its text, and its place is behind what comes before it. -/
theorem exists_split (h : Passage rest p text tokens) {token : Token}
    (hmem : token ∈ tokens) : ∃ before after, text = before ++ (token.text.toList ++ after) ∧
      token.place = p.after before ∧ Lexeme (after ++ rest) token.kind token.text.toList := by
  induction h with
  | done => cases hmem
  | @blank p c text tokens _ _ ih =>
    obtain ⟨before, after, rfl, hplace, hlexeme⟩ := ih hmem
    exact ⟨c :: before, after, rfl, hplace, hlexeme⟩
  | @comment p lexeme text tokens _ _ ih =>
    obtain ⟨before, after, rfl, hplace, hlexeme⟩ := ih hmem
    refine ⟨lexeme ++ before, after, (List.append_assoc ..).symm, ?_, hlexeme⟩
    rw [hplace, Place.after_append]
  | @token p kind lexeme text tokens isLexeme _ ih =>
    rcases List.mem_cons.mp hmem with rfl | hmem
    · refine ⟨[], text, ?_, rfl, ?_⟩
      · rw [String.toList_ofList, List.nil_append]
      · rw [String.toList_ofList]
        exact isLexeme
    · obtain ⟨before, after, rfl, hplace, hlexeme⟩ := ih hmem
      refine ⟨lexeme ++ before, after, (List.append_assoc ..).symm, ?_, hlexeme⟩
      rw [hplace, Place.after_append]

end Passage

section Progress

open Recognizer

/-- Where the lexer is not stuck it reads something. -/
theorem stuck_or_exists_passage (p : Place) {cs : List Char} (hne : cs ≠ []) :
    (∃ fault, Stuck cs fault) ∨
      ∃ text rest tokens, text ≠ [] ∧ cs = text ++ rest ∧ Passage rest p text tokens := by
  cases hfound : firstScan? inOrder .language cs with
  | none =>
    obtain ⟨c, rest, rfl⟩ := List.exists_cons_of_ne_nil hne
    have hunknown := (firstScan?_eq_none_iff_unknown.mp hfound).resolve_left hne
    by_cases hblank : isBlank c = true
    · exact .inr ⟨[c], rest, [], List.cons_ne_nil c [], rfl, .blank hblank .done⟩
    · exact .inl ⟨_, .unknown hunknown (Bool.eq_false_iff.mpr hblank)⟩
  | some found =>
    cases found with
    | token kind lexeme =>
      obtain ⟨rest, hcs, hlexeme⟩ := firstScan?_eq_token_iff.mp hfound
      obtain ⟨c, tail, rfl, -⟩ := hlexeme.exists_head
      exact .inr ⟨_, rest, _, List.cons_ne_nil c tail, hcs, .of_lexeme hlexeme⟩
    | comment lexeme =>
      obtain ⟨rest, hcs, hcomment⟩ := firstScan?_eq_comment_iff.mp hfound
      obtain ⟨c, tail, rfl, -⟩ := hcomment.exists_head
      exact .inr ⟨_, rest, _, List.cons_ne_nil c tail, hcs, .of_comment hcomment⟩
    | unterminated what =>
      exact .inl ⟨_, .unterminated (firstScan?_eq_unterminated_iff.mp hfound)⟩

/-- The lexer reads on until it reaches the end or is stuck. -/
theorem exists_passage (p : Place) (cs : List Char) :
    ∃ text rest tokens, cs = text ++ rest ∧ Passage rest p text tokens ∧
      (rest = [] ∨ ∃ fault, Stuck rest fault) := by
  induction hlength : cs.length using Nat.strong_induction_on generalizing cs p with
  | _ n ih =>
    by_cases hne : cs = []
    · exact ⟨[], cs, [], rfl, .done, .inl hne⟩
    rcases stuck_or_exists_passage p hne with hstuck | ⟨first, after, read, hfirst, rfl, hread⟩
    · exact ⟨[], cs, [], rfl, .done, .inr hstuck⟩
    · have hshorter : after.length < n := by
        rw [← hlength, List.length_append]
        exact Nat.lt_add_of_pos_left (List.length_pos_iff.mpr hfirst)
      obtain ⟨text, rest, tokens, rfl, hpassage, hend⟩ :=
        ih after.length hshorter (p.after first) after rfl
      exact ⟨first ++ text, rest, _, (List.append_assoc ..).symm, hread.append hpassage, hend⟩

end Progress

namespace Lexer

open Recognizer

variable {lexer : Lexer} {c : Cursor} {text rest : List Char} {tokens : List Token}

section Steps

theorem skipBlanks_of_head {d : Char} (h : c.rest = d :: rest) (hd : isBlank d = false) :
    c.skipBlanks = c := by
  apply skipBlanks_of_atBlank
  rw [Cursor.atBlank, h]
  exact hd

theorem tokensFrom_of_end (h : c.rest = []) : lexer.tokensFrom inOrder c = .ok [] := by
  have hblanks : c.skipBlanks.rest = [] := by rw [Cursor.skipBlanks_rest, h, List.dropWhile_nil]
  rw [tokensFrom_eq, if_pos hblanks]

theorem tokensFrom_of_blank {b : Char} (h : c.rest = b :: rest) (hb : isBlank b = true) :
    lexer.tokensFrom inOrder c = lexer.tokensFrom inOrder (c.skip 1) := by
  have hskip : (c.skip 1).skipBlanks = c.skipBlanks := by
    rw [Cursor.skipBlanks, Cursor.skip_skip, Cursor.skipBlanks, Cursor.skip_rest, h,
      List.takeWhile_cons_of_pos hb, List.length_cons, Nat.add_comm]
    rfl
  rw [tokensFrom_eq, tokensFrom_eq inOrder lexer (c.skip 1), hskip]

theorem tokensFrom_of_lexeme {kind : TokenKind} (hrules : lexer.rules = .language)
    (hc : c.rest = text ++ rest) (h : Lexeme rest kind text) :
    lexer.tokensFrom inOrder c = (lexer.tokensFrom inOrder (c.skip text.length)).map
      (⟨kind, String.ofList text, c.place⟩ :: ·) := by
  have hfound : firstScan? inOrder lexer.rules c.rest = some (.token kind text) := by
    rw [hrules]
    exact firstScan?_eq_token_iff.mpr ⟨rest, hc, h⟩
  obtain ⟨d, tail, rfl, hd⟩ := h.exists_head
  rw [tokensFrom_eq, skipBlanks_of_head hc hd, if_neg (hc ▸ List.cons_ne_nil _ _), firstStep,
    hfound]
  rfl

theorem tokensFrom_of_comment (hrules : lexer.rules = .language) (hc : c.rest = text ++ rest)
    (h : Comment rest text) :
    lexer.tokensFrom inOrder c = lexer.tokensFrom inOrder (c.skip text.length) := by
  have hfound : firstScan? inOrder lexer.rules c.rest = some (.comment text) := by
    rw [hrules]
    exact firstScan?_eq_comment_iff.mpr ⟨rest, hc, h⟩
  obtain ⟨d, tail, rfl, hd⟩ := h.exists_head
  rw [tokensFrom_eq, skipBlanks_of_head hc hd, if_neg (hc ▸ List.cons_ne_nil _ _), firstStep,
    hfound]
  show Except.map ([] ++ ·) (lexer.tokensFrom inOrder (c.skip (d :: tail).length)) = _
  cases lexer.tokensFrom inOrder (c.skip (d :: tail).length) <;> rfl

theorem tokensFrom_of_stuck {fault : LexicalFault} (hrules : lexer.rules = .language)
    (h : Stuck c.rest fault) :
    lexer.tokensFrom inOrder c = .error (errorAt lexer.file c fault) := by
  obtain ⟨d, tail, hc, hd⟩ := h.exists_head
  have hstep : firstStep inOrder lexer c = .error (errorAt lexer.file c fault) := by
    cases h with
    | unknown unknown =>
      rw [firstStep_eq_unknown_iff, hrules]
      exact firstScan?_eq_none_iff_unknown.mpr (.inr unknown)
    | unterminated opens =>
      rw [firstStep_eq_unterminated_iff, hrules]
      exact firstScan?_eq_unterminated_iff.mpr opens
  rw [tokensFrom_eq, skipBlanks_of_head hc hd, if_neg (hc ▸ List.cons_ne_nil _ _), hstep]
  rfl

end Steps

-- The tokens of a passage come before what is read behind it.
theorem tokensFrom_of_passage (hrules : lexer.rules = .language) (hc : c.rest = text ++ rest)
    (h : Passage rest c.place text tokens) :
    lexer.tokensFrom inOrder c =
      (lexer.tokensFrom inOrder (c.skip text.length)).map (tokens ++ ·) := by
  generalize hp : c.place = p at h
  induction h generalizing c with
  | done =>
    rw [List.length_nil, Cursor.skip_zero]
    cases lexer.tokensFrom inOrder c <;> rfl
  | @blank p b text tokens blank _ ih =>
    have hstep : (c.skip 1).place = p.step b := by
      rw [Cursor.skip_place, hc, hp]
      rfl
    rw [tokensFrom_of_blank hc blank, ih (by rw [Cursor.skip_rest, hc]; rfl) hstep,
      Cursor.skip_skip, List.length_cons, Nat.add_comm]
  | @comment p lexeme text tokens isComment _ ih =>
    rw [List.append_assoc] at hc
    have hplace : (c.skip lexeme.length).place = p.after lexeme := by
      rw [Cursor.skip_place, hc, List.take_left, hp]
    rw [tokensFrom_of_comment hrules hc isComment, ih (Cursor.skip_length_rest hc) hplace,
      Cursor.skip_skip, List.length_append]
  | @token p kind lexeme text tokens isLexeme _ ih =>
    rw [List.append_assoc] at hc
    have hplace : (c.skip lexeme.length).place = p.after lexeme := by
      rw [Cursor.skip_place, hc, List.take_left, hp]
    rw [tokensFrom_of_lexeme hrules hc isLexeme, ih (Cursor.skip_length_rest hc) hplace,
      Cursor.skip_skip, List.length_append, hp]
    cases lexer.tokensFrom inOrder (c.skip (lexeme.length + text.length)) <;> rfl

theorem tokensFrom_of_passage_end (hrules : lexer.rules = .language)
    (h : Passage [] c.place c.rest tokens) : lexer.tokensFrom inOrder c = .ok tokens := by
  have hend : (c.skip c.rest.length).rest = [] := by rw [Cursor.skip_rest, List.drop_length]
  rw [tokensFrom_of_passage hrules (List.append_nil _).symm h, tokensFrom_of_end hend]
  show Except.ok (tokens ++ []) = _
  rw [List.append_nil]

theorem tokensFrom_of_passage_stuck {fault : LexicalFault} (hrules : lexer.rules = .language)
    (hc : c.rest = text ++ rest) (h : Passage rest c.place text tokens) (hstuck : Stuck rest fault) :
    lexer.tokensFrom inOrder c = .error (errorAt lexer.file (c.skip text.length) fault) := by
  have hrest := Cursor.skip_length_rest hc
  rw [tokensFrom_of_passage hrules hc h, tokensFrom_of_stuck hrules (hrest.symm ▸ hstuck)]
  rfl

/-- A source is read into these tokens exactly when it is a passage of them. -/
theorem tokenize_eq_ok_iff (hrules : lexer.rules = .language) {source : String} :
    lexer.tokenize source = .ok tokens ↔ Passage [] .start source.toList tokens := by
  refine ⟨?_, fun h => tokensFrom_of_passage_end hrules h⟩
  intro h
  obtain ⟨text, rest, read, hsource, hpassage, hend⟩ := exists_passage .start source.toList
  rcases hend with rfl | ⟨fault, hstuck⟩
  · rw [List.append_nil] at hsource
    rw [← hsource] at hpassage
    obtain rfl : read = tokens :=
      Except.ok.inj ((tokensFrom_of_passage_end hrules hpassage).symm.trans h)
    exact hpassage
  · have herror := tokensFrom_of_passage_stuck (c := .ofSource source.toList) hrules hsource
      hpassage hstuck
    exact absurd (herror.symm.trans h) nofun

/-- The error of a lexer that is stuck where a source goes on from `text` to `rest`. -/
def errorBehind (file : String) (text rest : List Char) (fault : LexicalFault) : LexicalError :=
  errorAt file ⟨rest, Place.start.after text, utf8Length text⟩ fault

theorem errorAt_skip {source : List Char} (h : source = text ++ rest) (file : String)
    (fault : LexicalFault) :
    errorAt file ((Cursor.ofSource source).skip text.length) fault =
      errorBehind file text rest fault := by
  rw [errorAt, errorBehind, errorAt, Cursor.snippet, Cursor.snippet, Cursor.skip_rest,
    Cursor.skip_place]
  show LexicalError.mk _ (String.ofList (((source.drop text.length).takeWhile _).take _))
    { Place.start.after (source.take text.length) with file := file } = _
  rw [h, List.drop_left, List.take_left]

/-- A source is refused exactly when the lexer is stuck behind a passage. -/
theorem tokenize_eq_error_iff (hrules : lexer.rules = .language) {source : String}
    {e : LexicalError} :
    lexer.tokenize source = .error e ↔
      ∃ text rest tokens, source.toList = text ++ rest ∧ Passage rest .start text tokens ∧
        Stuck rest e.fault ∧ e = errorBehind lexer.file text rest e.fault := by
  refine ⟨?_, ?_⟩
  · intro h
    obtain ⟨text, rest, tokens, hsource, hpassage, hend⟩ := exists_passage .start source.toList
    rcases hend with rfl | ⟨fault, hstuck⟩
    · rw [List.append_nil] at hsource
      rw [← hsource] at hpassage
      have hok := tokensFrom_of_passage_end (c := .ofSource source.toList) hrules hpassage
      exact absurd (hok.symm.trans h) nofun
    · have herror := tokensFrom_of_passage_stuck (c := .ofSource source.toList) hrules hsource
        hpassage hstuck
      rw [errorAt_skip hsource] at herror
      obtain rfl := Except.error.inj (herror.symm.trans h)
      exact ⟨text, rest, tokens, hsource, hpassage, hstuck, rfl⟩
  · rintro ⟨text, rest, tokens, hsource, hpassage, hstuck, he⟩
    rw [he, ← errorAt_skip hsource]
    exact tokensFrom_of_passage_stuck hrules hsource hpassage hstuck

end Lexer

end TypedLiterals
