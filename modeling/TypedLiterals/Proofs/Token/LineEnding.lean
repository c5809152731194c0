import TypedLiterals.Proofs.Source.Returns
import TypedLiterals.Proofs.Token.Passage

/-!
It makes no difference whether lines end in a line feed or in a carriage return and a line feed. The
carriage return is a blank between tokens, the last character of a comment of one line, and else a
part of what the line feed is part of. So a source is read into the same tokens at the same places,
or refused with the same error at the same place.
-/

namespace TypedLiterals

def Token.withReturns (t : Token) : Token :=
  { t with text := String.ofList (TypedLiterals.withReturns t.text.toList) }

namespace Quoted

variable {quote c : Char} {body : List Char}

theorem close?_cons (hquote : c ≠ quote) (hescape : c ≠ '\\') (cs : List Char) :
    close? quote (c :: cs) = (close? quote cs).map (c :: ·) := by
  rw [close?, if_neg hquote]
  rintro d tail rfl
  exact absurd rfl hescape

theorem map_withReturns {f g : List Char → List Char}
    (h : ∀ text, f (withReturns text) = withReturns (g text)) (found : Option (List Char)) :
    (found.map withReturns).map f = (found.map g).map withReturns := by
  cases found with
  | none => rfl
  | some text => exact congrArg some (h text)

-- A backslash in front of a line feed then escapes the carriage return, and the line feed is plain.
theorem close?_withReturns (hquote : isQuote quote = true) (cs : List Char) :
    close? quote (withReturns cs) = (close? quote cs).map withReturns := by
  have hreturn : '\r' ≠ quote := ne_of_isQuote hquote rfl
  have hline : '\n' ≠ quote := ne_of_isQuote hquote rfl
  fun_induction close? quote cs with
  | case1 => rfl
  | case2 c cs ih =>
    rw [withReturns_cons (by decide)]
    by_cases hc : c = '\n'
    · subst hc
      rw [withReturns_lineFeed, close?, close?_cons hline (by decide), ih, Option.map_map]
      refine map_withReturns (fun text => ?_) _
      rw [withReturns_cons (by decide), withReturns_lineFeed]
      rfl
    · rw [withReturns_cons hc, close?, ih]
      refine map_withReturns (fun text => ?_) _
      rw [withReturns_cons (by decide), withReturns_cons hc]
  | case3 cs =>
    rw [withReturns_cons hline.symm, Option.map_some, withReturns_cons hline.symm]
    exact Body.empty.close?_eq (ne_escape_of_isQuote hquote) (withReturns cs)
  | case4 c cs hescape hc ih =>
    by_cases hfeed : c = '\n'
    · subst hfeed
      rw [withReturns_lineFeed, close?_cons hreturn (by decide), close?_cons hline (by decide), ih,
        Option.map_map]
      exact map_withReturns (fun text => (withReturns_lineFeed text).symm) _
    · have hcons : close? quote (c :: withReturns cs) =
          (close? quote (withReturns cs)).map (c :: ·) := by
        rw [close?, if_neg hc]
        rintro d tail rfl hcs
        cases cs with
        | nil => cases hcs
        | cons e cs => exact hescape e cs rfl rfl
      rw [withReturns_cons hfeed, hcons, ih]
      exact map_withReturns (fun text => (withReturns_cons hfeed text).symm) _

theorem Body.withReturns (hquote : isQuote quote = true) (h : Body quote body) :
    Body quote (withReturns body) := by
  have hclose := close?_withReturns hquote (body ++ [quote])
  rw [h.close?_eq (ne_escape_of_isQuote hquote), Option.map_some, withReturns_append,
    withReturns_cons (ne_of_isQuote hquote rfl).symm] at hclose
  obtain ⟨found, rest, hfound, heq, -⟩ := exists_body_of_close? hclose
  rwa [List.append_cancel_right heq]

end Quoted

section Lexicon

variable {rest text : List Char} {kind : TokenKind}

theorem PointFollows.of_withReturns (h : PointFollows (withReturns rest)) : PointFollows rest := by
  obtain ⟨row, after, heq, -, hrow, ends, hfollows⟩ := h.exists_row
  have hreturn : '\r' ∉ '.' :: row :=
    List.not_mem_cons_of_ne_of_not_mem (by decide) fun hmem => absurd (hrow _ hmem) (by decide)
  have hline : '\n' ∉ '.' :: row :=
    List.not_mem_cons_of_ne_of_not_mem (by decide) fun hmem => absurd (hrow _ hmem) (by decide)
  obtain ⟨tail, rfl, rfl⟩ := exists_tail_of_withReturns_eq hreturn hline heq
  rw [EndsWord, head?_any_withReturns (by decide)] at ends
  exact hfollows ends

theorem Follower.withReturns (rest : List Char) : Follower rest (withReturns rest) where
  point := .of_withReturns
  begins := by
    intro c hc
    cases rest with
    | nil => cases hc
    | cons d rest =>
      by_cases hd : d = '\n'
      · subst hd
        obtain rfl := Option.some.inj hc
        exact .inr rfl
      · rw [withReturns_cons hd] at hc
        exact .inl hc

theorem lineFeed_not_mem_of_char : ∀ rule ∈ Rules.language.chars, '\n' ∉ [rule.char] := by
  decide

theorem lineFeed_not_mem_of_spelling :
    ∀ rule ∈ Rules.language.spellings, '\n' ∉ rule.spelling := by
  decide

-- Only a string goes on over the end of a line.
theorem Lexeme.withReturns (h : Lexeme rest kind text) :
    Lexeme (withReturns rest) kind (withReturns text) := by
  have hrest := h.of_follower (.withReturns rest)
  cases h with
  | char known => rwa [withReturns_of_not_mem (lineFeed_not_mem_of_char _ known)]
  | spelling known => rwa [withReturns_of_not_mem (lineFeed_not_mem_of_spelling _ known)]
  | @fraction _ whole fraction point =>
    obtain ⟨mark, hmark, rfl⟩ := point.exists_mark
    have hline : '\n' ∉ whole ++ '.' :: (fraction ++ mark) := by
      rw [List.mem_append, List.mem_cons, not_or, not_or]
      refine ⟨fun h => ?_, by decide, fun h => ?_⟩
      · exact absurd (point.whole_digits _ h) (by decide)
      · exact absurd (isFractionChar_of_mem point.fraction_digits hmark _ h) (by decide)
    rwa [withReturns_of_not_mem hline]
  | integer _ digits =>
    rwa [withReturns_of_not_mem fun hline => absurd (digits _ hline) (by decide)]
  | @word c row start goesOn =>
    have hname : ∀ d ∈ c :: row, isNameChar d = true :=
      List.forall_mem_cons.mpr ⟨isNameChar_of_isNameStart start, goesOn⟩
    rwa [withReturns_of_not_mem fun hline => absurd (hname _ hline) (by decide)]
  | @string quote body opens contents =>
    have hquote : quote ≠ '\n' := (Quoted.ne_of_isQuote opens rfl).symm
    rw [withReturns_cons hquote, withReturns_append, withReturns_cons hquote]
    exact .string opens (contents.withReturns opens)
  | @hex x row mark _ digits =>
    have hline : '\n' ∉ '0' :: x :: row := by
      rw [List.mem_cons, List.mem_cons, not_or, not_or]
      refine ⟨by decide, ?_, fun hline => absurd (digits _ hline) (by decide)⟩
      rcases mark with rfl | rfl
      · decide
      · decide
    rwa [withReturns_of_not_mem hline]

theorem Comment.withReturns (h : Comment rest text) :
    Comment (withReturns rest) (withReturns text) ∨
      ∃ more, rest = '\n' :: more ∧
        Comment ('\n' :: withReturns more) (withReturns text ++ ['\r']) := by
  cases h with
  | @line body inLine ends =>
    have htext : '\n' ∉ '/' :: '/' :: body := by simp [inLine]
    rw [withReturns_of_not_mem htext]
    cases rest with
    | nil => exact .inl (.line inLine ends)
    | cons c more =>
      obtain rfl : c = '\n' := ends c rfl
      have hbody : '\n' ∉ body ++ ['\r'] := by simp [inLine]
      exact .inr ⟨more, rfl, .line hbody fun _ hc => (Option.some.inj hc).symm⟩
  | @block body first =>
    left
    rw [withReturns_cons (by decide), withReturns_cons (by decide), withReturns_append]
    apply Comment.block
    rwa [← @withReturns_of_not_mem ['*'] (by decide), ← withReturns_append,
      infix_withReturns_iff (by decide) (by decide) (by decide)]

end Lexicon

section Stuck

variable {cs : List Char} {fault : LexicalFault}

theorem Unknown.withReturns (h : Unknown cs) : Unknown (withReturns cs) := by
  cases h with
  | @char c rest strange =>
    by_cases hc : c = '\n'
    · subst hc
      exact .char (by decide)
    · rw [withReturns_cons hc]
      exact .char strange
  | @number row rest w ne digits goesOn noDigit noHex =>
    have hrow : '\n' ∉ row := fun hline => absurd (digits _ hline) (by decide)
    have hw : w ≠ '\n' := by
      rintro rfl
      cases goesOn
    rw [withReturns_append, withReturns_of_not_mem hrow, withReturns_cons hw]
    apply Unknown.number ne digits goesOn noDigit
    intro hzero hmark
    rw [head?_any_withReturns (by decide)]
    exact noHex hzero hmark

theorem Unterminated.Opens.withReturns {what : Unterminated} (h : what.Opens cs) :
    what.Opens (withReturns cs) := by
  cases what with
  | string =>
    obtain ⟨quote, tail, rfl, hquote, hopen⟩ := h
    have hescape := ne_escape_of_isQuote hquote
    have hclose := Quoted.close?_withReturns hquote tail
    rw [(Quoted.close?_eq_none_iff hescape).mpr hopen] at hclose
    rw [withReturns_cons (Quoted.ne_of_isQuote hquote rfl).symm]
    exact ⟨quote, _, rfl, hquote, (Quoted.close?_eq_none_iff hescape).mp hclose⟩
  | comment =>
    obtain ⟨tail, rfl, hopen⟩ := h
    rw [withReturns_cons (by decide), withReturns_cons (by decide)]
    refine ⟨_, rfl, ?_⟩
    rwa [infix_withReturns_iff (by decide) (by decide) (List.cons_ne_nil _ _)]

theorem Stuck.withReturns (h : Stuck cs fault) : Stuck (withReturns cs) fault := by
  cases h with
  | unknown unknown noBlank =>
    refine .unknown unknown.withReturns ?_
    rwa [head?_any_withReturns rfl]
  | unterminated opens => exact .unterminated opens.withReturns

end Stuck

/-- The text behind the passage may not begin with a line feed, since the carriage return in front
of it would be a part of a comment at the end of the passage. -/
theorem Passage.withReturns {rest text : List Char} {p : Place} {tokens : List Token}
    (h : Passage rest p text tokens) (hrest : ∀ c ∈ rest.head?, c ≠ '\n') :
    Passage (withReturns rest) p (withReturns text) (tokens.map Token.withReturns) := by
  induction h with
  | done => exact .done
  | @blank p c text tokens blank _ ih =>
    by_cases hc : c = '\n'
    · subst hc
      rw [withReturns_lineFeed]
      exact .blank rfl (.blank rfl ih)
    · rw [withReturns_cons hc]
      exact .blank blank ih
  | @comment p lexeme text tokens isComment _ ih =>
    rw [withReturns_append]
    rcases isComment.withReturns with hcomment | ⟨more, hmore, hcomment⟩
    · rw [withReturns_append] at hcomment
      rw [← Place.after_withReturns] at ih
      exact .comment hcomment ih
    · cases text with
      | nil =>
        rw [List.nil_append] at hmore
        exact absurd rfl (hrest '\n' (hmore ▸ rfl))
      | cons c text =>
        -- What was a blank behind the comment is now its last character.
        obtain rfl : c = '\n' := (List.cons.inj hmore).1
        obtain rfl : text ++ rest = more := (List.cons.inj hmore).2
        rw [withReturns_append] at hcomment
        rw [withReturns_lineFeed] at ih ⊢
        have hline := (ih.head_cases.resolve_right fun h => absurd h.1 (by decide)).2
        rw [← Place.after_withReturns p lexeme] at hline
        rw [List.append_cons]
        refine .comment hcomment ?_
        rwa [Place.after_append]
  | @token p kind lexeme text tokens isLexeme _ ih =>
    have hlexeme := isLexeme.withReturns
    rw [withReturns_append] at hlexeme
    rw [← Place.after_withReturns] at ih
    rw [withReturns_append, List.map_cons, Token.withReturns, String.toList_ofList]
    exact .token hlexeme ih

namespace Lexer

variable {lexer : Lexer}

theorem errorBehind_withReturns (file : String) (text rest : List Char) (fault : LexicalFault) :
    ∃ snippet, errorBehind file (withReturns text) (withReturns rest) fault =
      { errorBehind file text rest fault with snippet := snippet } := by
  refine ⟨(errorBehind file (withReturns text) (withReturns rest) fault).snippet, ?_⟩
  rw [errorBehind, errorAt, errorBehind, errorAt, Place.after_withReturns]

theorem tokenize_withReturns_ok (hrules : lexer.rules = .language) {source : String}
    {tokens : List Token} (h : lexer.tokenize source = .ok tokens) :
    lexer.tokenize (String.ofList (withReturns source.toList)) =
      .ok (tokens.map Token.withReturns) := by
  rw [tokenize_eq_ok_iff hrules, String.toList_ofList]
  exact ((tokenize_eq_ok_iff hrules).mp h).withReturns nofun

theorem tokenize_withReturns_error (hrules : lexer.rules = .language) {source : String}
    {e : LexicalError} (h : lexer.tokenize source = .error e) :
    ∃ snippet, lexer.tokenize (String.ofList (withReturns source.toList)) =
      .error { e with snippet := snippet } := by
  obtain ⟨text, rest, tokens, hsource, hpassage, hstuck, he⟩ := (tokenize_eq_error_iff hrules).mp h
  -- The lexer is not stuck at a line feed.
  have hrest : ∀ c ∈ rest.head?, c ≠ '\n' := by
    obtain ⟨d, tail, rfl, hd⟩ := hstuck.exists_head
    rintro c hc rfl
    cases Option.some.inj hc
    cases hd
  obtain ⟨snippet, hsnippet⟩ := errorBehind_withReturns lexer.file text rest e.fault
  rw [← he] at hsnippet
  refine ⟨snippet, (tokenize_eq_error_iff hrules).mpr ?_⟩
  rw [String.toList_ofList, hsource, withReturns_append]
  exact ⟨_, _, _, rfl, hpassage.withReturns hrest, hstuck.withReturns, hsnippet.symm⟩

/-- With carriage returns in front of its line feeds a source is read into the same tokens at the
same places, or refused with the same fault at the same place. -/
theorem tokenize_withReturns (hrules : lexer.rules = .language) (source : String) :
    (lexer.tokenize (String.ofList (withReturns source.toList))).isOk =
        (lexer.tokenize source).isOk ∧
      (∀ tokens, lexer.tokenize source = .ok tokens →
        lexer.tokenize (String.ofList (withReturns source.toList)) =
          .ok (tokens.map Token.withReturns)) ∧
      ∀ e, lexer.tokenize source = .error e → ∃ snippet,
        lexer.tokenize (String.ofList (withReturns source.toList)) =
          .error { e with snippet := snippet } := by
  refine ⟨?_, fun _ => tokenize_withReturns_ok hrules, fun _ => tokenize_withReturns_error hrules⟩
  cases h : lexer.tokenize source with
  | ok tokens =>
    rw [tokenize_withReturns_ok hrules h]
    rfl
  | error e =>
    obtain ⟨snippet, hsnippet⟩ := tokenize_withReturns_error hrules h
    rw [hsnippet]
    rfl

/-- A comment of one line, a backslash at the end of a line within a string, and an open comment. -/
theorem tokenize_withReturns_escape :
    ({} : Lexer).tokenize "a //\r\n'\\\r\n'" =
        .ok [⟨.identifier, "a", ⟨1, 1⟩⟩, ⟨.stringLiteral, "'\\\r\n'", ⟨2, 1⟩⟩] ∧
      ∃ snippet, ({} : Lexer).tokenize "a\r\n/*\r\n" =
        .error ⟨.unterminated .comment, snippet, ⟨⟨2, 1⟩, "shell"⟩⟩ := by
  have hstring : ({} : Lexer).tokenize "a //\n'\\\n'" =
      .ok [⟨.identifier, "a", ⟨1, 1⟩⟩, ⟨.stringLiteral, "'\\\n'", ⟨2, 1⟩⟩] := by
    decide +kernel
  have hopen : ({} : Lexer).tokenize "a\n/*\n" =
      .error ⟨.unterminated .comment, "/*", ⟨⟨2, 1⟩, "shell"⟩⟩ := by
    decide +kernel
  exact ⟨(tokenize_withReturns rfl "a //\n'\\\n'").2.1 _ hstring,
    (tokenize_withReturns rfl "a\n/*\n").2.2 _ hopen⟩

end Lexer

end TypedLiterals
