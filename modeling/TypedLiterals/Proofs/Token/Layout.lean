import TypedLiterals.Proofs.Lexicon.Scan
import TypedLiterals.Proofs.Source.Place
import TypedLiterals.Proofs.Token.Run

/-!
Nothing of a source is lost: it is its tokens, each at its place, with blanks and comments between
them.
-/

namespace TypedLiterals

/-- A row of blanks and comments, if `rest` stands behind it. -/
inductive Gap (rest : List Char) : List Char → Prop where
  | nil : Gap rest []
  | blank {c : Char} {text : List Char} (blank : isBlank c = true) (more : Gap rest text) :
      Gap rest (c :: text)
  | comment {lexeme text : List Char} (isComment : Comment (text ++ rest) lexeme)
      (more : Gap rest text) : Gap rest (lexeme ++ text)

namespace Gap

theorem append {first second rest : List Char} (h₁ : Gap (second ++ rest) first)
    (h₂ : Gap rest second) : Gap rest (first ++ second) := by
  induction h₁ with
  | nil => exact h₂
  | blank blank _ ih => exact .blank blank ih
  | comment isComment _ ih =>
    rw [List.append_assoc]
    exact .comment (by rwa [List.append_assoc]) ih

theorem of_blanks {cs : List Char} (h : ∀ c ∈ cs, isBlank c = true) (rest : List Char) :
    Gap rest cs := by
  induction cs with
  | nil => exact .nil
  | cons c cs ih =>
    exact .blank (h c List.mem_cons_self) (ih fun d hd => h d (List.mem_cons_of_mem c hd))

theorem of_comment {lexeme rest : List Char} (h : Comment rest lexeme) : Gap rest lexeme := by
  rw [← List.append_nil lexeme]
  exact .comment h .nil

end Gap

/-- What stands behind `before` is the tokens in their order, each at the place where it is written,
with a gap in front of each and one at the end. -/
inductive Layout : List Char → List Char → List Token → Prop where
  | last {before gap : List Char} (isGap : Gap [] gap) : Layout before gap []
  | token {before gap rest : List Char} {token : Token} {tokens : List Token}
      (isGap : Gap (token.text.toList ++ rest) gap)
      (place : token.place = Place.behind (before ++ gap))
      (more : Layout (before ++ gap ++ token.text.toList) rest tokens) :
      Layout before (gap ++ token.text.toList ++ rest) (token :: tokens)

theorem Layout.of_token {before rest : List Char} {token : Token} {tokens : List Token}
    (hplace : token.place = Place.behind before)
    (h : Layout (before ++ token.text.toList) rest tokens) :
    Layout before (token.text.toList ++ rest) (token :: tokens) := by
  have hlaid := @Layout.token before [] rest token tokens .nil
  simp only [List.append_nil, List.nil_append] at hlaid
  exact hlaid hplace h

-- A gap in front of a laid out text makes its first gap longer.
theorem Layout.of_gap {before gap text : List Char} {tokens : List Token} (hgap : Gap text gap)
    (h : Layout (before ++ gap) text tokens) : Layout before (gap ++ text) tokens := by
  cases h with
  | last isGap => exact .last (Gap.append (by rwa [List.append_nil]) isGap)
  | @token _ inner rest token tokens isGap place more =>
    have hfirst : Gap (token.text.toList ++ rest) (gap ++ inner) := by
      apply Gap.append _ isGap
      rwa [← List.append_assoc]
    rw [List.append_assoc] at place
    rw [show before ++ gap ++ inner ++ token.text.toList
      = before ++ (gap ++ inner) ++ token.text.toList by simp] at more
    rw [show gap ++ (inner ++ token.text.toList ++ rest)
      = gap ++ inner ++ token.text.toList ++ rest by simp]
    exact .token hfirst place more

-- Behind the last token there is nothing but a gap.
theorem Layout.exists_last {before text : List Char} {tokens front : List Token} {last : Token}
    (h : Layout before text tokens) (htokens : tokens = front ++ [last]) :
    ∃ lead gap, text = lead ++ (last.text.toList ++ gap) ∧
      last.place = Place.behind (before ++ lead) ∧ Gap [] gap := by
  induction h generalizing front with
  | last => exact absurd htokens.symm (List.append_ne_nil_of_right_ne_nil _ nofun)
  | @token before gap rest token tokens _ place more ih =>
    cases front with
    | nil =>
      obtain ⟨rfl, rfl⟩ := List.cons.inj htokens
      cases more with
      | last isGap => exact ⟨gap, rest, List.append_assoc .., place, isGap⟩
    | cons other front =>
      obtain ⟨lead, inner, rfl, hplace, isGap⟩ := ih (List.cons.inj htokens).2
      refine ⟨gap ++ token.text.toList ++ lead, inner, ?_, ?_, isGap⟩
      · rw [List.append_assoc _ lead]
      · rw [hplace]
        simp only [List.append_assoc]

namespace Lexer

-- The blanks before a match are a gap in front of what is laid out behind them.
theorem layout_of_skipBlanks {c : Cursor} {before : List Char} {tokens : List Token}
    (h : Layout (before ++ c.rest.takeWhile isBlank) c.skipBlanks.rest tokens) :
    Layout before c.rest tokens := by
  have hgap : Gap c.skipBlanks.rest (c.rest.takeWhile isBlank) :=
    .of_blanks (fun _ hd => List.mem_takeWhile_imp hd) _
  have hrest : c.rest.takeWhile isBlank ++ c.skipBlanks.rest = c.rest := by
    rw [c.skipBlanks_rest, List.takeWhile_append_dropWhile]
  rw [← hrest]
  exact .of_gap hgap h

-- What is read behind a text that is laid out is laid out as well. The invariant is that the cursor
-- stands behind that text.
theorem layout_of_reads {order : List Recognizer} {lexer : Lexer} {c : Cursor}
    {before : List Char} {tokens : List Token} (hc : c.Behind before)
    (h : Reads order lexer c tokens) : Layout before c.rest tokens := by
  induction h generalizing before with
  | atEnd blank =>
    apply layout_of_skipBlanks
    rw [blank]
    exact .last .nil
  | @token c kind lexeme _ _ found _ ih =>
    apply layout_of_skipBlanks
    have hhead := hc.skipBlanks
    cases Recognizer.firstScan?_stands found with
    | token begins =>
      have hmore := ih (hhead.skip_prefix begins)
      rcases begins with ⟨rest, hrest⟩
      rw [Cursor.skip_length_rest hrest.symm] at hmore
      let token : Token := ⟨kind, String.ofList lexeme, c.skipBlanks.place⟩
      have htext : token.text.toList = lexeme := String.toList_ofList
      have hlaid : Layout _ (token.text.toList ++ rest) (token :: _) :=
        .of_token hhead.place (by rwa [htext])
      rwa [htext, hrest] at hlaid
  | comment _ found _ ih =>
    apply layout_of_skipBlanks
    have hhead := hc.skipBlanks
    cases Recognizer.firstScan?_stands found with
    | comment text isComment =>
      have hmore := ih (hhead.skip_prefix ⟨_, text.symm⟩)
      rw [Cursor.skip_length_rest text] at hmore
      rw [text]
      exact .of_gap (.of_comment isComment) hmore

/-- Reading loses nothing and moves nothing: whatever the rules of the language are, the source is
laid out from the tokens that are read. -/
theorem tokenize_layout {lexer : Lexer} {source : String} {tokens : List Token}
    (h : lexer.tokenize source = .ok tokens) : Layout [] source.toList tokens :=
  layout_of_reads (Cursor.ofSource_behind source.toList) (reads_of_tokensFrom h)

/-- A string over two lines and three comments, one of them over two lines. -/
theorem tokenize_layout_comments :
    ({} : Lexer).tokenize "'é\n' // a\n  /* * \n*/ 0x1F /**/x" =
        .ok [⟨.stringLiteral, "'é\n'", ⟨1, 1⟩⟩, ⟨.integerLiteral, "0x1F", ⟨4, 4⟩⟩,
          ⟨.identifier, "x", ⟨4, 13⟩⟩] ∧
      Layout [] "'é\n' // a\n  /* * \n*/ 0x1F /**/x".toList
        [⟨.stringLiteral, "'é\n'", ⟨1, 1⟩⟩, ⟨.integerLiteral, "0x1F", ⟨4, 4⟩⟩,
          ⟨.identifier, "x", ⟨4, 13⟩⟩] := by
  have h : ({} : Lexer).tokenize "'é\n' // a\n  /* * \n*/ 0x1F /**/x" =
      .ok [⟨.stringLiteral, "'é\n'", ⟨1, 1⟩⟩, ⟨.integerLiteral, "0x1F", ⟨4, 4⟩⟩,
        ⟨.identifier, "x", ⟨4, 13⟩⟩] := by
    decide +kernel
  exact ⟨h, tokenize_layout h⟩

end Lexer

end TypedLiterals
