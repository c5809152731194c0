import TypedLiterals.Proofs.Token.Passage

/-!
Writing out the tokens of a source with blanks between them. However a token stood in its source, it
can stand alone or in front of a blank, so what is written out is read as the same tokens.
-/

namespace TypedLiterals

/-- What a token says, wherever it stands. -/
def Token.reading (t : Token) : TokenKind × String :=
  (t.kind, t.text)

/-- The texts of the tokens in their order, with one or more blanks between each two of them. -/
inductive Spaced : List Token → List Char → Prop where
  | none : Spaced [] []
  | last {t : Token} : Spaced [t] t.text.toList
  | next {t u : Token} {tokens : List Token} {gap text : List Char} (ne : gap ≠ [])
      (blank : ∀ c ∈ gap, isBlank c = true) (more : Spaced (u :: tokens) text) :
      Spaced (t :: u :: tokens) (t.text.toList ++ (gap ++ text))

theorem Lexeme.before_blank {rest rest' text : List Char} {kind : TokenKind}
    (h : Lexeme rest kind text) (hblank : ∀ c ∈ rest'.head?, isBlank c = true) :
    Lexeme rest' kind text :=
  h.of_follower (.of_blank hblank)

namespace Passage

variable {rest text : List Char} {p : Place} {tokens : List Token}

theorem exists_lexeme (h : Passage rest p text tokens) :
    ∀ t ∈ tokens, ∃ after, Lexeme after t.kind t.text.toList := by
  induction h with
  | done => nofun
  | blank _ _ ih => exact ih
  | comment _ _ ih => exact ih
  | @token _ kind lexeme text _ isLexeme _ ih =>
    rw [List.forall_mem_cons]
    refine ⟨⟨text ++ rest, ?_⟩, ih⟩
    show Lexeme _ kind (String.ofList lexeme).toList
    rwa [String.toList_ofList]

-- One more token in front of a passage that is empty or begins with a blank.
theorem cons {t : Token} {after : List Char} (ht : Lexeme after t.kind t.text.toList)
    (hblank : ∀ c ∈ (text ++ rest).head?, isBlank c = true)
    (more : Passage rest (p.after t.text.toList) text tokens) :
    Passage rest p (t.text.toList ++ text) ({ t with place := p } :: tokens) := by
  have hpassage := Passage.token (ht.before_blank hblank) more
  rwa [String.ofList_toList] at hpassage

-- The token by itself.
theorem single {t : Token} {after : List Char} (ht : Lexeme after t.kind t.text.toList)
    (p : Place) : Passage [] p t.text.toList [{ t with place := p }] := by
  have hpassage : Passage [] p (t.text.toList ++ []) [{ t with place := p }] :=
    .cons ht nofun .done
  rwa [List.append_nil] at hpassage

end Passage

-- The places of the tokens change, and nothing else.
theorem Spaced.exists_passage {tokens : List Token} {text : List Char} (h : Spaced tokens text)
    (htokens : ∀ t ∈ tokens, ∃ after, Lexeme after t.kind t.text.toList) (p : Place) :
    ∃ again, Passage [] p text again ∧ again.map Token.reading = tokens.map Token.reading := by
  induction h generalizing p with
  | none => exact ⟨[], .done, rfl⟩
  | @last t =>
    obtain ⟨after, ht⟩ := htokens t List.mem_cons_self
    exact ⟨_, .single ht p, rfl⟩
  | @next t u tokens gap text ne blank more ih =>
    rw [List.forall_mem_cons] at htokens
    obtain ⟨⟨after, ht⟩, hmore⟩ := htokens
    obtain ⟨again, hagain, hreading⟩ := ih hmore ((p.after t.text.toList).after gap)
    have hgap : ∀ c ∈ (gap ++ text ++ []).head?, isBlank c = true := by
      cases gap with
      | nil => exact absurd rfl ne
      | cons b gap =>
        intro c hc
        rw [← Option.some.inj hc]
        exact blank b List.mem_cons_self
    refine ⟨_, .cons ht hgap ((Passage.of_blanks blank).append hagain), ?_⟩
    rw [List.map_cons, List.map_cons, List.nil_append, hreading]
    rfl

namespace Lexer

variable {lexer : Lexer}

/-- The tokens of a source may be written out with any blanks between them, and each may be written
by itself: they are read as what they were. -/
theorem tokenize_spaced (hrules : lexer.rules = .language) {source : String} {tokens : List Token}
    (h : lexer.tokenize source = .ok tokens) :
    (∀ text : String, Spaced tokens text.toList →
      ∃ again, lexer.tokenize text = .ok again ∧
        again.map Token.reading = tokens.map Token.reading) ∧
    ∀ t ∈ tokens, lexer.tokenize t.text = .ok [{ t with place := .start }] := by
  have hlexemes := ((tokenize_eq_ok_iff hrules).mp h).exists_lexeme
  refine ⟨?_, ?_⟩
  · intro text hspaced
    obtain ⟨again, hpassage, hreading⟩ := hspaced.exists_passage hlexemes .start
    exact ⟨again, (tokenize_eq_ok_iff hrules).mpr hpassage, hreading⟩
  · intro t ht
    obtain ⟨after, hlexeme⟩ := hlexemes t ht
    exact (tokenize_eq_ok_iff hrules).mpr (.single hlexeme .start)

/-- Two tokens that touch, and a number in front of a point that begins no fraction. -/
theorem tokenize_spaced_hex :
    ∃ again, ({} : Lexer).tokenize "1 .\n0x1F\t g" = .ok again ∧
      again.map Token.reading = [(.integerLiteral, "1"), (.dot, "."), (.integerLiteral, "0x1F"),
        (.identifier, "g")] := by
  have h : ({} : Lexer).tokenize "1.0x1Fg" =
      .ok [⟨.integerLiteral, "1", ⟨1, 1⟩⟩, ⟨.dot, ".", ⟨1, 2⟩⟩,
        ⟨.integerLiteral, "0x1F", ⟨1, 3⟩⟩, ⟨.identifier, "g", ⟨1, 7⟩⟩] := by
    decide +kernel
  have hspaced : Spaced [⟨.integerLiteral, "1", ⟨1, 1⟩⟩, ⟨.dot, ".", ⟨1, 2⟩⟩,
      ⟨.integerLiteral, "0x1F", ⟨1, 3⟩⟩, ⟨.identifier, "g", ⟨1, 7⟩⟩]
      "1 .\n0x1F\t g".toList := by
    have htext : "1 .\n0x1F\t g".toList =
        "1".toList ++ ([' '] ++ (".".toList ++ (['\n'] ++ ("0x1F".toList ++
          (['\t', ' '] ++ "g".toList))))) := by
      decide
    have hspace : ∀ c ∈ [' '], isBlank c = true := by simp [isBlank]
    have hline : ∀ c ∈ ['\n'], isBlank c = true := by simp [isBlank]
    have htab : ∀ c ∈ ['\t', ' '], isBlank c = true := by simp [isBlank]
    rw [htext]
    exact .next (List.cons_ne_nil _ _) hspace (.next (List.cons_ne_nil _ _) hline
      (.next (List.cons_ne_nil _ _) htab .last))
  exact (tokenize_spaced rfl h).1 _ hspaced

end Lexer

end TypedLiterals
