import TypedLiterals.Proofs.Token.ClosingQuote

/-!
What a raw text stands for, piece by piece. The text between the quotes of a string is made up of
such pieces, and unescaping it puts together what they stand for.
-/

namespace TypedLiterals

namespace Quoted

/-- A piece of a raw text and what it stands for, if `rest` stands behind the piece. -/
inductive Segment (rest : List Char) : List Char → List Char → Prop where
  | plain {c : Char} (noEscape : c ≠ '\\') : Segment rest [c] [c]
  | mark {c : Char} (isMark : isMark c = true) : Segment rest ['\\', c] [c]
  | letter {c d : Char} (known : (c, d) ∈ letters) : Segment rest ['\\', d] [c]
  | hex {c high low : Char} (isHigh : isHexDigit high = true) (isLow : isHexDigit low = true)
      (code : c.toNat = 16 * digitValue high + digitValue low) :
      Segment rest ['\\', 'x', high, low] [c]
  /-- The only digit: no other one follows. -/
  | shortHex {c digit : Char} (isDigit : isHexDigit digit = true)
      (code : c.toNat = digitValue digit) (ends : rest.head?.any isHexDigit = false) :
      Segment rest ['\\', 'x', digit] [c]
  | noDigit (ends : rest.head?.any isHexDigit = false) : Segment rest ['\\', 'x'] ['\\', 'x']
  | unknown {c : Char} (noMark : isMark c = false) (noLetter : ∀ entry ∈ letters, entry.2 ≠ c)
      (noHex : c ≠ 'x') : Segment rest ['\\', c] ['\\', c]

/-- A raw text made up of segments, and what they stand for together. -/
inductive Segments : List Char → List Char → Prop where
  | nil : Segments [] []
  | cons {text rest meaning value : List Char} (first : Segment rest text meaning)
      (more : Segments rest value) : Segments (text ++ rest) (meaning ++ value)

variable {c d : Char} {rest text meaning raw value : List Char}

section Resolving

theorem named?_eq_none (noMark : isMark c = false) (noLetter : ∀ entry ∈ letters, entry.2 ≠ c) :
    named? c = none := by
  rw [Bool.eq_false_iff] at noMark
  rw [named?.eq_def]
  split
  · exact absurd rfl (noLetter ('\n', 'n') (by decide))
  · exact absurd rfl (noLetter ('\t', 't') (by decide))
  · exact absurd rfl (noLetter ('\r', 'r') (by decide))
  · exact absurd rfl (noLetter ('\x00', '0') (by decide))
  · exact absurd rfl noMark
  · exact absurd rfl noMark
  · exact absurd rfl noMark
  · rfl

theorem hexDigits_eq_nil (ends : rest.head?.any isHexDigit = false) : hexDigits rest = [] := by
  cases rest with
  | nil => rfl
  | cons c rest => exact List.takeWhile_cons_of_neg (Bool.eq_false_iff.mp ends)

theorem hexDigits_cons (isDigit : isHexDigit d = true)
    (ends : rest.head?.any isHexDigit = false) : hexDigits (d :: rest) = [d] := by
  show (d :: rest.take 1).takeWhile isHexDigit = [d]
  rw [List.takeWhile_cons_of_pos isDigit]
  cases rest with
  | nil => rfl
  | cons c rest => exact congrArg (d :: ·) (List.takeWhile_cons_of_neg (Bool.eq_false_iff.mp ends))

theorem escape_shortHex (isDigit : isHexDigit d = true)
    (ends : rest.head?.any isHexDigit = false) :
    escape 'x' (d :: rest) = ([Char.ofNat (digitValue d)], 1) := by
  have hvalue : ofDigits 16 [d] = digitValue d := Nat.zero_add _
  rw [escape, show named? 'x' = none from rfl, hexDigits_cons isDigit ends]
  show ([Char.ofNat (ofDigits 16 [d])], 1) = _
  rw [hvalue]

theorem escape_noDigit (ends : rest.head?.any isHexDigit = false) :
    escape 'x' rest = (['\\', 'x'], 0) := by
  rw [escape, show named? 'x' = none from rfl, hexDigits_eq_nil ends]
  rfl

theorem Segment.unescapeAfter (h : Segment rest text meaning) :
    unescapeAfter 0 (text ++ rest) = meaning ++ unescapeAfter 0 rest := by
  cases h with
  | plain noEscape => exact unescapeAfter_zero_cons noEscape rest
  | mark isMark => exact Spelling.unescapeAfter (.mark isMark) rest
  | letter known => exact Spelling.unescapeAfter (.letter known) rest
  | hex isHigh isLow code => exact Spelling.unescapeAfter (.hex isHigh isLow code) rest
  | @shortHex c digit isDigit code ends =>
    show Quoted.unescapeAfter 0 ('\\' :: 'x' :: digit :: rest) = _
    rw [Quoted.unescapeAfter, escape_shortHex isDigit ends, ← code, Char.ofNat_toNat]
    rfl
  | noDigit ends =>
    show Quoted.unescapeAfter 0 ('\\' :: 'x' :: rest) = _
    rw [Quoted.unescapeAfter, escape_noDigit ends]
  | @unknown c noMark noLetter noHex =>
    show Quoted.unescapeAfter 0 ('\\' :: c :: rest) = _
    rw [Quoted.unescapeAfter, escape, named?_eq_none noMark noLetter]
    simp only [if_neg noHex]

theorem Segments.unescape (h : Segments raw value) : unescape raw = value := by
  induction h with
  | nil => rfl
  | @cons text rest meaning value first _ ih =>
    show unescapeAfter 0 (text ++ rest) = _
    rw [first.unescapeAfter]
    exact congrArg (meaning ++ ·) ih

end Resolving

section Covering

theorem exists_char_of_code {n : Nat} (h : n < 256) : ∃ c : Char, c.toNat = n :=
  have hvalid : n.isValidChar := .inl (Nat.lt_trans h (by decide))
  ⟨.ofNatAux n hvalid, rfl⟩

theorem Segment.length_pos (h : Segment rest text meaning) : 0 < text.length := by
  cases h <;> exact Nat.zero_lt_succ _

theorem escapesAtEnd_cons_of_isHexDigit (h : isHexDigit d = true) (rest : List Char) :
    escapesAtEnd (d :: rest) = escapesAtEnd rest :=
  escapesAtEnd_cons_of_ne (ne_of_not_isMark (not_isMark_of_isHexDigit h)).1 rest

-- No segment ends in a backslash that escapes what stands behind it.
theorem Segment.escapesAtEnd_append (h : Segment rest text meaning) :
    escapesAtEnd (text ++ rest) % 2 = escapesAtEnd rest % 2 := by
  cases h with
  | plain noEscape => exact congrArg (· % 2) (escapesAtEnd_cons_of_ne noEscape rest)
  | mark => exact escapesAtEnd_escaped _ rest
  | letter => exact escapesAtEnd_escaped _ rest
  | @hex c high low isHigh isLow =>
    rw [← escapesAtEnd_cons_of_isHexDigit isLow rest,
      ← escapesAtEnd_cons_of_isHexDigit isHigh (low :: rest)]
    exact escapesAtEnd_escaped 'x' (high :: low :: rest)
  | @shortHex c digit isDigit =>
    rw [← escapesAtEnd_cons_of_isHexDigit isDigit rest]
    exact escapesAtEnd_escaped 'x' (digit :: rest)
  | noDigit => exact escapesAtEnd_escaped 'x' rest
  | unknown => exact escapesAtEnd_escaped _ rest

-- As many digits as there are, but at most two.
theorem exists_segment_hex (behind : List Char) :
    ∃ text rest meaning, '\\' :: 'x' :: behind = text ++ rest ∧ Segment rest text meaning := by
  cases hfirst : behind.head?.any isHexDigit with
  | false => exact ⟨['\\', 'x'], behind, _, rfl, .noDigit hfirst⟩
  | true =>
    obtain ⟨high, behind, rfl, hhigh⟩ := exists_cons_of_head?_any hfirst
    have hhigh_lt := digitValue_lt_sixteen hhigh
    cases hsecond : behind.head?.any isHexDigit with
    | false =>
      obtain ⟨c, hc⟩ := exists_char_of_code (n := digitValue high) (by omega)
      exact ⟨['\\', 'x', high], behind, [c], rfl, .shortHex hhigh hc hsecond⟩
    | true =>
      obtain ⟨low, rest, rfl, hlow⟩ := exists_cons_of_head?_any hsecond
      have hlow_lt := digitValue_lt_sixteen hlow
      obtain ⟨c, hc⟩ :=
        exists_char_of_code (n := 16 * digitValue high + digitValue low) (by omega)
      exact ⟨['\\', 'x', high, low], rest, [c], rfl, .hex hhigh hlow hc⟩

theorem exists_segment_escaped (d : Char) (behind : List Char) :
    ∃ text rest meaning, '\\' :: d :: behind = text ++ rest ∧ Segment rest text meaning := by
  by_cases hmark : isMark d = true
  · exact ⟨['\\', d], behind, [d], rfl, .mark hmark⟩
  by_cases hletter : ∃ entry ∈ letters, entry.2 = d
  · obtain ⟨⟨c, d⟩, hknown, rfl⟩ := hletter
    exact ⟨['\\', d], behind, [c], rfl, .letter hknown⟩
  by_cases hhex : d = 'x'
  · subst hhex
    exact exists_segment_hex behind
  · push Not at hletter
    exact ⟨['\\', d], behind, _, rfl, .unknown (Bool.eq_false_iff.mpr hmark) hletter hhex⟩

theorem exists_segment (hne : raw ≠ []) (heven : escapesAtEnd raw % 2 = 0) :
    ∃ text rest meaning, raw = text ++ rest ∧ Segment rest text meaning := by
  match raw with
  | [] => exact absurd rfl hne
  | c :: behind =>
    by_cases hc : c = '\\'
    · subst hc
      cases behind with
      | nil => cases heven
      | cons d behind => exact exists_segment_escaped d behind
    · exact ⟨[c], behind, [c], rfl, .plain hc⟩

/-- A raw text is made up of segments unless its last backslash escapes what stands behind it. -/
theorem exists_segments_iff : (∃ value, Segments raw value) ↔ escapesAtEnd raw % 2 = 0 := by
  refine ⟨?_, ?_⟩
  · rintro ⟨value, h⟩
    induction h with
    | nil => rfl
    | cons first _ ih => rwa [first.escapesAtEnd_append]
  · intro heven
    induction hlength : raw.length using Nat.strong_induction_on generalizing raw with
    | _ n ih =>
      by_cases hne : raw = []
      · exact ⟨[], hne ▸ .nil⟩
      obtain ⟨text, rest, meaning, rfl, hsegment⟩ := exists_segment hne heven
      have hshorter : rest.length < n := by
        rw [← hlength, List.length_append]
        exact Nat.lt_add_of_pos_left hsegment.length_pos
      rw [hsegment.escapesAtEnd_append] at heven
      obtain ⟨value, hmore⟩ := ih rest.length hshorter heven rfl
      exact ⟨meaning ++ value, .cons hsegment hmore⟩

end Covering

end Quoted

theorem TokenKind.ofWord_ne_string (text : String) : ofWord text ≠ .stringLiteral := by
  rw [ofWord.eq_def]
  split <;> decide

theorem Lexeme.exists_body {kind : TokenKind} {rest text : List Char} (h : Lexeme rest kind text)
    (hkind : kind = .stringLiteral) :
    ∃ quote body, isQuote quote = true ∧ Quoted.Body quote body ∧
      text = quote :: (body ++ [quote]) := by
  cases h with
  | char known =>
    have hkinds : ∀ rule ∈ Rules.language.chars, rule.kind ≠ .stringLiteral := by decide
    exact absurd hkind (hkinds _ known)
  | spelling known =>
    have hkinds : ∀ rule ∈ Rules.language.spellings, rule.kind ≠ .stringLiteral := by decide
    exact absurd hkind (hkinds _ known)
  | fraction => cases hkind
  | integer => cases hkind
  | word => exact absurd hkind (TokenKind.ofWord_ne_string _)
  | string opens contents => exact ⟨_, _, opens, contents, rfl⟩
  | hex => cases hkind

namespace Lexer

open Quoted

variable {lexer : Lexer}

/-- The string of a token is what the segments between its quotes stand for, one after the other. -/
theorem tokenize_segments (hrules : lexer.rules = .language) :
    (∀ source tokens, lexer.tokenize source = .ok tokens →
      ∀ token ∈ tokens, token.kind = .stringLiteral →
        ∃ quote raw value, isQuote quote = true ∧ token.text = quoted quote raw ∧
          Segments raw value ∧ token.contents = .ok (some (String.ofList (unescape raw)))) ∧
    ∀ raw value, Segments raw value → unescape raw = value := by
  refine ⟨?_, fun _ _ h => h.unescape⟩
  intro source tokens htokens token hmem hkind
  have hpassage := (tokenize_eq_ok_iff hrules).mp htokens
  obtain ⟨_, _, -, -, hlexeme⟩ := hpassage.exists_split hmem
  obtain ⟨quote, raw, hquote, hbody, htext⟩ := hlexeme.exists_body hkind
  obtain ⟨value, hsegments⟩ := exists_segments_iff.mpr hbody.escapesAtEnd_even
  have hquoted : token.text = quoted quote raw := by
    rw [quoted, ← htext, String.ofList_toList]
  obtain ⟨kind, text, place⟩ := token
  cases hkind
  cases hquoted
  exact ⟨quote, raw, value, hquote, rfl, hsegments, Token.contents_quoted hquote raw place⟩

/-- An escape of one digit, one of none, an unknown one, and an escaped backslash before an `x`. -/
theorem tokenize_segments_short :
    (∃ token : Token, Lexer.tokenize {} "'\\x4g\\x\\q\\\\x4'" = .ok [token] ∧
      token.kind = .stringLiteral ∧
      ∃ quote raw value, isQuote quote = true ∧ token.text = quoted quote raw ∧
        Segments raw value ∧ token.contents = .ok (some (String.ofList (unescape raw)))) ∧
    unescape ['\\', 'x', '4', 'g', '\\', 'x', '\\', 'q', '\\', '\\', 'x', '4'] =
      ['\x04', 'g', '\\', 'x', '\\', 'q', '\\', 'x', '4'] := by
  have htokens : Lexer.tokenize {} "'\\x4g\\x\\q\\\\x4'" =
      .ok [⟨.stringLiteral, "'\\x4g\\x\\q\\\\x4'", ⟨1, 1⟩⟩] := by
    decide +kernel
  have hsegments : Segments
      (['\\', 'x', '4'] ++ (['g'] ++ (['\\', 'x'] ++ (['\\', 'q'] ++ (['\\', '\\'] ++
        (['x'] ++ (['4'] ++ [])))))))
      (['\x04'] ++ (['g'] ++ (['\\', 'x'] ++ (['\\', 'q'] ++ (['\\'] ++
        (['x'] ++ (['4'] ++ []))))))) :=
    .cons (.shortHex rfl rfl rfl) (.cons (.plain (by decide)) (.cons (.noDigit rfl)
      (.cons (.unknown rfl (by decide) (by decide)) (.cons (.mark rfl)
        (.cons (.plain (by decide)) (.cons (.plain (by decide)) .nil))))))
  have hclaim := @tokenize_segments {} rfl
  exact ⟨⟨_, htokens, rfl, hclaim.1 _ _ htokens _ (by simp) rfl⟩, hclaim.2 _ _ hsegments⟩

end Lexer

end TypedLiterals
