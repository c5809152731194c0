import TypedLiterals.Proofs.Lexicon.NumberPattern
import TypedLiterals.Proofs.Number.PointText
import TypedLiterals.Proofs.Token.Run

/-!
The texts of the numbers that the lexer of the language reads.
-/

namespace TypedLiterals

theorem TokenKind.ofWord_ne_number (text : String) :
    ofWord text ≠ .integerLiteral ∧ ofWord text ≠ .floatingLiteral := by
  rw [ofWord.eq_def]
  split <;> decide

/-- A lexeme has the form of its kind, if that is a kind of number. -/
structure NumberText (kind : TokenKind) (lexeme : List Char) : Prop where
  natural : kind = .integerLiteral → NaturalText lexeme
  point : kind = .floatingLiteral →
    ∃ whole fraction, PointText (String.ofList lexeme) whole fraction

namespace NumberText

variable {kind : TokenKind} {lexeme : List Char}

theorem of_ne (h : kind ≠ .integerLiteral ∧ kind ≠ .floatingLiteral) : NumberText kind lexeme :=
  ⟨fun hkind => absurd hkind h.1, fun hkind => absurd hkind h.2⟩

theorem of_natural (h : NaturalText lexeme) : NumberText .integerLiteral lexeme :=
  ⟨fun _ => h, nofun⟩

theorem of_point (h : ∃ whole fraction, PointText (String.ofList lexeme) whole fraction) :
    NumberText .floatingLiteral lexeme :=
  ⟨nofun, fun _ => h⟩

end NumberText

namespace Scan

theorem naturalText_of_hex? {cs lexeme : List Char} {kind : TokenKind}
    (h : hex? cs = some (token kind lexeme)) : NaturalText lexeme := by
  rw [hex?.eq_def] at h
  split at h
  · rename_i mark rest
    split at h
    · rename_i hmark
      split at h
      · cases h
      · rename_i hne
        cases h
        exact .hexadecimal hmark hne fun _ hd => List.mem_takeWhile_imp hd
    · cases h
  · cases h

end Scan

namespace Recognizer

variable {recognizer : Recognizer} {cs lexeme : List Char} {kind : TokenKind}

-- Only the patterns and the hexadecimal recognizer make numbers.
theorem numberText_of_scan? (h : recognizer.scan? .language cs = some (.token kind lexeme)) :
    NumberText kind lexeme := by
  cases recognizer with
  | char =>
    have hkinds : ∀ rule ∈ Rules.language.chars,
        rule.kind ≠ .integerLiteral ∧ rule.kind ≠ .floatingLiteral := by decide
    obtain ⟨rule, hmem, rfl⟩ := Scan.exists_rule_of_char? h
    exact .of_ne (hkinds rule hmem)
  | spelling =>
    have hkinds : ∀ rule ∈ Rules.language.spellings,
        rule.kind ≠ .integerLiteral ∧ rule.kind ≠ .floatingLiteral := by decide
    obtain ⟨rule, hmem, rfl⟩ := Scan.exists_rule_of_spelling? h
    exact .of_ne (hkinds rule hmem)
  | pattern =>
    obtain ⟨text, rest, -, ⟨htoken, hmatch⟩ | ⟨htoken, hmatch⟩⟩ := Scan.number_of_pattern? h
    · cases htoken
      exact .of_point (Pattern.matchesText_decimalFraction_iff.mp hmatch).1
    · obtain ⟨hne, hdigits, -⟩ := Pattern.matchesText_decimalInteger_iff.mp hmatch
      cases htoken
      exact .of_natural (.decimal hne hdigits)
  | word =>
    rw [Scan.kind_of_word? h]
    exact .of_ne (TokenKind.ofWord_ne_number _)
  | string =>
    rw [Scan.kind_of_string? h]
    exact .of_ne (by decide)
  | hex =>
    have hnatural := Scan.naturalText_of_hex? h
    rw [Scan.kind_of_hex? h]
    exact .of_natural hnatural
  | lineComment => exact absurd h Scan.lineComment?_ne_token
  | blockComment => exact absurd h Scan.blockComment?_ne_token

end Recognizer

namespace Lexer

variable {order : List Recognizer} {lexer : Lexer} {c : Cursor} {tokens : List Token}

theorem numberText_of_reads (hrules : lexer.rules = .language) (h : Reads order lexer c tokens) :
    ∀ token ∈ tokens, NumberText token.kind token.text.toList := by
  induction h with
  | atEnd => simp
  | @token _ kind lexeme _ _ found _ ih =>
    rw [List.forall_mem_cons]
    refine ⟨?_, ih⟩
    rw [hrules] at found
    obtain ⟨recognizer, -, hscan⟩ := List.exists_of_findSome?_eq_some found
    show NumberText kind (String.ofList lexeme).toList
    rw [String.toList_ofList]
    exact Recognizer.numberText_of_scan? hscan
  | comment _ _ _ ih => exact ih

theorem numberText_of_tokenize {source : String} (hrules : lexer.rules = .language)
    (h : lexer.tokenize source = .ok tokens) :
    ∀ token ∈ tokens, NumberText token.kind token.text.toList :=
  numberText_of_reads hrules (reads_of_tokensFrom h)

-- The floating-point literals of the language are point texts.
theorem pointText_of_tokenize {source : String} {token : Token} (hrules : lexer.rules = .language)
    (h : lexer.tokenize source = .ok tokens) (hmem : token ∈ tokens)
    (hkind : token.kind = .floatingLiteral) :
    ∃ whole fraction, PointText token.text whole fraction := by
  have hpoint := (numberText_of_tokenize hrules h token hmem).point hkind
  rwa [String.ofList_toList] at hpoint

end Lexer

end TypedLiterals
