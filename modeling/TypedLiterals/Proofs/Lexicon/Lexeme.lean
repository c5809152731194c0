import Mathlib.Data.List.Nodup
import TypedLiterals.Proofs.Lexicon.Separation

/-!
The tokens of the language, apart from the recognizers that find them: a text, its kind and what
may stand behind it. The recognizers find these tokens, and no others.
-/

namespace TypedLiterals

theorem ne_escape_of_isQuote {quote : Char} (h : isQuote quote = true) : quote ≠ '\\' := by
  rintro rfl
  revert h
  decide

/-- A point, digits and perhaps an `f`, up to the edge of a word. Digits in front of them are the
whole part of a fraction. -/
inductive PointFollows : List Char → Prop where
  | intro {digits mark rest : List Char} (ne : digits ≠ [])
      (isDigit : ∀ c ∈ digits, c.isDigit = true) (isMark : mark = [] ∨ mark = ['f'])
      (ends : EndsWord rest) : PointFollows ('.' :: (digits ++ (mark ++ rest)))

/-- The text is a token of this kind if `rest` stands behind it. -/
inductive Lexeme (rest : List Char) : TokenKind → List Char → Prop where
  | char {rule : CharRule} (known : rule ∈ Rules.language.chars)
      (allowed : rest.head?.any rule.notBefore.contains = false) :
      Lexeme rest rule.kind [rule.char]
  | spelling {rule : SpellingRule} (known : rule ∈ Rules.language.spellings) :
      Lexeme rest rule.kind rule.spelling
  | fraction {text whole fraction : List Char}
      (point : PointText (String.ofList text) whole fraction) (ends : EndsWord rest) :
      Lexeme rest .floatingLiteral text
  | integer {row : List Char} (ne : row ≠ []) (digits : ∀ c ∈ row, c.isDigit = true)
      (ends : EndsWord rest) (noPoint : ¬PointFollows rest) : Lexeme rest .integerLiteral row
  /-- The longest row of characters of a name. -/
  | word {c : Char} {row : List Char} (start : isNameStart c = true)
      (goesOn : ∀ d ∈ row, isNameChar d = true) (ends : rest.head?.any isNameChar = false) :
      Lexeme rest (.ofWord (String.ofList (c :: row))) (c :: row)
  | string {quote : Char} {body : List Char} (opens : isQuote quote = true)
      (contents : Quoted.Body quote body) :
      Lexeme rest .stringLiteral (quote :: (body ++ [quote]))
  /-- The longest row of hexadecimal digits behind its mark. -/
  | hex {x : Char} {row : List Char} (mark : x = 'x' ∨ x = 'X') (ne : row ≠ [])
      (digits : ∀ d ∈ row, isHexDigit d = true) (ends : rest.head?.any isHexDigit = false) :
      Lexeme rest .integerLiteral ('0' :: x :: row)

section Numbers

variable {row rest text : List Char}

theorem matchesText_point {digits mark after : List Char} (hne : row ≠ [])
    (hrow : ∀ c ∈ row, c.isDigit = true) (hdigits_ne : digits ≠ [])
    (hdigits : ∀ c ∈ digits, c.isDigit = true) (hmark : mark = [] ∨ mark = ['f'])
    (hends : EndsWord after) :
    Pattern.decimalFraction.MatchesText (row ++ '.' :: (digits ++ mark)) after := by
  apply Pattern.matchesText_decimalFraction_iff.mpr
  refine ⟨⟨row, digits, hne, hrow, hdigits_ne, hdigits, ?_⟩, hends⟩
  rw [String.toList_ofList]
  rcases hmark with rfl | rfl
  · left
    rw [List.append_nil]
  · right
    rw [List.append_assoc, List.cons_append]

-- The whole part of the fraction is all of the digits.
theorem pointFollows_of_matchesText {after : List Char} (hrow : ∀ c ∈ row, c.isDigit = true)
    (hends : EndsWord rest) (heq : row ++ rest = text ++ after)
    (h : Pattern.decimalFraction.MatchesText text after) : PointFollows rest := by
  obtain ⟨⟨whole, fraction, hpoint⟩, hafter⟩ := Pattern.matchesText_decimalFraction_iff.mp h
  obtain ⟨mark, hmark, rfl⟩ := hpoint.exists_mark
  rw [List.append_assoc] at heq
  have hwhole : row = whole := by
    rw [← takeWhile_row hrow (hends.head?_any isWordChar_of_isDigit), heq]
    exact takeWhile_row hpoint.whole_digits rfl
  rw [hwhole, List.append_cancel_left_eq, List.cons_append, List.append_assoc] at heq
  rw [heq]
  exact .intro hpoint.fraction_ne hpoint.fraction_digits hmark hafter

end Numbers

namespace Scan

variable {cs rest text : List Char} {kind : TokenKind}

section Found

theorem lexeme_of_char? (h : char? Rules.language.chars cs = some (token kind text)) :
    ∃ rest, cs = text ++ rest ∧ Lexeme rest kind text := by
  cases cs with
  | nil => cases h
  | cons c cs =>
    obtain ⟨rule, hfind, hrule⟩ := Option.map_eq_some_iff.mp h
    have hmem := List.mem_of_find?_eq_some hfind
    have haccepts := List.find?_some hfind
    rw [CharRule.accepts, Bool.and_eq_true, decide_eq_true_eq, Bool.not_eq_true'] at haccepts
    obtain ⟨rfl, hallowed⟩ := haccepts
    cases hrule
    exact ⟨cs, rfl, .char hmem hallowed⟩

theorem lexeme_of_spelling? (h : spelling? Rules.language.spellings cs = some (token kind text)) :
    ∃ rest, cs = text ++ rest ∧ Lexeme rest kind text := by
  obtain ⟨rule, hfind, hrule⟩ := Option.map_eq_some_iff.mp h
  have hprefix := List.find?_some hfind
  obtain ⟨rest, rfl⟩ := List.isPrefixOf_iff_prefix.mp hprefix
  cases hrule
  exact ⟨rest, rfl, .spelling (List.mem_of_find?_eq_some hfind)⟩

theorem pattern?_of_fraction (h : Pattern.decimalFraction.MatchesText text rest) :
    pattern? Rules.language.patterns (text ++ rest) = some (token .floatingLiteral text) := by
  have hlexeme := Pattern.lexeme?_decimalFraction_iff.mpr ⟨rest, rfl, h⟩
  rw [pattern?]
  show List.findSome? _ (_ :: _) = _
  rw [List.findSome?_cons, hlexeme]
  rfl

theorem lexeme_of_pattern? (h : pattern? Rules.language.patterns cs = some (token kind text)) :
    ∃ rest, cs = text ++ rest ∧ Lexeme rest kind text := by
  obtain ⟨lexeme, rest, rfl, ⟨htoken, hmatch⟩ | ⟨htoken, hmatch⟩⟩ := number_of_pattern? h
  · cases htoken
    obtain ⟨⟨whole, fraction, hpoint⟩, hends⟩ := Pattern.matchesText_decimalFraction_iff.mp hmatch
    exact ⟨rest, rfl, .fraction hpoint hends⟩
  · cases htoken
    obtain ⟨hne, hdigits, hends⟩ := Pattern.matchesText_decimalInteger_iff.mp hmatch
    refine ⟨rest, rfl, .integer hne hdigits hends ?_⟩
    -- The pattern of the fractions is tried first.
    intro hpoint
    cases hpoint with
    | intro ne isDigit isMark ends =>
      have hfound := pattern?_of_fraction (matchesText_point hne hdigits ne isDigit isMark ends)
      rw [List.append_assoc, List.cons_append, List.append_assoc, h] at hfound
      cases hfound

theorem lexeme_of_word? (h : word? cs = some (token kind text)) :
    ∃ rest, cs = text ++ rest ∧ Lexeme rest kind text := by
  rw [word?] at h
  split at h
  · rename_i hhead
    cases h
    refine ⟨cs.dropWhile isNameChar, List.takeWhile_append_dropWhile.symm, ?_⟩
    cases cs with
    | nil => cases hhead
    | cons c cs =>
      rw [List.head?_cons, Option.any_some] at hhead
      rw [List.takeWhile_cons_of_pos (isNameChar_of_isNameStart hhead)]
      exact .word hhead (fun d hd => List.mem_takeWhile_imp hd) (head?_dropWhile_any isNameChar _)
  · cases h

theorem lexeme_of_string? (h : string? cs = some (token kind text)) :
    ∃ rest, cs = text ++ rest ∧ Lexeme rest kind text := by
  cases cs with
  | nil => cases h
  | cons quote cs =>
    rw [string?] at h
    split at h
    · rename_i hquote
      split at h
      · rename_i closed hclose
        cases h
        obtain ⟨body, rest, hbody, rfl, rfl⟩ := Quoted.exists_body_of_close? hclose
        exact ⟨rest, by simp, .string (isQuote_iff.mpr hquote) hbody⟩
      · cases h
    · cases h

theorem lexeme_of_hex? (h : hex? cs = some (token kind text)) :
    ∃ rest, cs = text ++ rest ∧ Lexeme rest kind text := by
  unfold hex? at h
  split at h
  · rename_i x cs
    split at h
    · rename_i hx
      split at h
      · cases h
      · rename_i row hne
        cases h
        refine ⟨cs.dropWhile isHexDigit, ?_, ?_⟩
        · simp only [List.cons_append, List.takeWhile_append_dropWhile]
        · exact .hex hx hne (fun d hd => List.mem_takeWhile_imp hd)
            (head?_dropWhile_any isHexDigit _)
    · cases h
  · cases h

end Found

section Finding

theorem char?_of_rule {rule : CharRule} (hmem : rule ∈ Rules.language.chars)
    (hallowed : rest.head?.any rule.notBefore.contains = false) :
    char? Rules.language.chars (rule.char :: rest) = some (token rule.kind [rule.char]) := by
  have hdistinct : (Rules.language.chars.map (·.char)).Nodup := by decide
  have haccepts : rule.accepts rule.char rest.head? = true := by
    rw [CharRule.accepts, hallowed, decide_eq_true rfl]
    rfl
  have hfind : (Rules.language.chars.find? (·.accepts rule.char rest.head?)).isSome = true :=
    List.find?_isSome.mpr ⟨rule, hmem, haccepts⟩
  obtain ⟨first, hfirst⟩ := Option.isSome_iff_exists.mp hfind
  have hfirst_accepts := List.find?_some hfirst
  rw [CharRule.accepts, Bool.and_eq_true, decide_eq_true_eq] at hfirst_accepts
  obtain rfl : rule = first :=
    List.inj_on_of_nodup_map hdistinct hmem (List.mem_of_find?_eq_some hfirst) hfirst_accepts.1
  rw [char?, hfirst]
  rfl

-- All spellings are of the same length, so that none is the start of another.
theorem spelling?_of_rule {rule : SpellingRule} (hmem : rule ∈ Rules.language.spellings)
    (rest : List Char) :
    spelling? Rules.language.spellings (rule.spelling ++ rest) =
      some (token rule.kind rule.spelling) := by
  have hdistinct : (Rules.language.spellings.map (·.spelling)).Nodup := by decide
  have hlength : ∀ rule ∈ Rules.language.spellings, rule.spelling.length = 2 := by decide
  have hprefix : rule.spelling.isPrefixOf (rule.spelling ++ rest) = true :=
    List.isPrefixOf_iff_prefix.mpr (List.prefix_append _ _)
  have hfind : (Rules.language.spellings.find?
      (·.spelling.isPrefixOf (rule.spelling ++ rest))).isSome = true :=
    List.find?_isSome.mpr ⟨rule, hmem, hprefix⟩
  obtain ⟨first, hfirst⟩ := Option.isSome_iff_exists.mp hfind
  have hfirst_mem := List.mem_of_find?_eq_some hfirst
  have hfirst_begins := List.find?_some hfirst
  have hfirst_prefix := List.isPrefixOf_iff_prefix.mp hfirst_begins
  have hsame : rule.spelling = first.spelling := by
    apply List.IsPrefix.eq_of_length
    · apply List.prefix_of_prefix_length_le (List.prefix_append _ rest) hfirst_prefix
      rw [hlength rule hmem, hlength first hfirst_mem]
    · rw [hlength rule hmem, hlength first hfirst_mem]
  obtain rfl : rule = first := List.inj_on_of_nodup_map hdistinct hmem hfirst_mem hsame
  rw [spelling?, hfirst]
  rfl

theorem pattern?_of_integer (hne : text ≠ []) (hdigits : ∀ c ∈ text, c.isDigit = true)
    (hends : EndsWord rest) (hpoint : ¬PointFollows rest) :
    pattern? Rules.language.patterns (text ++ rest) = some (token .integerLiteral text) := by
  have hmatch := Pattern.matchesText_decimalInteger_iff.mpr ⟨hne, hdigits, hends⟩
  have hlexeme := Pattern.lexeme?_decimalInteger_iff.mpr ⟨rest, rfl, hmatch⟩
  have hfraction : (Pattern.decimalFraction : Matcher).lexeme? (text ++ rest) = none := by
    rw [Option.eq_none_iff_forall_ne_some]
    intro longer hlonger
    obtain ⟨after, heq, hmatch⟩ := Pattern.lexeme?_decimalFraction_iff.mp hlonger
    exact hpoint (pointFollows_of_matchesText hdigits hends heq hmatch)
  rw [pattern?]
  show List.findSome? _ (_ :: _ :: _) = _
  rw [List.findSome?_cons, hfraction, Option.map_none, List.findSome?_cons, hlexeme]
  rfl

theorem word?_of_row {c : Char} {row : List Char} (hstart : isNameStart c = true)
    (hrow : ∀ d ∈ row, isNameChar d = true) (hends : rest.head?.any isNameChar = false) :
    word? (c :: row ++ rest) = some (token (.ofWord (String.ofList (c :: row))) (c :: row)) := by
  have hall : ∀ d ∈ c :: row, isNameChar d = true :=
    List.forall_mem_cons.mpr ⟨isNameChar_of_isNameStart hstart, hrow⟩
  have hhead : (c :: row ++ rest).head?.any isNameStart = true := hstart
  rw [word?, if_pos hhead, takeWhile_row hall hends]

theorem string?_of_body {quote : Char} {body : List Char} (hquote : isQuote quote = true)
    (hbody : Quoted.Body quote body) :
    string? (quote :: (body ++ [quote]) ++ rest) =
      some (token .stringLiteral (quote :: (body ++ [quote]))) := by
  have hclose := hbody.close?_eq (ne_escape_of_isQuote hquote) rest
  rw [List.cons_append, string?, if_pos (isQuote_iff.mp hquote), List.append_assoc,
    List.singleton_append, hclose]

theorem hex?_of_row {x : Char} {row : List Char} (hx : x = 'x' ∨ x = 'X') (hne : row ≠ [])
    (hrow : ∀ d ∈ row, isHexDigit d = true) (hends : rest.head?.any isHexDigit = false) :
    hex? ('0' :: x :: row ++ rest) = some (token .integerLiteral ('0' :: x :: row)) := by
  rw [List.cons_append, List.cons_append, hex?, if_pos hx, takeWhile_row hrow hends]
  split
  · contradiction
  · rfl

theorem exists_scan_of_comment (h : Comment rest text) :
    ∃ recognizer : Recognizer,
      recognizer.scan? .language (text ++ rest) = some (comment text) := by
  cases h with
  | @line body inLine ends =>
    have hbody : ∀ c ∈ body, decide (c ≠ '\n') = true := by
      intro c hc
      rw [decide_eq_true_eq]
      rintro rfl
      exact inLine hc
    have hends : rest.head?.any (fun c => decide (c ≠ '\n')) = false := by
      cases rest with
      | nil => rfl
      | cons c rest =>
        rw [ends c rfl]
        rfl
    refine ⟨.lineComment, ?_⟩
    rw [Recognizer.scan?, List.cons_append, List.cons_append, lineComment?,
      takeWhile_row hbody hends]
  | @block body first =>
    have hclose := closeComment?_eq first rest
    refine ⟨.blockComment, ?_⟩
    simp only [List.cons_append, List.append_assoc, List.nil_append]
    rw [Recognizer.scan?, blockComment?, hclose]

end Finding

end Scan

namespace Recognizer

variable {cs rest text : List Char} {kind : TokenKind} {recognizer : Recognizer}

/-- Whatever token a recognizer finds is one of the language. -/
theorem lexeme_of_scan? (h : recognizer.scan? .language cs = some (.token kind text)) :
    ∃ rest, cs = text ++ rest ∧ Lexeme rest kind text := by
  cases recognizer with
  | char => exact Scan.lexeme_of_char? h
  | spelling => exact Scan.lexeme_of_spelling? h
  | pattern => exact Scan.lexeme_of_pattern? h
  | word => exact Scan.lexeme_of_word? h
  | string => exact Scan.lexeme_of_string? h
  | hex => exact Scan.lexeme_of_hex? h
  | lineComment => exact absurd h Scan.lineComment?_ne_token
  | blockComment => exact absurd h Scan.blockComment?_ne_token

theorem comment_of_scan? (h : recognizer.scan? .language cs = some (.comment text)) :
    ∃ rest, cs = text ++ rest ∧ Comment rest text := by
  cases scan?_stands h with
  | comment text isComment => exact ⟨_, text, isComment⟩

/-- Whatever token of the language stands somewhere, a recognizer finds it there. -/
theorem exists_scan_of_lexeme (h : Lexeme rest kind text) :
    ∃ recognizer : Recognizer,
      recognizer.scan? .language (text ++ rest) = some (.token kind text) := by
  cases h with
  | char known allowed => exact ⟨.char, Scan.char?_of_rule known allowed⟩
  | spelling known => exact ⟨.spelling, Scan.spelling?_of_rule known rest⟩
  | fraction point ends =>
    have hmatch := Pattern.matchesText_decimalFraction_iff.mpr ⟨⟨_, _, point⟩, ends⟩
    exact ⟨.pattern, Scan.pattern?_of_fraction hmatch⟩
  | integer ne digits ends noPoint =>
    exact ⟨.pattern, Scan.pattern?_of_integer ne digits ends noPoint⟩
  | word start goesOn ends => exact ⟨.word, Scan.word?_of_row start goesOn ends⟩
  | string opens contents => exact ⟨.string, Scan.string?_of_body opens contents⟩
  | hex mark ne digits ends => exact ⟨.hex, Scan.hex?_of_row mark ne digits ends⟩

end Recognizer

end TypedLiterals
