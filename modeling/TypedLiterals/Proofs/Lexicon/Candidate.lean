import TypedLiterals.Proofs.Lexicon.Lexeme

/-!
The texts that may be taken at once from the start of a longer one, whatever recognizer takes them.
Whatever a recognizer takes is such a text, and none of these texts reaches beyond what is taken.
-/

namespace TypedLiterals

/-- The text may be taken at once if `rest` stands behind it. What may follow the character of a
token is left out of account. -/
inductive Candidate (rest : List Char) : List Char → Prop where
  | char {rule : CharRule} (known : rule ∈ Rules.language.chars) : Candidate rest [rule.char]
  | spelling {rule : SpellingRule} (known : rule ∈ Rules.language.spellings) :
      Candidate rest rule.spelling
  | fraction {text : List Char}
      (matching : Pattern.decimalFraction.MatchesText text rest) : Candidate rest text
  | integer {text : List Char}
      (matching : Pattern.decimalInteger.MatchesText text rest) : Candidate rest text
  /-- The longest row of characters of a name. -/
  | word {c : Char} {row : List Char} (start : isNameStart c = true)
      (goesOn : ∀ d ∈ row, isNameChar d = true) (ends : rest.head?.any isNameChar = false) :
      Candidate rest (c :: row)
  | string {quote : Char} {body : List Char} (opens : isQuote quote = true)
      (contents : Quoted.Body quote body) : Candidate rest (quote :: (body ++ [quote]))
  /-- The longest row of hexadecimal digits behind its mark. -/
  | hex {x : Char} {row : List Char} (mark : x = 'x' ∨ x = 'X') (ne : row ≠ [])
      (digits : ∀ d ∈ row, isHexDigit d = true) (ends : rest.head?.any isHexDigit = false) :
      Candidate rest ('0' :: x :: row)
  | comment {text : List Char} (isComment : Comment rest text) : Candidate rest text

/-- The text stands at the start of `cs` and may be taken there at once. -/
def Candidate.At (cs text : List Char) : Prop :=
  ∃ rest, cs = text ++ rest ∧ Candidate rest text

/-- No text that may be taken at the start of `cs` is longer. -/
def Candidate.Longest (cs text : List Char) : Prop :=
  Candidate.At cs text ∧ ∀ other, Candidate.At cs other → other.length ≤ text.length

theorem Lexeme.candidate {rest text : List Char} {kind : TokenKind} (h : Lexeme rest kind text) :
    Candidate rest text := by
  cases h with
  | char known => exact .char known
  | spelling known => exact .spelling known
  | fraction point ends =>
    exact .fraction (Pattern.matchesText_decimalFraction_iff.mpr ⟨⟨_, _, point⟩, ends⟩)
  | integer ne digits ends =>
    exact .integer (Pattern.matchesText_decimalInteger_iff.mpr ⟨ne, digits, ends⟩)
  | word start goesOn ends => exact .word start goesOn ends
  | string opens contents => exact .string opens contents
  | hex mark ne digits ends => exact .hex mark ne digits ends

namespace Scan

/-- Whatever text this takes has at least so many characters. -/
def Reaches (n : Nat) (found : Scan) : Prop :=
  ∀ text, found.lexeme? = some text → n ≤ text.length

variable {cs rest text : List Char} {found : Scan}

theorem reaches_of_lexeme? (htext : found.lexeme? = some text) : found.Reaches text.length := by
  intro other hother
  rw [htext, Option.some.injEq] at hother
  rw [hother]

-- Where a fraction stands it begins with the integer.
theorem exists_pattern_of_integer (h : Pattern.decimalInteger.MatchesText text rest) :
    ∃ found, pattern? Rules.language.patterns (text ++ rest) = some found ∧
      found.Reaches text.length := by
  obtain ⟨hne, hdigits, hends⟩ := Pattern.matchesText_decimalInteger_iff.mp h
  by_cases hpoint : PointFollows rest
  · cases hpoint with
    | @intro digits mark after ne isDigit isMark ends =>
      have hlonger := matchesText_point hne hdigits ne isDigit isMark ends
      have hfound := pattern?_of_fraction hlonger
      rw [List.append_assoc, List.cons_append, List.append_assoc] at hfound
      refine ⟨_, hfound, ?_⟩
      intro other hother
      cases hother
      rw [List.length_append]
      omega
  · exact ⟨_, pattern?_of_integer hne hdigits hends hpoint, reaches_of_lexeme? rfl⟩

end Scan

namespace Recognizer

open Rules

variable {cs rest text : List Char} {found : Scan} {recognizer : Recognizer}

/-- Whatever a recognizer takes is one of the texts that may be taken at once. -/
theorem candidate_of_scan? (h : recognizer.scan? .language cs = some found)
    (htext : found.lexeme? = some text) : Candidate.At cs text := by
  cases found with
  | token kind lexeme =>
    cases htext
    obtain ⟨rest, rfl, hlexeme⟩ := lexeme_of_scan? h
    exact ⟨rest, rfl, hlexeme.candidate⟩
  | comment lexeme =>
    cases htext
    obtain ⟨rest, rfl, hcomment⟩ := comment_of_scan? h
    exact ⟨rest, rfl, .comment hcomment⟩
  | unterminated what => cases htext

-- Some recognizer applies where an opener stands: the one of its spelling or of its comment.
theorem exists_scan_of_opener {opener : List Char} (h : opener ∈ openers) (rest : List Char) :
    ∃ (recognizer : Recognizer) (found : Scan),
      recognizer.scan? .language (opener ++ rest) = some found := by
  rcases List.mem_append.mp h with hcomment | hspelling
  · simp only [List.mem_cons, List.not_mem_nil, or_false] at hcomment
    rcases hcomment with rfl | rfl
    · exact ⟨.lineComment, _, rfl⟩
    · cases hclose : Scan.closeComment? rest with
      | none => exact ⟨.blockComment, .unterminated .comment, by
          simp [scan?, Scan.blockComment?, hclose]⟩
      | some body => exact ⟨.blockComment, .comment ('/' :: '*' :: body), by
          simp [scan?, Scan.blockComment?, hclose]⟩
  · obtain ⟨rule, hmem, rfl⟩ := List.mem_map.mp hspelling
    exact ⟨.spelling, _, Scan.spelling?_of_rule hmem rest⟩

theorem exists_scan_of_char {rule : CharRule} (h : rule ∈ language.chars) (rest : List Char) :
    ∃ (recognizer : Recognizer) (found : Scan),
      recognizer.scan? .language (rule.char :: rest) = some found := by
  by_cases hnext : rest.head?.any rule.notBefore.contains = true
  · cases rest with
    | nil => cases hnext
    | cons d rest =>
      have hd : [rule.char, d] ∈ rule.refused :=
        List.mem_map_of_mem (List.contains_iff_mem.mp hnext)
      exact exists_scan_of_opener (refused_openers rule h _ hd) rest
  · exact ⟨.char, _, Scan.char?_of_rule h (Bool.eq_false_iff.mpr hnext)⟩

/-- Where a text may be taken at once some recognizer applies, and it takes no less. -/
theorem exists_scan_of_candidate (h : Candidate rest text) :
    ∃ (recognizer : Recognizer) (found : Scan),
      recognizer.scan? .language (text ++ rest) = some found ∧ found.Reaches text.length := by
  cases h with
  | char known =>
    obtain ⟨recognizer, found, hfound⟩ := exists_scan_of_char known rest
    refine ⟨recognizer, found, hfound, ?_⟩
    intro text htext
    exact List.length_pos_iff.mpr (lexeme_ne_nil_of_scan? language_productive hfound htext)
  | spelling known =>
    exact ⟨.spelling, _, Scan.spelling?_of_rule known rest, Scan.reaches_of_lexeme? rfl⟩
  | fraction matching =>
    exact ⟨.pattern, _, Scan.pattern?_of_fraction matching, Scan.reaches_of_lexeme? rfl⟩
  | integer matching =>
    obtain ⟨found, hfound, hreaches⟩ := Scan.exists_pattern_of_integer matching
    exact ⟨.pattern, found, hfound, hreaches⟩
  | word start goesOn ends =>
    exact ⟨.word, _, Scan.word?_of_row start goesOn ends, Scan.reaches_of_lexeme? rfl⟩
  | string opens contents =>
    exact ⟨.string, _, Scan.string?_of_body opens contents, Scan.reaches_of_lexeme? rfl⟩
  | hex mark ne digits ends =>
    exact ⟨.hex, _, Scan.hex?_of_row mark ne digits ends, Scan.reaches_of_lexeme? rfl⟩
  | comment isComment =>
    obtain ⟨recognizer, hfound⟩ := Scan.exists_scan_of_comment isComment
    exact ⟨recognizer, _, hfound, Scan.reaches_of_lexeme? rfl⟩

end Recognizer

end TypedLiterals
