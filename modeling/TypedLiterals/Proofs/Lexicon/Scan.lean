import Mathlib.Data.List.TakeWhile
import TypedLiterals.Proofs.Lexicon.Delimiters

/-!
What a recognizer may find. A token takes the text that stands there, and a comment ends where
comments end: before the first line feed, or behind the first mark that closes it.
-/

namespace TypedLiterals

/-- The text is one comment if `rest` stands behind it. -/
inductive Comment (rest : List Char) : List Char → Prop where
  | line {body : List Char} (inLine : '\n' ∉ body) (ends : ∀ c ∈ rest.head?, c = '\n') :
      Comment rest ('/' :: '/' :: body)
  /-- The closing mark is the first one: there is none in the text before its last character. -/
  | block {body : List Char} (first : ¬ ['*', '/'] <:+: body ++ ['*']) :
      Comment rest ('/' :: '*' :: (body ++ ['*', '/']))

namespace Scan

/-- What is found at the start of `cs` stands there. -/
inductive Stands (cs : List Char) : Scan → Prop where
  | token {kind : TokenKind} {lexeme : List Char} (begins : lexeme <+: cs) :
      Stands cs (token kind lexeme)
  | comment {lexeme rest : List Char} (text : cs = lexeme ++ rest)
      (isComment : Comment rest lexeme) :
      Stands cs (comment lexeme)
  | unterminated {what : Unterminated} : Stands cs (unterminated what)

theorem char?_stands {rules : List CharRule} {cs : List Char} {found : Scan}
    (h : char? rules cs = some found) : found.Stands cs := by
  cases cs with
  | nil => simp [char?] at h
  | cons c rest =>
    rcases Option.map_eq_some_iff.mp h with ⟨rule, -, rfl⟩
    exact .token ⟨rest, rfl⟩

theorem spelling?_stands {rules : List SpellingRule} {cs : List Char} {found : Scan}
    (h : spelling? rules cs = some found) : found.Stands cs := by
  rcases Option.map_eq_some_iff.mp h with ⟨rule, hr, rfl⟩
  have hbegins := List.find?_some hr
  exact .token (List.isPrefixOf_iff_prefix.mp hbegins)

theorem pattern?_stands {rules : List PatternRule} {cs : List Char} {found : Scan}
    (h : pattern? rules cs = some found) : found.Stands cs := by
  rcases List.exists_of_findSome?_eq_some h with ⟨rule, -, hr⟩
  rcases Option.map_eq_some_iff.mp hr with ⟨lexeme, hl, rfl⟩
  exact .token (Matcher.lexeme?_eq_some hl).1

theorem word?_stands {cs : List Char} {found : Scan} (h : word? cs = some found) :
    found.Stands cs := by
  unfold word? at h
  split at h
  · cases h
    exact .token (List.takeWhile_prefix _)
  · contradiction

theorem string?_stands {cs : List Char} {found : Scan} (h : string? cs = some found) :
    found.Stands cs := by
  cases cs with
  | nil => simp [string?] at h
  | cons quote rest =>
    simp only [string?] at h
    split at h
    · split at h
      · rename_i text htext
        cases h
        obtain ⟨body, rest, -, rfl, rfl⟩ := Quoted.exists_body_of_close? htext
        exact .token ⟨rest, by simp⟩
      · cases h
        exact .unterminated
    · contradiction

theorem hex?_stands {cs : List Char} {found : Scan} (h : hex? cs = some found) :
    found.Stands cs := by
  unfold hex? at h
  split at h
  · rename_i x rest
    split at h
    · split at h
      · contradiction
      · cases h
        exact .token ((List.prefix_cons_inj _).mpr ((List.prefix_cons_inj _).mpr
          (List.takeWhile_prefix _)))
    · contradiction
  · contradiction

theorem lineComment?_stands {cs : List Char} {found : Scan} (h : lineComment? cs = some found) :
    found.Stands cs := by
  unfold lineComment? at h
  split at h
  · rename_i rest
    cases h
    refine .comment (?_ : _ = _ ++ rest.dropWhile (· ≠ '\n')) (.line ?_ ?_)
    · simp only [List.cons_append, List.takeWhile_append_dropWhile]
    · intro hmem
      simpa using List.mem_takeWhile_imp hmem
    · intro c hc
      have hstop := List.head?_dropWhile_not (· ≠ '\n') rest
      rw [Option.mem_def.mp hc] at hstop
      simpa using hstop
  · contradiction

theorem blockComment?_stands {cs : List Char} {found : Scan}
    (h : blockComment? cs = some found) : found.Stands cs := by
  unfold blockComment? at h
  split at h
  · rename_i rest
    split at h
    · rename_i text ht
      cases h
      rcases closeComment?_eq_some ht with ⟨body, rfl, ⟨tail, rfl⟩, hfirst⟩
      exact .comment rfl (.block hfirst)
    · cases h
      exact .unterminated
  · contradiction

section Kinds

variable {cs lexeme : List Char} {kind : TokenKind}

theorem exists_rule_of_char? {rules : List CharRule}
    (h : char? rules cs = some (token kind lexeme)) : ∃ rule ∈ rules, rule.kind = kind := by
  cases cs with
  | nil => cases h
  | cons c rest =>
    rcases Option.map_eq_some_iff.mp h with ⟨rule, hfind, hrule⟩
    cases hrule
    exact ⟨rule, List.mem_of_find?_eq_some hfind, rfl⟩

theorem exists_rule_of_spelling? {rules : List SpellingRule}
    (h : spelling? rules cs = some (token kind lexeme)) : ∃ rule ∈ rules, rule.kind = kind := by
  rcases Option.map_eq_some_iff.mp h with ⟨rule, hfind, hrule⟩
  cases hrule
  exact ⟨rule, List.mem_of_find?_eq_some hfind, rfl⟩

theorem kind_of_word? (h : word? cs = some (token kind lexeme)) :
    kind = .ofWord (String.ofList lexeme) := by
  rw [word?] at h
  split at h
  · cases h
    rfl
  · cases h

theorem kind_of_string? (h : string? cs = some (token kind lexeme)) : kind = .stringLiteral := by
  rw [string?.eq_def] at h
  split at h
  · cases h
  · split at h
    · split at h
      · cases h
        rfl
      · cases h
    · cases h

theorem kind_of_hex? (h : hex? cs = some (token kind lexeme)) : kind = .integerLiteral := by
  rw [hex?.eq_def] at h
  split at h
  · split at h
    · split at h
      · cases h
      · cases h
        rfl
    · cases h
  · cases h

theorem lineComment?_ne_token : lineComment? cs ≠ some (token kind lexeme) := by
  rw [lineComment?.eq_def]
  split
  · nofun
  · nofun

theorem blockComment?_ne_token : blockComment? cs ≠ some (token kind lexeme) := by
  rw [blockComment?.eq_def]
  split
  · split
    · nofun
    · nofun
  · nofun

end Kinds

end Scan

-- Whatever is found stands at the start of the text that was searched.
theorem Recognizer.scan?_stands {recognizer : Recognizer} {rules : Rules} {cs : List Char}
    {found : Scan} (h : recognizer.scan? rules cs = some found) : found.Stands cs := by
  cases recognizer with
  | char => exact Scan.char?_stands h
  | spelling => exact Scan.spelling?_stands h
  | pattern => exact Scan.pattern?_stands h
  | word => exact Scan.word?_stands h
  | string => exact Scan.string?_stands h
  | hex => exact Scan.hex?_stands h
  | lineComment => exact Scan.lineComment?_stands h
  | blockComment => exact Scan.blockComment?_stands h

theorem Recognizer.firstScan?_stands {order : List Recognizer} {rules : Rules} {cs : List Char}
    {found : Scan} (h : firstScan? order rules cs = some found) : found.Stands cs := by
  rcases List.exists_of_findSome?_eq_some h with ⟨recognizer, -, hr⟩
  exact scan?_stands hr

end TypedLiterals
