import TypedLiterals.Proofs.Lexicon.Candidate
import TypedLiterals.Proofs.Token.Order

/-!
The first recognizer that applies takes as much as any could. The recognizers never compare what
they take, and yet a step is over the longest text that may be taken where it begins. Where there
is none, the error tells why.
-/

namespace TypedLiterals

namespace Recognizer

variable {cs text : List Char} {found : Scan} {what : Unterminated}

theorem firstScan?_eq_some_iff : firstScan? inOrder .language cs = some found ↔
    ∃ recognizer : Recognizer, recognizer.scan? .language cs = some found := by
  refine ⟨?_, ?_⟩
  · intro h
    obtain ⟨recognizer, -, hfound⟩ := List.exists_of_findSome?_eq_some h
    exact ⟨recognizer, hfound⟩
  · rintro ⟨recognizer, hfound⟩
    rw [firstScan?_eq mem_inOrder, responsible_of_scan? hfound, hfound]

theorem exists_firstScan_of_candidate (h : Candidate.At cs text) :
    ∃ found, firstScan? inOrder .language cs = some found ∧ found.Reaches text.length := by
  obtain ⟨rest, rfl, hcandidate⟩ := h
  obtain ⟨recognizer, found, hfound, hreaches⟩ := exists_scan_of_candidate hcandidate
  exact ⟨found, firstScan?_eq_some_iff.mpr ⟨recognizer, hfound⟩, hreaches⟩

theorem longest_of_firstScan? (h : firstScan? inOrder .language cs = some found)
    (htext : found.lexeme? = some text) : Candidate.Longest cs text := by
  obtain ⟨recognizer, hfound⟩ := firstScan?_eq_some_iff.mp h
  refine ⟨candidate_of_scan? hfound htext, ?_⟩
  intro other hother
  obtain ⟨found', hfound', hreaches⟩ := exists_firstScan_of_candidate hother
  obtain rfl : found = found' := Option.some.inj (h.symm.trans hfound')
  exact hreaches text htext

theorem not_candidate_of_firstScan? (h : firstScan? inOrder .language cs = none) :
    ¬Candidate.At cs text := by
  intro hcandidate
  obtain ⟨found, hfound, -⟩ := exists_firstScan_of_candidate hcandidate
  exact absurd (h.symm.trans hfound) nofun

end Recognizer

/-- Something begins here that nothing closes: behind a quote no quote ends the string, behind the
mark of a comment there is no closing mark. -/
def Unterminated.Opens : Unterminated → List Char → Prop
  | .string, cs => ∃ quote tail, cs = quote :: tail ∧ isQuote quote = true ∧
      ∀ body rest, Quoted.Body quote body → tail ≠ body ++ quote :: rest
  | .comment, cs => ∃ tail, cs = '/' :: '*' :: tail ∧ ¬['*', '/'] <:+: tail

namespace Scan

variable {cs : List Char} {what : Unterminated}

theorem string?_isSome_iff : (string? cs).isSome = true ↔ cs.head?.any isQuote = true := by
  cases cs with
  | nil => exact Iff.rfl
  | cons quote tail =>
    rw [List.head?_cons, Option.any_some, isQuote_iff, string?]
    by_cases hquote : quote = '"' ∨ quote = '\''
    · rw [if_pos hquote]
      cases Quoted.close? quote tail <;> simp [hquote]
    · rw [if_neg hquote]
      exact iff_of_false Bool.false_ne_true hquote

theorem string?_eq_unterminated_iff :
    string? cs = some (unterminated what) ↔ what = .string ∧ Unterminated.string.Opens cs := by
  refine ⟨?_, ?_⟩
  · intro h
    have hhead := string?_isSome_iff.mp (Option.isSome_iff_exists.mpr ⟨_, h⟩)
    cases cs with
    | nil => cases h
    | cons quote tail =>
      rw [string?] at h
      split at h
      · split at h
        · cases h
        · rename_i hclose
          cases h
          have hopen := (Quoted.close?_eq_none_iff (ne_escape_of_isQuote hhead)).mp hclose
          exact ⟨rfl, quote, tail, rfl, hhead, hopen⟩
      · cases h
  · rintro ⟨rfl, quote, tail, rfl, hquote, hopen⟩
    rw [string?, if_pos (isQuote_iff.mp hquote),
      (Quoted.close?_eq_none_iff (ne_escape_of_isQuote hquote)).mpr hopen]

theorem blockComment?_eq_unterminated_iff :
    blockComment? cs = some (unterminated what) ↔
      what = .comment ∧ Unterminated.comment.Opens cs := by
  refine ⟨?_, ?_⟩
  · intro h
    unfold blockComment? at h
    split at h
    · rename_i tail
      split at h
      · cases h
      · rename_i hclose
        cases h
        exact ⟨rfl, tail, rfl, closeComment?_eq_none_iff.mp hclose⟩
    · cases h
  · rintro ⟨rfl, tail, rfl, hopen⟩
    rw [blockComment?, closeComment?_eq_none_iff.mpr hopen]

end Scan

namespace Recognizer

variable {cs : List Char} {what : Unterminated}

-- The other recognizers either take a text or do not apply.
theorem opens_of_scan? {recognizer : Recognizer}
    (h : recognizer.scan? .language cs = some (.unterminated what)) : what.Opens cs := by
  cases recognizer with
  | char =>
    cases cs with
    | nil => cases h
    | cons c rest =>
      obtain ⟨rule, -, hrule⟩ := Option.map_eq_some_iff.mp h
      cases hrule
  | spelling =>
    obtain ⟨rule, -, hrule⟩ := Option.map_eq_some_iff.mp h
    cases hrule
  | pattern =>
    obtain ⟨rule, -, hrule⟩ := List.exists_of_findSome?_eq_some h
    obtain ⟨lexeme, -, hlexeme⟩ := Option.map_eq_some_iff.mp hrule
    cases hlexeme
  | word =>
    rw [scan?, Scan.word?] at h
    split at h
    · cases h
    · cases h
  | string =>
    obtain ⟨rfl, hopens⟩ := Scan.string?_eq_unterminated_iff.mp h
    exact hopens
  | hex =>
    rw [scan?] at h
    unfold Scan.hex? at h
    split at h
    · split at h
      · split at h
        · cases h
        · cases h
      · cases h
    · cases h
  | lineComment =>
    rw [scan?] at h
    unfold Scan.lineComment? at h
    split at h
    · cases h
    · cases h
  | blockComment =>
    obtain ⟨rfl, hopens⟩ := Scan.blockComment?_eq_unterminated_iff.mp h
    exact hopens

theorem firstScan?_eq_unterminated_iff :
    firstScan? inOrder .language cs = some (.unterminated what) ↔ what.Opens cs := by
  rw [firstScan?_eq_some_iff]
  refine ⟨fun ⟨_, h⟩ => opens_of_scan? h, ?_⟩
  intro h
  cases what with
  | string => exact ⟨.string, Scan.string?_eq_unterminated_iff.mpr ⟨rfl, h⟩⟩
  | comment => exact ⟨.blockComment, Scan.blockComment?_eq_unterminated_iff.mpr ⟨rfl, h⟩⟩

theorem firstScan?_eq_none_iff : firstScan? inOrder .language cs = none ↔
    (∀ text, ¬Candidate.At cs text) ∧ cs.head?.any isQuote = false := by
  refine ⟨?_, ?_⟩
  · intro h
    refine ⟨fun text => not_candidate_of_firstScan? h, ?_⟩
    rw [Bool.eq_false_iff]
    intro hquote
    obtain ⟨found, hfound⟩ := Option.isSome_iff_exists.mp (Scan.string?_isSome_iff.mpr hquote)
    have hfirst := firstScan?_eq_some_iff.mpr ⟨.string, hfound⟩
    exact absurd (h.symm.trans hfirst) nofun
  · rintro ⟨hnone, hquote⟩
    cases hfirst : firstScan? inOrder .language cs with
    | none => rfl
    | some found =>
      cases found with
      | token kind text => exact absurd (longest_of_firstScan? hfirst rfl).1 (hnone text)
      | comment text => exact absurd (longest_of_firstScan? hfirst rfl).1 (hnone text)
      | unterminated what =>
        have hopens := firstScan?_eq_unterminated_iff.mp hfirst
        cases what with
        | string =>
          obtain ⟨quote, tail, rfl, hhead, -⟩ := hopens
          exact absurd (hhead.symm.trans hquote) nofun
        | comment =>
          -- The slash that begins the comment is a token of its own.
          obtain ⟨tail, rfl, -⟩ := hopens
          have hslash : ∃ rule ∈ Rules.language.chars, rule.char = '/' := by decide
          obtain ⟨rule, hmem, hchar⟩ := hslash
          refine absurd ⟨'*' :: tail, ?_, .char hmem⟩ (hnone [rule.char])
          rw [hchar]
          rfl

end Recognizer

namespace Lexer

open Recognizer

variable {order : List Recognizer} {lexer : Lexer} {c : Cursor} {step : Step}

theorem exists_scan_of_firstStep (h : firstStep order lexer c = .ok step) :
    ∃ found text, firstScan? order lexer.rules c.rest = some found ∧ found.lexeme? = some text ∧
      step.cursor = c.skip text.length := by
  rw [firstStep] at h
  split at h
  · cases h
  · rename_i found hfound
    cases found with
    | token kind text =>
      cases h
      exact ⟨_, text, hfound, rfl, rfl⟩
    | comment text =>
      cases h
      exact ⟨_, text, hfound, rfl, rfl⟩
    | unterminated what => cases h

theorem firstStep_eq_unknown_iff :
    firstStep order lexer c = .error (errorAt lexer.file c .unknownToken) ↔
      firstScan? order lexer.rules c.rest = none := by
  rw [firstStep]
  split
  · exact iff_of_true rfl ‹_›
  · rename_i found hfound
    rw [hfound]
    cases found <;> simp [stepOver, errorAt]

theorem firstStep_eq_unterminated_iff {what : Unterminated} :
    firstStep order lexer c = .error (errorAt lexer.file c (.unterminated what)) ↔
      firstScan? order lexer.rules c.rest = some (.unterminated what) := by
  rw [firstStep]
  split
  · rename_i hnone
    rw [hnone]
    simp [errorAt]
  · rename_i found hfound
    rw [hfound]
    cases found <;> simp [stepOver, errorAt]

-- Whatever is wrong is reported at the cursor.
theorem eq_errorAt_of_firstStep {e : LexicalError} (h : firstStep order lexer c = .error e) :
    e = errorAt lexer.file c e.fault := by
  rw [firstStep] at h
  split at h
  · cases h
    rfl
  · rename_i found hfound
    cases found with
    | token kind text => cases h
    | comment text => cases h
    | unterminated what =>
      cases h
      rfl

theorem exists_error_iff {fault : LexicalFault} :
    (∃ e, firstStep order lexer c = .error e ∧ e.fault = fault) ↔
      firstStep order lexer c = .error (errorAt lexer.file c fault) := by
  constructor
  · rintro ⟨e, he, rfl⟩
    rw [← eq_errorAt_of_firstStep he]
    exact he
  · exact fun h => ⟨_, h, rfl⟩

theorem skipBlanks_of_atBlank (h : c.atBlank = false) : c.skipBlanks = c := by
  have hnone : c.rest.takeWhile isBlank = [] := takeWhile_row (List.forall_mem_nil _) h
  rw [Cursor.skipBlanks, hnone, List.length_nil, Cursor.skip_zero]

/-- A step from a place that is neither the end nor a blank is over the longest text that may be
taken there. It fails as unknown where there is neither such a text nor a quote, and as
unterminated where a quote or the mark of a comment opens what nothing closes. The error is at this
place and shows how the line goes on. -/
theorem firstStep_longest (hrules : lexer.rules = .language) (hend : c.atEnd = false)
    (hblank : c.atBlank = false) :
    lexer.tokensFrom inOrder c =
        (firstStep inOrder lexer c).bind (fun step =>
          (lexer.tokensFrom inOrder step.cursor).map (step.token?.toList ++ ·)) ∧
      (∀ step, firstStep inOrder lexer c = .ok step →
        ∃ text, Candidate.Longest c.rest text ∧ step.cursor = c.skip text.length) ∧
      (∀ e, firstStep inOrder lexer c = .error e →
        e.location = ⟨c.place, lexer.file⟩ ∧
          e.snippet = String.ofList ((c.rest.takeWhile (· ≠ '\n')).take 16)) ∧
      ((∃ e, firstStep inOrder lexer c = .error e ∧ e.fault = .unknownToken) ↔
        (∀ text, ¬Candidate.At c.rest text) ∧ c.atQuote = false) ∧
      ((∃ e, firstStep inOrder lexer c = .error e ∧ e.fault = .unterminated .string) ↔
        Unterminated.string.Opens c.rest) ∧
      ((∃ e, firstStep inOrder lexer c = .error e ∧ e.fault = .unterminated .comment) ↔
        Unterminated.comment.Opens c.rest) := by
  refine ⟨?_, ?_, ?_, ?_, ?_, ?_⟩
  · have hne : c.rest ≠ [] := List.isEmpty_eq_false_iff.mp hend
    rw [tokensFrom_eq, skipBlanks_of_atBlank hblank, if_neg hne]
  · intro step hstep
    obtain ⟨found, text, hfound, htext, hcursor⟩ := exists_scan_of_firstStep hstep
    rw [hrules] at hfound
    exact ⟨text, longest_of_firstScan? hfound htext, hcursor⟩
  · intro e he
    rw [eq_errorAt_of_firstStep he]
    exact ⟨rfl, rfl⟩
  · rw [exists_error_iff, firstStep_eq_unknown_iff, hrules]
    exact firstScan?_eq_none_iff
  · rw [exists_error_iff, firstStep_eq_unterminated_iff, hrules]
    exact firstScan?_eq_unterminated_iff
  · rw [exists_error_iff, firstStep_eq_unterminated_iff, hrules]
    exact firstScan?_eq_unterminated_iff

/-- A fraction is taken whole. A quote that nothing closes is the start of no text that may be
taken. -/
theorem firstStep_longest_fraction :
    (∃ text, Candidate.Longest ['1', '.', '5', '+', '='] text ∧
      ⟨['+', '='], ⟨1, 4⟩, 3⟩ = (Cursor.ofSource ['1', '.', '5', '+', '=']).skip text.length) ∧
      firstStep inOrder {} (.ofSource ['\'', 'a']) =
        .error ⟨.unterminated .string, "'a", ⟨⟨1, 1⟩, "shell"⟩⟩ ∧
      Unterminated.string.Opens ['\'', 'a'] := by
  refine ⟨?_, rfl, ?_⟩
  · exact (@firstStep_longest {} (.ofSource ['1', '.', '5', '+', '=']) rfl rfl rfl).2.1
      ⟨some ⟨.floatingLiteral, "1.5", .start⟩, ⟨['+', '='], ⟨1, 4⟩, 3⟩⟩ rfl
  · exact (@firstStep_longest {} (.ofSource ['\'', 'a']) rfl rfl rfl).2.2.2.2.1.mp ⟨_, rfl, rfl⟩

end Lexer

end TypedLiterals
