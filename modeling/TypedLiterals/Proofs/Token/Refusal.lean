import TypedLiterals.Proofs.Lexicon.Follower
import TypedLiterals.Proofs.Token.LongestMatch

/-!
What the lexer of the language finds at the start of a text: a token, a comment, an opening that
nothing closes, or nothing at all. It finds nothing where a strange character stands, or a number
that runs into a word.
-/

namespace TypedLiterals

/-- Some token, comment or string begins with this character. -/
def Rules.begins (c : Char) : Bool :=
  beginsNoOpener c || language.chars.any (·.char = c)

/-- Nothing that the language knows stands at the start of the text. -/
inductive Unknown : List Char → Prop where
  | char {c : Char} {rest : List Char} (strange : Rules.begins c = false) : Unknown (c :: rest)
  /-- A word goes on behind decimal digits, and they do not begin a hexadecimal number. -/
  | number {row rest : List Char} {w : Char} (ne : row ≠ [])
      (digits : ∀ c ∈ row, c.isDigit = true) (goesOn : isWordChar w = true)
      (noDigit : w.isDigit = false)
      (noHex : row = ['0'] → w = 'x' ∨ w = 'X' → rest.head?.any isHexDigit = false) :
      Unknown (row ++ w :: rest)

namespace Rules

variable {c : Char}

theorem begins_of_rule {rule : CharRule} (h : rule ∈ language.chars) : begins rule.char = true := by
  rw [begins, Bool.or_eq_true]
  exact .inr (List.any_eq_true.mpr ⟨rule, h, decide_eq_true rfl⟩)

theorem begins_of_digit (h : c.isDigit = true) : begins c = true := by
  rw [begins, beginsNoOpener, h, Bool.true_or, Bool.true_or, Bool.true_or]

theorem begins_of_nameStart (h : isNameStart c = true) : begins c = true := by
  rw [begins, beginsNoOpener, h, Bool.or_true, Bool.true_or, Bool.true_or]

theorem begins_of_quote (h : isQuote c = true) : begins c = true := by
  rw [begins, beginsNoOpener, h, Bool.or_true, Bool.true_or]

theorem begins_of_spelling :
    ∀ rule ∈ language.spellings, rule.spelling.head?.any begins = true := by
  decide

theorem digit_of_char : ∀ rule ∈ language.chars, rule.char.isDigit = false := by
  decide

theorem digit_of_spelling :
    ∀ rule ∈ language.spellings, rule.spelling.head?.any Char.isDigit = false := by
  decide

theorem not_begins_of_isBlank (h : isBlank c = true) : begins c = false :=
  eq_false_of_isBlank (by decide) h

end Rules

theorem not_isDigit_of_isQuote {c : Char} (h : isQuote c = true) : c.isDigit = false := by
  rcases isQuote_iff.mp h with rfl | rfl
  · rfl
  · rfl

namespace Candidate

variable {rest text : List Char}

theorem head?_any_begins (h : Candidate rest text) : text.head?.any Rules.begins = true := by
  cases h with
  | char known => exact Rules.begins_of_rule known
  | spelling known => exact Rules.begins_of_spelling _ known
  | fraction matching =>
    obtain ⟨⟨whole, fraction, hpoint⟩, -⟩ := Pattern.matchesText_decimalFraction_iff.mp matching
    obtain ⟨mark, -, rfl⟩ := hpoint.exists_mark
    cases whole with
    | nil => exact absurd rfl hpoint.whole_ne
    | cons c whole => exact Rules.begins_of_digit (hpoint.whole_digits c List.mem_cons_self)
  | integer matching =>
    obtain ⟨hne, hdigits, -⟩ := Pattern.matchesText_decimalInteger_iff.mp matching
    cases text with
    | nil => exact absurd rfl hne
    | cons c text => exact Rules.begins_of_digit (hdigits c List.mem_cons_self)
  | word start => exact Rules.begins_of_nameStart start
  | string opens => exact Rules.begins_of_quote opens
  | hex => rfl
  | comment isComment =>
    cases isComment with
    | line => rfl
    | block => rfl

/-- A number, told by what is behind its first digits: a point, the edge of a word, or the mark of
the hexadecimal numbers with a digit. -/
inductive Number (rest : List Char) : List Char → Prop where
  | fraction {row tail : List Char} (digits : ∀ c ∈ row, c.isDigit = true) :
      Number rest (row ++ '.' :: tail)
  | integer {row : List Char} (digits : ∀ c ∈ row, c.isDigit = true) (ends : EndsWord rest) :
      Number rest row
  | hex {x : Char} {row : List Char} (mark : x = 'x' ∨ x = 'X')
      (hexDigits : row.head?.any isHexDigit = true) : Number rest ('0' :: x :: row)

theorem number_of_digit (h : Candidate rest text) (hdigit : text.head?.any Char.isDigit = true) :
    Number rest text := by
  cases h with
  | char known => exact absurd (hdigit.symm.trans (Rules.digit_of_char _ known)) nofun
  | spelling known => exact absurd (hdigit.symm.trans (Rules.digit_of_spelling _ known)) nofun
  | fraction matching =>
    obtain ⟨⟨whole, fraction, hpoint⟩, -⟩ := Pattern.matchesText_decimalFraction_iff.mp matching
    obtain ⟨mark, -, rfl⟩ := hpoint.exists_mark
    exact .fraction hpoint.whole_digits
  | integer matching =>
    obtain ⟨-, hdigits, hends⟩ := Pattern.matchesText_decimalInteger_iff.mp matching
    exact .integer hdigits hends
  | word start => exact absurd (hdigit.symm.trans (not_isDigit_of_isNameStart start)) nofun
  | string opens => exact absurd (hdigit.symm.trans (not_isDigit_of_isQuote opens)) nofun
  | @hex x row mark ne digits =>
    cases row with
    | nil => exact absurd rfl ne
    | cons d row => exact .hex mark (digits d List.mem_cons_self)
  | comment isComment =>
    cases isComment with
    | line => cases hdigit
    | block => cases hdigit

-- The digits of the two texts are the same, so the number would go on with the same character.
theorem Number.append_ne {row after more : List Char} {w : Char} (h : Number after text)
    (digits : ∀ c ∈ row, c.isDigit = true) (goesOn : isWordChar w = true)
    (noDigit : w.isDigit = false)
    (noHex : row = ['0'] → w = 'x' ∨ w = 'X' → more.head?.any isHexDigit = false) :
    text ++ after ≠ row ++ w :: more := by
  intro heq
  have hrow : (text ++ after).takeWhile Char.isDigit = row := by
    rw [heq]
    exact takeWhile_row digits noDigit
  cases h with
  | @fraction whole tail hwhole =>
    rw [List.append_assoc, List.cons_append] at heq hrow
    rw [takeWhile_row hwhole rfl] at hrow
    rw [hrow, List.append_cancel_left_eq] at heq
    obtain rfl : '.' = w := (List.cons.inj heq).1
    exact absurd goesOn (by decide)
  | integer hdigits hends =>
    rw [takeWhile_row hdigits (hends.head?_any isWordChar_of_isDigit)] at hrow
    rw [hrow, List.append_cancel_left_eq] at heq
    rw [heq] at hends
    exact hends.not_cons goesOn
  | @hex x hexRow mark hexDigits =>
    have hx : x.isDigit = false := by
      rcases mark with rfl | rfl
      · rfl
      · rfl
    have hzero : row = ['0'] := by
      rw [← hrow]
      have hone : ∀ c ∈ ['0'], c.isDigit = true := List.forall_mem_singleton.mpr rfl
      exact @takeWhile_row Char.isDigit ['0'] (x :: (hexRow ++ after)) hone hx
    rw [hzero] at heq
    obtain ⟨rfl, rfl⟩ : x = w ∧ hexRow ++ after = more :=
      List.cons.inj (List.cons.inj heq).2
    have hnone := noHex hzero mark
    cases hexRow with
    | nil => cases hexDigits
    | cons e hexRow => exact Bool.false_ne_true (hnone.symm.trans hexDigits)

end Candidate

namespace Unknown

variable {cs text after : List Char}

-- Whatever stands in front of a strange character or begins with these digits is no token.
theorem not_candidate (h : Unknown (text ++ after)) : ¬Candidate after text := by
  intro hcandidate
  have hbegins := hcandidate.head?_any_begins
  generalize hcs : text ++ after = cs at h
  cases text with
  | nil => cases hbegins
  | cons d text =>
    cases h with
    | char strange =>
      obtain rfl := (List.cons.inj hcs).1
      exact absurd (hbegins.symm.trans strange) nofun
    | @number row rest w ne digits goesOn noDigit noHex =>
      have hdigit : d.isDigit = true := by
        cases row with
        | nil => exact absurd rfl ne
        | cons c row =>
          rw [(List.cons.inj hcs).1]
          exact digits c List.mem_cons_self
      exact (hcandidate.number_of_digit hdigit).append_ne digits goesOn noDigit noHex hcs

theorem ne_nil (h : Unknown cs) : cs ≠ [] := by
  cases h with
  | char => exact List.cons_ne_nil _ _
  | number => exact List.append_ne_nil_of_right_ne_nil _ (List.cons_ne_nil _ _)

theorem not_quote (h : Unknown cs) : cs.head?.any isQuote = false := by
  rw [Bool.eq_false_iff]
  intro hquote
  cases h with
  | char strange => exact absurd ((Rules.begins_of_quote hquote).symm.trans strange) nofun
  | @number row rest w ne digits =>
    cases row with
    | nil => exact ne rfl
    | cons c row =>
      have hdigit := digits c List.mem_cons_self
      exact absurd (hdigit.symm.trans (not_isDigit_of_isQuote hquote)) nofun

end Unknown

section Nothing

variable {cs row rest : List Char} {c x : Char}

theorem exists_candidate_of_nameStart (h : isNameStart c = true) (cs : List Char) :
    ∃ text, Candidate.At (c :: cs) text := by
  have hcandidate : Candidate (cs.dropWhile isNameChar) (c :: cs.takeWhile isNameChar) :=
    .word h (fun d hd => List.mem_takeWhile_imp hd) (head?_dropWhile_any isNameChar cs)
  refine ⟨_, _, ?_, hcandidate⟩
  rw [List.cons_append, List.takeWhile_append_dropWhile]

theorem exists_candidate_of_hex (hx : x = 'x' ∨ x = 'X')
    (hdigit : rest.head?.any isHexDigit = true) : ∃ text, Candidate.At ('0' :: x :: rest) text := by
  have hcandidate : Candidate (rest.dropWhile isHexDigit)
      ('0' :: x :: rest.takeWhile isHexDigit) :=
    .hex hx (takeWhile_ne_nil hdigit) (fun d hd => List.mem_takeWhile_imp hd)
      (head?_dropWhile_any isHexDigit rest)
  refine ⟨_, _, ?_, hcandidate⟩
  simp only [List.cons_append, List.takeWhile_append_dropWhile]

theorem unknown_of_digits (hne : row ≠ []) (hrow : ∀ d ∈ row, d.isDigit = true)
    (hstop : rest.head?.any Char.isDigit = false)
    (hnone : ¬∃ text, Candidate.At (row ++ rest) text) : Unknown (row ++ rest) := by
  have hends : ¬EndsWord rest := by
    intro hends
    have hmatch := Pattern.matchesText_decimalInteger_iff.mpr ⟨hne, hrow, hends⟩
    exact hnone ⟨row, rest, rfl, .integer hmatch⟩
  cases rest with
  | nil => exact absurd rfl hends
  | cons w rest =>
    apply Unknown.number hne hrow (Bool.not_eq_false _ ▸ hends) hstop
    rintro rfl hmark
    rw [Bool.eq_false_iff]
    intro hhex
    exact hnone (exists_candidate_of_hex hmark hhex)

theorem unknown_of_not_candidate (hne : cs ≠ []) (hnone : ¬∃ text, Candidate.At cs text)
    (hquote : cs.head?.any isQuote = false) : Unknown cs := by
  cases cs with
  | nil => exact absurd rfl hne
  | cons c cs =>
    by_cases hdigit : c.isDigit = true
    · have hrow : (c :: cs).takeWhile Char.isDigit ≠ [] := takeWhile_ne_nil hdigit
      rw [← List.takeWhile_append_dropWhile (p := Char.isDigit) (l := c :: cs)] at hnone ⊢
      exact unknown_of_digits hrow (fun d hd => List.mem_takeWhile_imp hd)
        (head?_dropWhile_any Char.isDigit _) hnone
    · apply Unknown.char
      rw [Bool.eq_false_iff, Rules.begins, Rules.beginsNoOpener]
      intro hbegins
      rw [Bool.or_eq_true, Bool.or_eq_true, Bool.or_eq_true] at hbegins
      rcases hbegins with ((h | hname) | h) | hchar
      · exact hdigit h
      · exact hnone (exists_candidate_of_nameStart hname cs)
      · exact Bool.false_ne_true (hquote.symm.trans h)
      · obtain ⟨rule, hmem, hrule⟩ := List.any_eq_true.mp hchar
        obtain rfl := of_decide_eq_true hrule
        exact hnone ⟨_, cs, rfl, .char hmem⟩

end Nothing

namespace Recognizer

variable {cs text : List Char} {kind : TokenKind}

/-- Nothing is found at the end, and where nothing stands that the language knows. -/
theorem firstScan?_eq_none_iff_unknown :
    firstScan? inOrder .language cs = none ↔ cs = [] ∨ Unknown cs := by
  rw [firstScan?_eq_none_iff]
  refine ⟨?_, ?_⟩
  · rintro ⟨hnone, hquote⟩
    by_cases hne : cs = []
    · exact .inl hne
    · exact .inr (unknown_of_not_candidate hne (fun ⟨text, htext⟩ => hnone text htext) hquote)
  · rintro (rfl | hunknown)
    · refine ⟨?_, rfl⟩
      rintro text ⟨after, hcs, hcandidate⟩
      obtain ⟨rfl, -⟩ := List.append_eq_nil_iff.mp hcs.symm
      cases hcandidate.head?_any_begins
    · refine ⟨?_, hunknown.not_quote⟩
      rintro text ⟨after, rfl, hcandidate⟩
      exact hunknown.not_candidate hcandidate

theorem firstScan?_eq_token_iff : firstScan? inOrder .language cs = some (.token kind text) ↔
    ∃ rest, cs = text ++ rest ∧ Lexeme rest kind text := by
  rw [firstScan?_eq_some_iff]
  refine ⟨?_, ?_⟩
  · rintro ⟨recognizer, hfound⟩
    exact lexeme_of_scan? hfound
  · rintro ⟨rest, rfl, hlexeme⟩
    exact exists_scan_of_lexeme hlexeme

theorem firstScan?_eq_comment_iff : firstScan? inOrder .language cs = some (.comment text) ↔
    ∃ rest, cs = text ++ rest ∧ Comment rest text := by
  rw [firstScan?_eq_some_iff]
  refine ⟨?_, ?_⟩
  · rintro ⟨recognizer, hfound⟩
    exact comment_of_scan? hfound
  · rintro ⟨rest, rfl, hcomment⟩
    exact Scan.exists_scan_of_comment hcomment

end Recognizer

/-- The lexer cannot go on here, and this is the fault that it reports. -/
inductive Stuck : List Char → LexicalFault → Prop where
  | unknown {cs : List Char} (unknown : Unknown cs) (noBlank : cs.head?.any isBlank = false) :
      Stuck cs .unknownToken
  | unterminated {cs : List Char} {what : Unterminated} (opens : what.Opens cs) :
      Stuck cs (.unterminated what)

theorem Stuck.exists_head {cs : List Char} {fault : LexicalFault} (h : Stuck cs fault) :
    ∃ c rest, cs = c :: rest ∧ isBlank c = false := by
  cases h with
  | unknown unknown noBlank =>
    cases cs with
    | nil => exact absurd rfl unknown.ne_nil
    | cons c rest => exact ⟨c, rest, rfl, noBlank⟩
  | @unterminated what opens =>
    cases what with
    | string =>
      obtain ⟨quote, tail, rfl, hquote, -⟩ := opens
      refine ⟨quote, tail, rfl, ?_⟩
      rcases isQuote_iff.mp hquote with rfl | rfl
      · rfl
      · rfl
    | comment =>
      obtain ⟨tail, rfl, -⟩ := opens
      exact ⟨'/', _, rfl, rfl⟩

end TypedLiterals
