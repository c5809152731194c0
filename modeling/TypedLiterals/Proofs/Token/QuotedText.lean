import TypedLiterals.Proofs.Token.Passage

/-!
Writing a text between quotes. Each of its characters may be written in several ways, and a choice
may be made for each of them. However the text is written, the lexer finds the closing quote and no
other, and the text is what the string holds.
-/

namespace TypedLiterals

namespace Quoted

/-- A quote or a backslash, which need not stand for itself between quotes. -/
def isMark (c : Char) : Bool :=
  c = '\\' || isQuote c

/-- The text with a backslash in front of each of its marks. -/
def escapeMarks (cs : List Char) : List Char :=
  cs.flatMap fun c => if isMark c then ['\\', c] else [c]

/-- What can be written by a backslash and a letter or a zero. -/
def letters : List (Char × Char) :=
  [('\n', 'n'), ('\t', 't'), ('\r', 'r'), ('\x00', '0')]

/-- The ways to write a character between quotes. -/
inductive Spelling : Char → List Char → Prop where
  | plain {c : Char} (noMark : isMark c = false) : Spelling c [c]
  | mark {c : Char} (isMark : isMark c = true) : Spelling c ['\\', c]
  | letter {c d : Char} (known : (c, d) ∈ letters) : Spelling c ['\\', d]
  | hex {c high low : Char} (isHigh : isHexDigit high = true) (isLow : isHexDigit low = true)
      (code : c.toNat = 16 * digitValue high + digitValue low) : Spelling c ['\\', 'x', high, low]

/-- The characters are written one after the other, each in a way of its own. -/
inductive Spells : List Char → List Char → Prop where
  | nil : Spells [] []
  | cons {c : Char} {cs text rest : List Char} (first : Spelling c text) (more : Spells cs rest) :
      Spells (c :: cs) (text ++ rest)

variable {quote c d : Char} {cs text rest : List Char}

theorem isMark_iff : isMark c = true ↔ c = '\\' ∨ c = '"' ∨ c = '\'' := by
  rw [isMark, Bool.or_eq_true, decide_eq_true_eq, isQuote_iff]

theorem not_isMark_of_isHexDigit (h : isHexDigit c = true) : isMark c = false := by
  rw [Bool.eq_false_iff]
  intro hmark
  rcases isMark_iff.mp hmark with rfl | rfl | rfl
  · cases h
  · cases h
  · cases h

theorem ne_of_not_isMark (h : isMark c = false) : c ≠ '\\' ∧ isQuote c = false := by
  rw [isMark, Bool.or_eq_false_iff, decide_eq_false_iff_not] at h
  exact h

theorem spells_escapeMarks (cs : List Char) : Spells cs (escapeMarks cs) := by
  induction cs with
  | nil => exact .nil
  | cons c cs ih =>
    refine .cons ?_ ih
    show Spelling c (if isMark c then ['\\', c] else [c])
    split
    · rename_i hmark
      exact .mark hmark
    · rename_i hmark
      exact .plain (Bool.eq_false_iff.mpr hmark)

section Closing

theorem Body.of_not_isMark (hquote : isQuote quote = true) (h : isMark c = false)
    (more : Body quote rest) : Body quote (c :: rest) :=
  have hne := ne_of_not_isMark h
  .plain (ne_of_isQuote hquote hne.2) hne.1 more

-- No spelling holds a quote that closes the string, or ends in a backslash that escapes one.
theorem Spelling.body (hquote : isQuote quote = true) (h : Spelling c text)
    (more : Body quote rest) : Body quote (text ++ rest) := by
  cases h with
  | plain noMark => exact .of_not_isMark hquote noMark more
  | mark => exact .escaped more
  | letter => exact .escaped more
  | hex isHigh isLow =>
    have hlow := more.of_not_isMark hquote (not_isMark_of_isHexDigit isLow)
    exact .escaped (hlow.of_not_isMark hquote (not_isMark_of_isHexDigit isHigh))

theorem Spells.body (hquote : isQuote quote = true) (h : Spells cs text) : Body quote text := by
  induction h with
  | nil => exact .empty
  | cons first _ ih => exact first.body hquote ih

end Closing

section Resolving

theorem unescapeAfter_zero_cons (h : c ≠ '\\') (rest : List Char) :
    unescapeAfter 0 (c :: rest) = c :: unescapeAfter 0 rest := by
  rw [unescapeAfter]
  rintro d tail rfl
  exact absurd rfl h

theorem unescapeAfter_of_named (h : named? d = some c) (rest : List Char) :
    unescapeAfter 0 ('\\' :: d :: rest) = c :: unescapeAfter 0 rest := by
  rw [unescapeAfter, escape, h]
  rfl

theorem named?_of_isMark (h : isMark c = true) : named? c = some c := by
  rcases isMark_iff.mp h with rfl | rfl | rfl
  · rfl
  · rfl
  · rfl

theorem named?_of_mem_letters : ∀ entry ∈ letters, named? entry.2 = some entry.1 := by
  decide

-- More digits may follow: only two of them belong to the escape.
theorem escape_hex {high low : Char} (isHigh : isHexDigit high = true)
    (isLow : isHexDigit low = true) (rest : List Char) :
    escape 'x' (high :: low :: rest) =
      ([Char.ofNat (16 * digitValue high + digitValue low)], 2) := by
  have hdigits : hexDigits (high :: low :: rest) = [high, low] := by
    show [high, low].takeWhile isHexDigit = [high, low]
    rw [List.takeWhile_cons_of_pos isHigh, List.takeWhile_cons_of_pos isLow, List.takeWhile_nil]
  have hvalue : ofDigits 16 [high, low] = 16 * digitValue high + digitValue low := by
    show (0 * 16 + digitValue high) * 16 + digitValue low = _
    omega
  rw [escape, show named? 'x' = none from rfl, hdigits]
  show ([Char.ofNat (ofDigits 16 [high, low])], 2) = _
  rw [hvalue]

theorem Spelling.unescapeAfter (h : Spelling c text) (rest : List Char) :
    unescapeAfter 0 (text ++ rest) = c :: unescapeAfter 0 rest := by
  cases h with
  | plain noMark => exact unescapeAfter_zero_cons (ne_of_not_isMark noMark).1 rest
  | mark isMark => exact unescapeAfter_of_named (named?_of_isMark isMark) rest
  | letter known => exact unescapeAfter_of_named (named?_of_mem_letters _ known) rest
  | @hex high low isHigh isLow code =>
    show Quoted.unescapeAfter 0 ('\\' :: 'x' :: high :: low :: rest) = _
    rw [Quoted.unescapeAfter, escape_hex isHigh isLow, ← code, Char.ofNat_toNat]
    rfl

theorem Spells.unescape (h : Spells cs text) : unescape text = cs := by
  induction h with
  | nil => rfl
  | @cons c cs text rest first _ ih =>
    show unescapeAfter 0 (text ++ rest) = c :: cs
    rw [first.unescapeAfter rest]
    exact congrArg (c :: ·) ih

end Resolving

/-- The text between two quotes. -/
def quoted (quote : Char) (text : List Char) : String :=
  String.ofList (quote :: (text ++ [quote]))

end Quoted

open Quoted

variable {quote : Char} {text : List Char}

theorem Token.contents_quoted (hquote : isQuote quote = true) (text : List Char) (p : Place) :
    Token.contents ⟨.stringLiteral, quoted quote text, p⟩ =
      .ok (some (String.ofList (unescape text))) := by
  have hsize : quote.utf8Size = 1 := by
    rcases isQuote_iff.mp hquote with rfl | rfl
    · rfl
    · rfl
  have hlength : ¬ utf8Length (quote :: (text ++ [quote])) < 2 := by
    simp only [utf8Length, List.map_cons, List.map_append, List.map_nil, List.sum_cons,
      List.sum_append, List.sum_nil, hsize]
    omega
  have hlast : (quote :: (text ++ [quote])).getLast? = some quote := by
    rw [← List.cons_append, List.getLast?_concat]
  have hends : [some quote, some quote].any (·.any (1 < ·.utf8Size)) = false := by
    simp [hsize]
  rw [contents, quoted, String.toList_ofList]
  rw [if_neg (not_or.mpr ⟨not_not.mpr rfl, hlength⟩), hlast]
  show (if [some quote, some quote].any (·.any (1 < ·.utf8Size)) = true then _ else _) = _
  rw [hends, if_neg Bool.false_ne_true]
  show Except.ok (some (String.ofList (unescape (text ++ [quote]).dropLast))) = _
  rw [List.dropLast_concat]

namespace Lexer

/-- A text between two quotes is read as one string, which holds `s`. -/
def HoldsQuoted (lexer : Lexer) (quote : Char) (text : List Char) (s : String) : Prop :=
  ∃ t : Token, lexer.tokenize (quoted quote text) = .ok [t] ∧ t.kind = .stringLiteral ∧
    t.text = quoted quote text ∧ t.contents = .ok (some s)

variable {lexer : Lexer}

theorem holdsQuoted_of_spells (hrules : lexer.rules = .language) (hquote : isQuote quote = true)
    {s : String} (h : Spells s.toList text) : HoldsQuoted lexer quote text s := by
  refine ⟨⟨.stringLiteral, quoted quote text, .start⟩, ?_, rfl, rfl, ?_⟩
  · apply (tokenize_eq_ok_iff hrules).mpr
    rw [quoted, String.toList_ofList]
    exact .of_lexeme (.string hquote (h.body hquote))
  · rw [Token.contents_quoted hquote, h.unescape, String.ofList_toList]

/-- A text is what the string holds when it is written between quotes of either kind, with a
backslash in front of its marks or in any other way to write it. -/
theorem tokenize_quoted (hrules : lexer.rules = .language) (hquote : isQuote quote = true)
    (s : String) :
    HoldsQuoted lexer quote (escapeMarks s.toList) s ∧
      ∀ text, Spells s.toList text → HoldsQuoted lexer quote text s :=
  ⟨holdsQuoted_of_spells hrules hquote (spells_escapeMarks s.toList),
    fun _ h => holdsQuoted_of_spells hrules hquote h⟩

/-- A third hexadecimal digit is a character of its own. -/
theorem tokenize_quoted_digit :
    HoldsQuoted {} '\'' ['\\', 'x', '0', '1', 'b', '\\', '\\', '\\', 'n'] "\x01b\\\n" := by
  have hspells : Spells "\x01b\\\n".toList
      (['\\', 'x', '0', '1'] ++ (['b'] ++ (['\\', '\\'] ++ (['\\', 'n'] ++ [])))) :=
    .cons (.hex rfl rfl rfl) (.cons (.plain rfl) (.cons (.mark rfl)
      (.cons (.letter (by decide)) .nil)))
  exact (tokenize_quoted rfl rfl "\x01b\\\n").2 _ hspells

end Lexer

end TypedLiterals
