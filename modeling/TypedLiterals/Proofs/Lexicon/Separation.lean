import TypedLiterals.Proofs.Lexicon.NumberPattern

/-!
The recognizers of the language keep out of each other's way. The first two characters of a text
tell which of them is responsible for it, and no other applies there. So it is of no account in
which order they are tried.
-/

namespace TypedLiterals

def isQuote (c : Char) : Bool :=
  c = '"' || c = '\''

theorem isQuote_iff {c : Char} : isQuote c = true ↔ c = '"' ∨ c = '\'' := by
  rw [isQuote, Bool.or_eq_true, decide_eq_true_eq, decide_eq_true_eq]

theorem Quoted.ne_of_isQuote {quote c : Char} (hquote : isQuote quote = true)
    (hc : isQuote c = false) : c ≠ quote := by
  rintro rfl
  exact Bool.false_ne_true (hc.symm.trans hquote)

theorem isPrefixOf_cons_of_ne {c d : Char} (h : d ≠ c) (text rest : List Char) :
    (d :: text).isPrefixOf (c :: rest) = false := by
  rw [List.isPrefixOf_cons_cons, beq_eq_false_iff_ne.mpr h, Bool.false_and]

/-- The texts of two characters at whose start the character of the rule is no token. -/
def CharRule.refused (rule : CharRule) : List (List Char) :=
  rule.notBefore.map fun d => [rule.char, d]

namespace Rules

/-- The texts of two characters that begin something longer than a token of one character. -/
def openers : List (List Char) :=
  [['/', '/'], ['/', '*']] ++ language.spellings.map (·.spelling)

-- A character that begins an opener may not stand before the other character of it.
theorem openers_refused : ∀ rule ∈ language.chars, ∀ opener ∈ openers,
    opener.head? = some rule.char → opener ∈ rule.refused := by
  decide

-- Where the character of a token may not stand, another token or a comment begins.
theorem refused_openers : ∀ rule ∈ language.chars, ∀ text ∈ rule.refused, text ∈ openers := by
  decide

theorem spelling_head_ne_slash :
    ∀ rule ∈ language.spellings, rule.spelling.head?.any (· != '/') = true := by
  decide

theorem openers_ne_nil : ∀ opener ∈ openers, opener ≠ [] := by
  decide

/-- Names, numbers and strings begin with none of the characters of the tables. -/
def beginsNoOpener (c : Char) : Bool :=
  c.isDigit || isNameStart c || isQuote c

theorem not_beginsNoOpener_of_mem_chars :
    ∀ rule ∈ language.chars, beginsNoOpener rule.char = false := by
  decide

theorem not_beginsNoOpener_of_mem_openers :
    ∀ opener ∈ openers, opener.head?.any beginsNoOpener = false := by
  decide

end Rules

namespace Recognizer

open Rules

/-- The recognizer whose turn it is at the start of a text. -/
def responsible (cs : List Char) : Recognizer :=
  if ['/', '/'].isPrefixOf cs then lineComment
  else if ['/', '*'].isPrefixOf cs then blockComment
  else if language.spellings.any (·.spelling.isPrefixOf cs) then spelling
  else if ['0', 'x'].isPrefixOf cs ∨ ['0', 'X'].isPrefixOf cs then hex
  else if cs.head?.any Char.isDigit then pattern
  else if cs.head?.any isNameStart then word
  else if cs.head?.any isQuote then string
  else char

variable {cs rest : List Char} {c : Char} {found : Scan}

theorem responsible_of_no_opener (h : ∀ opener ∈ openers, opener.isPrefixOf cs = false) :
    responsible cs =
      if ['0', 'x'].isPrefixOf cs ∨ ['0', 'X'].isPrefixOf cs then hex
      else if cs.head?.any Char.isDigit then pattern
      else if cs.head?.any isNameStart then word
      else if cs.head?.any isQuote then string
      else char := by
  have hspelling : ¬language.spellings.any (·.spelling.isPrefixOf cs) = true := by
    rw [List.any_eq_true]
    rintro ⟨rule, hmem, hprefix⟩
    have hopener : rule.spelling ∈ openers :=
      List.mem_append_right _ (List.mem_map_of_mem hmem)
    rw [h _ hopener] at hprefix
    cases hprefix
  rw [responsible, h _ (by decide), h _ (by decide), if_neg hspelling]
  rfl

-- Neither a number nor the prefix of one stands here.
theorem responsible_of_no_digit (h : ∀ opener ∈ openers, opener.isPrefixOf (c :: rest) = false)
    (hdigit : c.isDigit = false) :
    responsible (c :: rest) =
      if isNameStart c then word else if isQuote c then string else char := by
  have hzero : '0' ≠ c := by
    rintro rfl
    cases hdigit
  rw [responsible_of_no_opener h, isPrefixOf_cons_of_ne hzero, isPrefixOf_cons_of_ne hzero,
    List.head?_cons, Option.any_some, Option.any_some, Option.any_some, hdigit]
  rfl

-- A name, a number or a string does not begin like an operator or a comment.
theorem no_opener_of_head (hc : beginsNoOpener c = true) :
    ∀ opener ∈ openers, opener.isPrefixOf (c :: rest) = false := by
  intro opener hmem
  have hhead := not_beginsNoOpener_of_mem_openers opener hmem
  cases opener with
  | nil => exact absurd rfl (openers_ne_nil _ hmem)
  | cons d opener =>
    apply isPrefixOf_cons_of_ne
    rintro rfl
    rw [List.head?_cons, Option.any_some, hc] at hhead
    cases hhead

-- Where the character of a token may stand, nothing longer begins.
theorem no_opener_of_allowed {rule : CharRule} (hmem : rule ∈ language.chars)
    (hnext : rest.head?.any rule.notBefore.contains = false) :
    ∀ opener ∈ openers, opener.isPrefixOf (rule.char :: rest) = false := by
  intro opener hopener
  rw [Bool.eq_false_iff]
  intro hprefix
  obtain ⟨tail, htail⟩ := List.isPrefixOf_iff_prefix.mp hprefix
  have hhead : opener.head? = some rule.char := by
    cases opener with
    | nil => exact absurd rfl (openers_ne_nil _ hopener)
    | cons d opener => rw [(List.cons.inj htail).1, List.head?_cons]
  obtain ⟨d, hd, rfl⟩ := List.mem_map.mp (openers_refused rule hmem opener hopener hhead)
  obtain rfl : d :: tail = rest := (List.cons.inj htail).2
  rw [List.head?_cons, Option.any_some, List.contains_iff_mem.mpr hd] at hnext
  cases hnext

theorem responsible_of_lineComment? (h : Scan.lineComment? cs = some found) :
    responsible cs = lineComment := by
  unfold Scan.lineComment? at h
  split at h
  · rfl
  · cases h

theorem responsible_of_blockComment? (h : Scan.blockComment? cs = some found) :
    responsible cs = blockComment := by
  unfold Scan.blockComment? at h
  split at h
  · rfl
  · cases h

theorem responsible_of_spelling? (h : Scan.spelling? language.spellings cs = some found) :
    responsible cs = spelling := by
  obtain ⟨rule, hfind, -⟩ := Option.map_eq_some_iff.mp h
  have hprefix := List.find?_some hfind
  have hmem := List.mem_of_find?_eq_some hfind
  have hslash := spelling_head_ne_slash rule hmem
  have hspelling : language.spellings.any (·.spelling.isPrefixOf cs) = true :=
    List.any_eq_true.mpr ⟨rule, hmem, hprefix⟩
  obtain ⟨tail, rfl⟩ := List.isPrefixOf_iff_prefix.mp hprefix
  cases hrule : rule.spelling with
  | nil =>
    rw [hrule] at hslash
    cases hslash
  | cons c more =>
    rw [hrule, List.head?_cons, Option.any_some, bne_iff_ne] at hslash
    rw [hrule, List.cons_append] at hspelling
    rw [List.cons_append, responsible, isPrefixOf_cons_of_ne hslash.symm,
      isPrefixOf_cons_of_ne hslash.symm, hspelling]
    rfl

-- A row of digits is not the prefix of a hexadecimal number, unless a name follows.
theorem responsible_of_digits {row tail : List Char} (hne : row ≠ [])
    (hrow : ∀ c ∈ row, c.isDigit = true) (htail : tail.head?.any isNameStart = false) :
    responsible (row ++ tail) = pattern := by
  cases row with
  | nil => exact absurd rfl hne
  | cons c row =>
    rw [List.forall_mem_cons] at hrow
    obtain ⟨hc, hrow⟩ := hrow
    have hx : ∀ x, isNameStart x = true → x.isDigit = false →
        ['0', x].isPrefixOf (c :: row ++ tail) = false := by
      intro x hname hdigit
      rw [Bool.eq_false_iff]
      intro hprefix
      obtain ⟨after, hafter⟩ := List.isPrefixOf_iff_prefix.mp hprefix
      cases row with
      | nil =>
        obtain rfl : x :: after = tail := (List.cons.inj hafter).2
        exact absurd (hname.symm.trans htail) nofun
      | cons d row =>
        obtain rfl : x = d := (List.cons.inj (List.cons.inj hafter).2).1
        exact absurd ((hrow x List.mem_cons_self).symm.trans hdigit) nofun
    have hbegins : beginsNoOpener c = true := by
      rw [beginsNoOpener, hc, Bool.true_or, Bool.true_or]
    rw [List.cons_append, responsible_of_no_opener (no_opener_of_head hbegins), ← List.cons_append,
      hx 'x' (by decide) (by decide), hx 'X' (by decide) (by decide), List.cons_append,
      List.head?_cons, Option.any_some, hc]
    rfl

theorem responsible_of_pattern? (h : Scan.pattern? language.patterns cs = some found) :
    responsible cs = pattern := by
  obtain ⟨text, tail, rfl, ⟨-, hmatch⟩ | ⟨-, hmatch⟩⟩ := Scan.number_of_pattern? h
  · obtain ⟨⟨whole, fraction, htext⟩, -⟩ := Pattern.matchesText_decimalFraction_iff.mp hmatch
    obtain ⟨mark, -, rfl⟩ := htext.exists_mark
    rw [List.append_assoc]
    exact responsible_of_digits htext.whole_ne htext.whole_digits rfl
  · obtain ⟨hne, hdigits, htail⟩ := Pattern.matchesText_decimalInteger_iff.mp hmatch
    exact responsible_of_digits hne hdigits (htail.head?_any isWordChar_of_isNameStart)

theorem responsible_of_word? (h : Scan.word? cs = some found) : responsible cs = word := by
  rw [Scan.word?] at h
  split at h
  · rename_i hhead
    cases cs with
    | nil => cases hhead
    | cons c rest =>
      rw [List.head?_cons, Option.any_some] at hhead
      have hbegins : beginsNoOpener c = true := by
        rw [beginsNoOpener, hhead, Bool.or_true, Bool.true_or]
      rw [responsible_of_no_digit (no_opener_of_head hbegins) (not_isDigit_of_isNameStart hhead),
        if_pos hhead]
  · cases h

theorem responsible_of_string? (h : Scan.string? cs = some found) : responsible cs = string := by
  cases cs with
  | nil => cases h
  | cons quote rest =>
    rw [Scan.string?] at h
    split at h
    · rename_i hquote
      rcases hquote with rfl | rfl
      · rfl
      · rfl
    · cases h

theorem responsible_of_hex? (h : Scan.hex? cs = some found) : responsible cs = hex := by
  unfold Scan.hex? at h
  split at h
  · split at h
    · rename_i hx
      rcases hx with rfl | rfl
      · rfl
      · rfl
    · cases h
  · cases h

theorem responsible_of_char? (h : Scan.char? language.chars cs = some found) :
    responsible cs = char := by
  cases cs with
  | nil => cases h
  | cons c rest =>
    obtain ⟨rule, hfind, -⟩ := Option.map_eq_some_iff.mp h
    have hmem := List.mem_of_find?_eq_some hfind
    have haccepts := List.find?_some hfind
    rw [CharRule.accepts, Bool.and_eq_true, decide_eq_true_eq, Bool.not_eq_true'] at haccepts
    obtain ⟨rfl, hnext⟩ := haccepts
    have hbegins := not_beginsNoOpener_of_mem_chars rule hmem
    rw [beginsNoOpener, Bool.or_eq_false_iff, Bool.or_eq_false_iff] at hbegins
    obtain ⟨⟨hdigit, hname⟩, hquote⟩ := hbegins
    rw [responsible_of_no_digit (no_opener_of_allowed hmem hnext) hdigit, hname, hquote]
    rfl

theorem responsible_of_scan? {recognizer : Recognizer}
    (h : recognizer.scan? .language cs = some found) : responsible cs = recognizer := by
  cases recognizer with
  | char => exact responsible_of_char? h
  | spelling => exact responsible_of_spelling? h
  | pattern => exact responsible_of_pattern? h
  | word => exact responsible_of_word? h
  | string => exact responsible_of_string? h
  | hex => exact responsible_of_hex? h
  | lineComment => exact responsible_of_lineComment? h
  | blockComment => exact responsible_of_blockComment? h

/-- An order in which no recognizer is left out finds what the responsible one finds. -/
theorem firstScan?_eq {order : List Recognizer} (horder : ∀ recognizer, recognizer ∈ order)
    (cs : List Char) :
    firstScan? order .language cs = (responsible cs).scan? .language cs := by
  cases hfirst : firstScan? order .language cs with
  | some found =>
    obtain ⟨recognizer, -, hfound⟩ := List.exists_of_findSome?_eq_some hfirst
    rw [responsible_of_scan? hfound, hfound]
  | none => exact (List.findSome?_eq_none_iff.mp hfirst _ (horder _)).symm

end Recognizer

end TypedLiterals
