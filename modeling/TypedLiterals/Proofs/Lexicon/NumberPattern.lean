import TypedLiterals.Lexicon.Rules
import TypedLiterals.Proofs.Lexicon.PatternMatch
import TypedLiterals.Proofs.Lexicon.Scan
import TypedLiterals.Proofs.Number.PointText
import TypedLiterals.Proofs.Text.Classes
import TypedLiterals.Proofs.Text.Rows

/-!
What the patterns of the language match: the decimal integers and fractions behind which no word
goes on. There is never more than one way to match either of them.
-/

namespace TypedLiterals

section WordEnds

variable {accept : Char → Bool} {row rest : List Char}

/-- No word goes on in this text. -/
def EndsWord (rest : List Char) : Prop :=
  rest.head?.any isWordChar = false

instance (rest : List Char) : Decidable (EndsWord rest) :=
  inferInstanceAs (Decidable (_ = false))

theorem EndsWord.head?_any (h : EndsWord rest)
    (haccept : ∀ {c}, accept c = true → isWordChar c = true) : rest.head?.any accept = false := by
  cases rest with
  | nil => rfl
  | cons c rest =>
    by_contra hc
    have hword : isWordChar c = true := haccept (Bool.not_eq_false _ ▸ hc)
    exact absurd (hword.symm.trans h) nofun

theorem EndsWord.not_cons {c : Char} (hc : isWordChar c = true) : ¬EndsWord (c :: rest) := by
  intro h
  exact absurd (hc.symm.trans h) nofun

end WordEnds

namespace PointText

variable {lexeme whole fraction rest : List Char}

theorem exists_mark (h : PointText (String.ofList lexeme) whole fraction) :
    ∃ mark, (mark = [] ∨ mark = ['f']) ∧ lexeme = whole ++ '.' :: (fraction ++ mark) := by
  have heq := h.toList_eq
  rw [String.toList_ofList] at heq
  rcases heq with rfl | rfl
  · exact ⟨[], .inl rfl, by rw [List.append_nil]⟩
  · exact ⟨['f'], .inr rfl, by rw [List.append_assoc, List.cons_append]⟩

-- The parts of a point text are found from left to right.
theorem eq_of_append_eq {lexeme' whole' fraction' rest' : List Char}
    (h : PointText (String.ofList lexeme) whole fraction) (hrest : EndsWord rest)
    (h' : PointText (String.ofList lexeme') whole' fraction') (hrest' : EndsWord rest')
    (heq : lexeme ++ rest = lexeme' ++ rest') : lexeme = lexeme' := by
  have hpoint : ∀ cs : List Char, ('.' :: cs).head?.any Char.isDigit = false := fun _ => rfl
  have hmarked : ∀ mark cs : List Char, mark = [] ∨ mark = ['f'] → EndsWord cs →
      (mark ++ cs).head?.any Char.isDigit = false := by
    intro mark cs hmark hcs
    rcases hmark with rfl | rfl
    · exact hcs.head?_any isWordChar_of_isDigit
    · rfl
  obtain ⟨mark, hmark, rfl⟩ := h.exists_mark
  obtain ⟨mark', hmark', rfl⟩ := h'.exists_mark
  simp only [List.append_assoc, List.cons_append] at heq
  have hwhole : whole = whole' := by
    rw [← takeWhile_row h.whole_digits (hpoint _), heq, takeWhile_row h'.whole_digits (hpoint _)]
  rw [hwhole, List.append_cancel_left_eq, List.cons.injEq] at heq
  have hfraction : fraction = fraction' := by
    rw [← takeWhile_row h.fraction_digits (hmarked mark rest hmark hrest), heq.2,
      takeWhile_row h'.fraction_digits (hmarked mark' rest' hmark' hrest')]
  rw [hfraction, List.append_cancel_left_eq] at heq
  have hf : isWordChar 'f' = true := by decide
  rcases hmark with rfl | rfl <;> rcases hmark' with rfl | rfl
  · rw [hwhole, hfraction]
  · obtain rfl : rest = 'f' :: rest' := heq.2
    exact absurd hrest (EndsWord.not_cons hf)
  · obtain rfl : 'f' :: rest = rest' := heq.2
    exact absurd hrest' (EndsWord.not_cons hf)
  · rw [hwhole, hfraction]

end PointText

namespace Pattern

variable {s t : Progress} {cs lexeme whole fraction row rest : List Char}

theorem inRanges_digit (c : Char) : inRanges [('0', '9')] c = c.isDigit := by
  simp [inRanges, Char.isDigit, Char.le_def]

theorem Matches.of_some1_digit (h : Matches digit.some1 s t) :
    ∃ row : List Char, row ≠ [] ∧ (∀ c ∈ row, c.isDigit = true) ∧
      t.read = row.reverse ++ s.read := by
  cases h with
  | seq first more =>
    rcases first.of_oneOf with ⟨c, hc, hfirst⟩
    rcases more.of_many_oneOf with ⟨row, hrow, hread⟩
    simp only [inRanges_digit] at hc hrow
    refine ⟨c :: row, List.cons_ne_nil c row, List.forall_mem_cons.mpr ⟨hc, hrow⟩, ?_⟩
    rw [hread, hfirst, List.reverse_cons, List.append_assoc]
    rfl

theorem Matches.of_char {c : Char} (h : Matches (char c) s t) : t.read = c :: s.read := by
  rcases h.of_oneOf with ⟨d, hd, hread⟩
  simp only [inRanges, List.any_cons, List.any_nil, Bool.or_false, Bool.and_eq_true,
    decide_eq_true_eq] at hd
  rw [hread, Char.le_antisymm hd.2 hd.1]

theorem Matches.of_wordEdge (h : Matches Pattern.wordEdge s t) : t = s ∧ s.atWordEdge = true := by
  cases h with
  | wordEdge edge => exact ⟨rfl, edge⟩

-- Behind a word character the edge of the word says that no word goes on.
theorem atWordEdge_iff {c : Char} {read : List Char} (hc : isWordChar c = true) :
    (Progress.mk (c :: read) rest).atWordEdge = true ↔ EndsWord rest := by
  rw [Progress.atWordEdge, List.head?_cons, Option.any_some, hc, EndsWord]
  cases rest.head?.any isWordChar <;> decide

theorem atWordEdge_digits_iff (hne : row ≠ []) (hrow : ∀ c ∈ row, c.isDigit = true)
    (read rest : List Char) :
    (Progress.mk (row.reverse ++ read) rest).atWordEdge = true ↔ EndsWord rest := by
  cases hlast : row.reverse with
  | nil => exact absurd (List.reverse_eq_nil_iff.mp hlast) hne
  | cons c before =>
    have hc : c ∈ row := List.mem_reverse.mp (hlast ▸ List.mem_cons_self)
    exact atWordEdge_iff (isWordChar_of_isDigit (hrow c hc))

theorem matches_many_digit (hrow : ∀ c ∈ row, c.isDigit = true) (read rest : List Char) :
    Matches digit.many ⟨read, row ++ rest⟩ ⟨row.reverse ++ read, rest⟩ := by
  induction row generalizing read with
  | nil => exact .stop
  | cons c row ih =>
    rw [List.forall_mem_cons] at hrow
    have hmore := ih hrow.2 (c :: read)
    rw [List.reverse_cons, List.append_assoc]
    exact .again (.oneOf ((inRanges_digit c).trans hrow.1)) hmore

theorem matches_some1_digit (hne : row ≠ []) (hrow : ∀ c ∈ row, c.isDigit = true)
    (read rest : List Char) :
    Matches digit.some1 ⟨read, row ++ rest⟩ ⟨row.reverse ++ read, rest⟩ := by
  cases row with
  | nil => exact absurd rfl hne
  | cons c row =>
    rw [List.forall_mem_cons] at hrow
    have hmore := matches_many_digit hrow.2 (c :: read) rest
    rw [List.reverse_cons, List.append_assoc]
    exact .seq (.oneOf ((inRanges_digit c).trans hrow.1)) hmore

theorem matches_char (c : Char) (read rest : List Char) :
    Matches (char c) ⟨read, c :: rest⟩ ⟨c :: read, rest⟩ :=
  .oneOf (by simp [inRanges])

section Integer

theorem matchesText_decimalInteger_iff : decimalInteger.MatchesText row rest ↔
    row ≠ [] ∧ (∀ c ∈ row, c.isDigit = true) ∧ EndsWord rest := by
  refine ⟨?_, ?_⟩
  · intro h
    cases h with
    | seq hdigits hedge =>
      obtain ⟨digits, hne, hdigits, hread⟩ := hdigits.of_some1_digit
      obtain ⟨rfl, hedge⟩ := hedge.of_wordEdge
      rw [List.append_nil] at hread
      obtain rfl : row = digits := List.reverse_injective hread
      have hrest := (atWordEdge_digits_iff hne hdigits [] rest).mp
      rw [List.append_nil] at hrest
      exact ⟨hne, hdigits, hrest hedge⟩
  · rintro ⟨hne, hrow, hrest⟩
    have hedge := (atWordEdge_digits_iff hne hrow [] rest).mpr hrest
    have hmatch : Matches decimalInteger ⟨[], row ++ rest⟩ ⟨row.reverse ++ [], rest⟩ :=
      .seq (matches_some1_digit hne hrow [] rest) (.wordEdge hedge)
    rwa [List.append_nil] at hmatch

theorem lexeme?_decimalInteger_iff : (decimalInteger : Matcher).lexeme? cs = some lexeme ↔
    ∃ rest, cs = lexeme ++ rest ∧ decimalInteger.MatchesText lexeme rest := by
  refine lexeme?_iff_of_unique (fun h => (matchesText_decimalInteger_iff.mp h).1) ?_
  intro row rest row' rest' h h' heq
  obtain ⟨-, hrow, hrest⟩ := matchesText_decimalInteger_iff.mp h
  obtain ⟨-, hrow', hrest'⟩ := matchesText_decimalInteger_iff.mp h'
  rw [← takeWhile_row hrow (hrest.head?_any isWordChar_of_isDigit), heq,
    takeWhile_row hrow' (hrest'.head?_any isWordChar_of_isDigit)]

end Integer

section Fraction

variable {mark : List Char}

theorem matches_optional_mark (hmark : mark = [] ∨ mark = ['f']) (read rest : List Char) :
    Matches (char 'f').optional ⟨read, mark ++ rest⟩ ⟨mark.reverse ++ read, rest⟩ := by
  rcases hmark with rfl | rfl
  · exact .altRight .empty
  · exact .altLeft (matches_char 'f' read rest)

theorem Matches.of_optional_mark (h : Matches (char 'f').optional s t) :
    ∃ mark, (mark = [] ∨ mark = ['f']) ∧ t.read = mark.reverse ++ s.read := by
  cases h with
  | altLeft left => exact ⟨['f'], .inr rfl, left.of_char⟩
  | altRight right =>
    cases right
    exact ⟨[], .inl rfl, rfl⟩

-- What a fraction ends with is a word character, be it a digit or the mark.
theorem atWordEdge_fraction_iff (hmark : mark = [] ∨ mark = ['f']) (hne : fraction ≠ [])
    (hfraction : ∀ c ∈ fraction, c.isDigit = true) (read rest : List Char) :
    (Progress.mk (mark.reverse ++ (fraction.reverse ++ read)) rest).atWordEdge = true ↔
      EndsWord rest := by
  rcases hmark with rfl | rfl
  · exact atWordEdge_digits_iff hne hfraction read rest
  · exact atWordEdge_iff (by decide)

theorem matchesText_decimalFraction_iff : decimalFraction.MatchesText lexeme rest ↔
    (∃ whole fraction, PointText (String.ofList lexeme) whole fraction) ∧ EndsWord rest := by
  refine ⟨?_, ?_⟩
  · intro h
    -- One step for each of the parts: digits, the point, digits, the mark and the edge.
    cases h with
    | seq hwhole h => cases h with
      | seq hpoint h => cases h with
        | seq hfraction h => cases h with
          | seq hoptional hedge =>
            obtain ⟨whole, hwhole_ne, hwhole_digits, hread₁⟩ := hwhole.of_some1_digit
            have hread₂ := hpoint.of_char
            obtain ⟨fraction, hfraction_ne, hfraction_digits, hread₃⟩ := hfraction.of_some1_digit
            obtain ⟨mark, hmark, hread₄⟩ := hoptional.of_optional_mark
            obtain ⟨rfl, hedge⟩ := hedge.of_wordEdge
            rw [hread₃] at hread₄
            simp only at hread₄
            rw [hread₄, atWordEdge_fraction_iff hmark hfraction_ne hfraction_digits] at hedge
            refine ⟨⟨whole, fraction, hwhole_ne, hwhole_digits, hfraction_ne, hfraction_digits, ?_⟩,
              hedge⟩
            have htext : lexeme = whole ++ '.' :: (fraction ++ mark) := by
              rw [← List.reverse_reverse lexeme, hread₄, hread₂, hread₁]
              simp
            rw [String.toList_ofList, htext]
            rcases hmark with rfl | rfl
            · left
              simp
            · right
              simp
  · rintro ⟨⟨whole, fraction, htext⟩, hrest⟩
    obtain ⟨mark, hmark, rfl⟩ := htext.exists_mark
    have hwhole := matches_some1_digit htext.whole_ne htext.whole_digits []
      ('.' :: (fraction ++ (mark ++ rest)))
    have hfraction := matches_some1_digit htext.fraction_ne htext.fraction_digits
      ('.' :: (whole.reverse ++ [])) (mark ++ rest)
    have hmatch : Matches decimalFraction ⟨[], whole ++ '.' :: (fraction ++ (mark ++ rest))⟩
        ⟨mark.reverse ++ (fraction.reverse ++ '.' :: (whole.reverse ++ [])), rest⟩ := by
      refine .seq hwhole (.seq (matches_char '.' _ _) (.seq hfraction
        (.seq (matches_optional_mark hmark _ _) (.wordEdge ?_))))
      exact (atWordEdge_fraction_iff hmark htext.fraction_ne htext.fraction_digits _ _).mpr hrest
    rw [MatchesText]
    simpa using hmatch

theorem lexeme?_decimalFraction_iff : (decimalFraction : Matcher).lexeme? cs = some lexeme ↔
    ∃ rest, cs = lexeme ++ rest ∧ decimalFraction.MatchesText lexeme rest := by
  refine lexeme?_iff_of_unique ?_ ?_
  · intro text rest h
    obtain ⟨⟨whole, fraction, htext⟩, -⟩ := matchesText_decimalFraction_iff.mp h
    obtain ⟨mark, -, rfl⟩ := htext.exists_mark
    simp
  · intro text rest other rest' h h' heq
    obtain ⟨⟨_, _, htext⟩, hrest⟩ := matchesText_decimalFraction_iff.mp h
    obtain ⟨⟨_, _, htext'⟩, hrest'⟩ := matchesText_decimalFraction_iff.mp h'
    exact htext.eq_of_append_eq hrest htext' hrest' heq

end Fraction

end Pattern

/-- The patterns of the language find a fraction or an integer. -/
theorem Scan.number_of_pattern? {cs : List Char} {found : Scan}
    (h : pattern? Rules.language.patterns cs = some found) :
    ∃ text rest, cs = text ++ rest ∧
      (found = token .floatingLiteral text ∧ Pattern.decimalFraction.MatchesText text rest ∨
        found = token .integerLiteral text ∧ Pattern.decimalInteger.MatchesText text rest) := by
  obtain ⟨rule, hmem, hrule⟩ := List.exists_of_findSome?_eq_some h
  obtain ⟨text, htext, rfl⟩ := Option.map_eq_some_iff.mp hrule
  simp only [Rules.language, List.mem_cons, List.not_mem_nil, or_false] at hmem
  rcases hmem with rfl | rfl
  · obtain ⟨rest, rfl, hmatch⟩ := Pattern.matchesText_of_lexeme? htext
    exact ⟨text, rest, rfl, .inl ⟨rfl, hmatch⟩⟩
  · obtain ⟨rest, rfl, hmatch⟩ := Pattern.matchesText_of_lexeme? htext
    exact ⟨text, rest, rfl, .inr ⟨rfl, hmatch⟩⟩

end TypedLiterals
