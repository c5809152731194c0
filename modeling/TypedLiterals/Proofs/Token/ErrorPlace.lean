import TypedLiterals.Proofs.Token.Passage

/-!
An error says where a source can no longer be read. What stands in front of that place is read by
itself, and what begins there is refused by itself with the same error. A fraction could come into
being where the rest of the source is cut off, but only within digits, and the lexer does not stop
there.
-/

namespace TypedLiterals

section Cut

variable {rest text : List Char} {p : Place} {tokens : List Token}

-- Nothing longer than the point may be taken where it stands.
theorem Passage.of_point (h : Passage rest p ('.' :: text) tokens) :
    ∃ p tokens, Passage rest p text tokens := by
  rcases h.head_cases with ⟨hblank, -⟩ | ⟨-, lexeme, tail, more, rfl, hcandidate, hmore⟩
  · cases hblank
  · have hpoint : Lexeme (lexeme ++ tail ++ rest) .dot ['.'] := by
      refine @Lexeme.char _ { char := '.', kind := .dot } (by simp [Rules.language]) ?_
      cases lexeme ++ tail ++ rest <;> rfl
    have hfound := Recognizer.firstScan?_eq_token_iff.mpr ⟨_, rfl, hpoint⟩
    have hlongest := Recognizer.longest_of_firstScan? hfound rfl
    have hlength := hlongest.2 ('.' :: lexeme) ⟨tail ++ rest, by simp, hcandidate⟩
    obtain rfl : lexeme = [] :=
      List.length_eq_zero_iff.mp (Nat.le_zero.mp (Nat.le_of_succ_le_succ hlength))
    exact ⟨_, _, hmore⟩

theorem isWordChar_of_isFractionChar {c : Char} (h : isFractionChar c = true) :
    isWordChar c = true := by
  rw [isFractionChar, Bool.or_eq_true, decide_eq_true_eq] at h
  rcases h with hdigit | rfl
  · exact isWordChar_of_isDigit hdigit
  · rfl

-- Of what begins with a digit, only an integer is written with these characters alone, and it ends
-- where they do.
theorem Passage.endsWord_of_digits {d : Char} (h : Passage rest p (d :: text) tokens)
    (hd : d.isDigit = true) (htext : ∀ c ∈ d :: text, isFractionChar c = true) :
    EndsWord rest := by
  rcases h.head_cases with ⟨hblank, -⟩ | ⟨-, lexeme, tail, more, rfl, hcandidate, -⟩
  · have hword := (isWordChar_of_isDigit hd).symm.trans (eq_false_of_isBlank (by decide) hblank)
    exact absurd hword nofun
  · rw [← List.cons_append, List.forall_mem_append] at htext
    obtain ⟨hlexeme, htail⟩ := htext
    have hnumber := hcandidate.number_of_digit hd
    generalize d :: lexeme = number at hnumber hlexeme
    cases hnumber with
    | fraction => cases hlexeme '.' (List.mem_append_right _ List.mem_cons_self)
    | integer _ hends =>
      cases tail with
      | nil => exact hends
      | cons c tail =>
        have hc := isWordChar_of_isFractionChar (htail c List.mem_cons_self)
        exact absurd hends (EndsWord.not_cons hc)
    | @hex x row mark =>
      have hx := hlexeme x (List.mem_cons_of_mem _ List.mem_cons_self)
      rcases mark with rfl | rfl
      · cases hx
      · cases hx

-- If the rest of the source is cut off no fraction comes into being.
theorem Passage.pointFollows (h : Passage rest p text tokens) (hpoint : PointFollows text) :
    PointFollows (text ++ rest) := by
  obtain ⟨row, after, rfl, hdigit, hrow, ends, hfollows⟩ := hpoint.exists_row
  rw [List.append_assoc]
  apply hfollows
  cases after with
  | cons c after => exact ends
  | nil =>
    rw [List.append_nil] at h
    obtain ⟨p, tokens, hdigits⟩ := h.of_point
    cases row with
    | nil => cases hdigit
    | cons d row => exact hdigits.endsWord_of_digits hdigit hrow

/-- What stands behind a passage can be cut off. -/
theorem Passage.cut (h : Passage rest p text tokens) : Passage [] p text tokens := by
  apply h.change
  · intro _ tail _ htail
    rw [List.append_nil]
    refine ⟨?_, htail.pointFollows⟩
    intro c hc
    cases tail with
    | nil => cases hc
    | cons d tail => exact .inl hc
  · nofun

end Cut

namespace Lexer

variable {lexer : Lexer}

/-- A refused source splits at the place of its error. What stands before is read by itself, and
what begins there is refused by itself at its very start. The error shows how the line goes on. -/
theorem tokenize_splits (hrules : lexer.rules = .language) {source : String} {e : LexicalError}
    (h : lexer.tokenize source = .error e) :
    ∃ before rest : String, source = before ++ rest ∧
      e.location.toPlace = Place.behind before.toList ∧
      (∃ tokens, lexer.tokenize before = .ok tokens) ∧
      lexer.tokenize rest =
        .error { e with location := { Place.start with file := e.location.file } } ∧
      e.snippet.toList = (rest.toList.takeWhile (· ≠ '\n')).take 16 := by
  obtain ⟨text, rest, tokens, hsource, hpassage, hstuck, he⟩ := (tokenize_eq_error_iff hrules).mp h
  refine ⟨String.ofList text, String.ofList rest, ?_, ?_, ⟨tokens, ?_⟩, ?_, ?_⟩
  · rw [← String.ofList_append, ← hsource, String.ofList_toList]
  · rw [he, String.toList_ofList, ← Place.start_after]
    rfl
  · rw [tokenize_eq_ok_iff hrules, String.toList_ofList]
    exact hpassage.cut
  · rw [tokenize_eq_error_iff hrules, String.toList_ofList]
    refine ⟨[], rest, [], rfl, .done, hstuck, ?_⟩
    rw [he]
    rfl
  · rw [he, String.toList_ofList]
    show (String.ofList ((rest.takeWhile _).take snippetLength)).toList = _
    rw [String.toList_ofList]
    rfl

/-- The digit in front of the word is not read together with the point before it. -/
theorem tokenize_splits_word :
    ({} : Lexer).tokenize "a\n 1.5é\nb" = .error ⟨.unknownToken, "5é", ⟨⟨2, 4⟩, "shell"⟩⟩ ∧
      ∃ before rest : String, "a\n 1.5é\nb" = before ++ rest ∧
        ⟨2, 4⟩ = Place.behind before.toList ∧
        (∃ tokens, ({} : Lexer).tokenize before = .ok tokens) ∧
        ({} : Lexer).tokenize rest = .error ⟨.unknownToken, "5é", ⟨⟨1, 1⟩, "shell"⟩⟩ ∧
        "5é".toList = (rest.toList.takeWhile (· ≠ '\n')).take 16 := by
  have h : ({} : Lexer).tokenize "a\n 1.5é\nb" =
      .error ⟨.unknownToken, "5é", ⟨⟨2, 4⟩, "shell"⟩⟩ := by
    decide +kernel
  exact ⟨h, tokenize_splits rfl h⟩

end Lexer

end TypedLiterals
