import TypedLiterals.Proofs.Source.Diagram
import TypedLiterals.Proofs.Token.Passage

/-!
The places of tokens and errors, shown in their source. No token begins or ends with white space, so
the caret is under the first character of the token, and the whole token is to be seen if it is on
one line. The same goes for an error, unless white space that is no blank is what is wrong.
-/

namespace TypedLiterals

section Visible

variable {c : Char}

theorem not_isWhiteSpace_of_toNat (hlow : 0x20 < c.toNat) (hhigh : c.toNat < 0x7F) :
    isWhiteSpace c = false := by
  simp [isWhiteSpace]
  omega

theorem not_isWhiteSpace_of_isDigit (h : c.isDigit = true) : isWhiteSpace c = false := by
  have hbounds : 48 ≤ c.toNat ∧ c.toNat ≤ 57 := Char.isDigit_iff_toNat.mp h
  exact not_isWhiteSpace_of_toNat (by omega) (by omega)

theorem not_isWhiteSpace_of_isNameChar (h : isNameChar c = true) : isWhiteSpace c = false := by
  rw [isNameChar, Char.isAlphanum, Bool.or_eq_true, Bool.or_eq_true, decide_eq_true_eq] at h
  rcases h with (hletter | hdigit) | rfl
  · have hbounds := toNat_of_isAlpha hletter
    exact not_isWhiteSpace_of_toNat (by omega) (by omega)
  · exact not_isWhiteSpace_of_isDigit hdigit
  · decide

theorem not_isWhiteSpace_of_isHexDigit (h : isHexDigit c = true) : isWhiteSpace c = false := by
  have hbounds := toNat_of_isHexDigit h
  exact not_isWhiteSpace_of_toNat (by omega) (by omega)

theorem not_isWhiteSpace_of_isFractionChar (h : isFractionChar c = true) :
    isWhiteSpace c = false := by
  rw [isFractionChar, Bool.or_eq_true, decide_eq_true_eq] at h
  rcases h with hdigit | rfl
  · exact not_isWhiteSpace_of_isDigit hdigit
  · decide

theorem not_isWhiteSpace_of_isQuote (h : isQuote c = true) : isWhiteSpace c = false := by
  rcases isQuote_iff.mp h with rfl | rfl
  · decide
  · decide

namespace Rules

theorem not_isWhiteSpace_of_char : ∀ rule ∈ language.chars, isWhiteSpace rule.char = false := by
  decide

theorem visible_of_spelling :
    ∀ rule ∈ language.spellings, rule.spelling.all (fun c => !isWhiteSpace c) = true := by
  decide

theorem not_isWhiteSpace_of_begins (h : begins c = true) : isWhiteSpace c = false := by
  rw [begins, beginsNoOpener, Bool.or_eq_true, Bool.or_eq_true, Bool.or_eq_true,
    List.any_eq_true] at h
  rcases h with ((hdigit | hname) | hquote) | ⟨rule, hmem, hrule⟩
  · exact not_isWhiteSpace_of_isDigit hdigit
  · exact not_isWhiteSpace_of_isNameChar (isNameChar_of_isNameStart hname)
  · exact not_isWhiteSpace_of_isQuote hquote
  · rw [← of_decide_eq_true hrule]
    exact not_isWhiteSpace_of_char rule hmem

end Rules

theorem exists_last_of_forall {text : List Char} (hne : text ≠ [])
    (h : ∀ c ∈ text, isWhiteSpace c = false) :
    ∃ front c, text = front ++ [c] ∧ isWhiteSpace c = false := by
  obtain ⟨front, c, rfl⟩ := (List.eq_nil_or_concat' text).resolve_left hne
  exact ⟨front, c, rfl, h c (by simp)⟩

namespace Lexeme

variable {rest text : List Char} {kind : TokenKind}

theorem exists_first (h : Lexeme rest kind text) :
    ∃ c tail, text = c :: tail ∧ isWhiteSpace c = false := by
  have hbegins := h.candidate.head?_any_begins
  cases text with
  | nil => cases hbegins
  | cons c tail => exact ⟨c, tail, rfl, Rules.not_isWhiteSpace_of_begins hbegins⟩

theorem exists_last (h : Lexeme rest kind text) :
    ∃ front c, text = front ++ [c] ∧ isWhiteSpace c = false := by
  cases h with
  | char known => exact ⟨[], _, rfl, Rules.not_isWhiteSpace_of_char _ known⟩
  | spelling known =>
    apply exists_last_of_forall (Rules.language_productive _ known)
    simpa using Rules.visible_of_spelling _ known
  | @fraction _ whole _ point =>
    obtain ⟨mark, hmark, rfl⟩ := point.exists_mark
    have hrow := isFractionChar_of_mem point.fraction_digits hmark
    have hne := List.append_ne_nil_of_left_ne_nil point.fraction_ne mark
    obtain ⟨front, c, hlast, hc⟩ := exists_last_of_forall hne fun c hc =>
      not_isWhiteSpace_of_isFractionChar (hrow c hc)
    exact ⟨whole ++ '.' :: front, c, by rw [hlast, List.append_assoc, List.cons_append], hc⟩
  | integer ne digits =>
    exact exists_last_of_forall ne fun c hc => not_isWhiteSpace_of_isDigit (digits c hc)
  | @word c row start goesOn =>
    have hrow : ∀ d ∈ c :: row, isNameChar d = true :=
      List.forall_mem_cons.mpr ⟨isNameChar_of_isNameStart start, goesOn⟩
    exact exists_last_of_forall (List.cons_ne_nil _ _) fun d hd =>
      not_isWhiteSpace_of_isNameChar (hrow d hd)
  | @string quote body opens =>
    exact ⟨quote :: body, quote, rfl, not_isWhiteSpace_of_isQuote opens⟩
  | @hex x row mark ne digits =>
    obtain ⟨front, c, rfl, hc⟩ := exists_last_of_forall ne fun c hc =>
      not_isWhiteSpace_of_isHexDigit (digits c hc)
    exact ⟨'0' :: x :: front, c, rfl, hc⟩

end Lexeme

end Visible

variable {rest text : List Char} {p : Place} {tokens : List Token}

-- A token on one line is shown as it is.
theorem Diagram.PointsAt.prefix_of_lexeme {d : Diagram} {l : Location} {before after : List Char}
    {kind : TokenKind} (h : d.PointsAt l before (text ++ after)) (hlexeme : Lexeme rest kind text)
    (hline : '\n' ∉ text) : text <+: d.shown.drop d.index := by
  obtain ⟨front, c, rfl, hc⟩ := hlexeme.exists_last
  have hall : ∀ d ∈ front ++ [c], decide (d ≠ '\n') = true := fun d hd =>
    decide_eq_true (ne_of_mem_of_not_mem hd hline)
  rw [h.rest, List.takeWhile_append_of_pos hall, List.append_assoc, List.singleton_append,
    trimEnd_append_cons hc]
  exact ⟨trimEnd (after.takeWhile (· ≠ '\n')), by simp⟩

def Token.locationIn (token : Token) (file : String) : Location :=
  { token.place with file := file }

namespace Lexer

/-- The caret points at every token of a source, and at every error that can be seen, as long as the
fields of the excerpt have room. Where they have none there is no excerpt at all. -/
theorem tokenize_caret (lexer : Lexer) (hrules : lexer.rules = .language)
    (hfile : '\n' ∉ lexer.file.toList) (source : String) :
    (∀ tokens, lexer.tokenize source = .ok tokens → ∀ token ∈ tokens,
      ∃ before after : List Char, source.toList = before ++ (token.text.toList ++ after) ∧
        token.place = Place.behind before ∧
        ((token.locationIn lexer.file).Fits source.toList → ∃ d : Diagram,
          (token.locationIn lexer.file).excerpt source = .ok d.text ∧
            d.PointsAt (token.locationIn lexer.file) before (token.text.toList ++ after) ∧
            ('\n' ∉ token.text.toList → token.text.toList <+: d.shown.drop d.index)) ∧
        (¬(token.locationIn lexer.file).Fits source.toList →
          (token.locationIn lexer.file).excerpt source = .error .tooWide)) ∧
    ∀ e, lexer.tokenize source = .error e → ∃ before c after,
      source.toList = before ++ c :: after ∧ e.location.toPlace = Place.behind before ∧
        (e.location.Fits source.toList → isWhiteSpace c = false → ∃ d : Diagram,
          e.location.excerpt source = .ok d.text ∧ d.PointsAt e.location before (c :: after)) ∧
        (¬e.location.Fits source.toList → e.location.excerpt source = .error .tooWide) := by
  constructor
  · intro tokens htokens token hmem
    have hpassage := (tokenize_eq_ok_iff hrules).mp htokens
    obtain ⟨before, after, hsource, hplace, hlexeme⟩ := hpassage.exists_split hmem
    rw [Place.start_after] at hplace
    obtain ⟨c, tail, hfirst, hc⟩ := hlexeme.exists_first
    have hrest : token.text.toList ++ after = c :: (tail ++ after) := by
      rw [hfirst, List.cons_append]
    refine ⟨before, after, hsource, hplace, ?_, ?_⟩
    · intro hfits
      have hpoints := Location.diagram_pointsAt (l := token.locationIn lexer.file) hfile hplace hc
        (tail ++ after)
      rw [← hrest, ← hsource] at hpoints
      exact ⟨_, Location.excerpt_of_fits hplace hsource hfits, hpoints,
        hpoints.prefix_of_lexeme hlexeme⟩
    · exact Location.excerpt_of_not_fits hplace hsource
  · intro e he
    obtain ⟨text, rest, tokens, hsource, -, hstuck, herror⟩ := (tokenize_eq_error_iff hrules).mp he
    obtain ⟨c, after, rfl, -⟩ := hstuck.exists_head
    have hplace : e.location.toPlace = Place.behind text := by
      rw [herror, ← Place.start_after]
      rfl
    have hfile' : '\n' ∉ e.location.file.toList := by
      rw [herror]
      exact hfile
    refine ⟨text, c, after, hsource, hplace, ?_, ?_⟩
    · intro hfits hc
      have hpoints := Location.diagram_pointsAt hfile' hplace hc after
      rw [← hsource] at hpoints
      exact ⟨_, Location.excerpt_of_fits hplace hsource hfits, hpoints⟩
    · exact Location.excerpt_of_not_fits hplace hsource

/-- A name behind a string, on a line that begins with a tab. -/
theorem tokenize_caret_indented :
    ∃ (before after : List Char) (d : Diagram),
      "x\n\t \"é\" y1 ".toList = before ++ ("y1".toList ++ after) ∧
        ⟨2, 7⟩ = Place.behind before ∧
        Location.excerpt ⟨⟨2, 7⟩, "a.lang"⟩ "x\n\t \"é\" y1 " = .ok d.text ∧
        d.PointsAt ⟨⟨2, 7⟩, "a.lang"⟩ before ("y1".toList ++ after) ∧
        ('\n' ∉ "y1".toList → "y1".toList <+: d.shown.drop d.index) := by
  have hfile : '\n' ∉ ({ file := "a.lang" } : Lexer).file.toList := by decide +kernel
  have htokens : ({ file := "a.lang" } : Lexer).tokenize "x\n\t \"é\" y1 " =
      .ok [⟨.identifier, "x", ⟨1, 1⟩⟩, ⟨.stringLiteral, "\"é\"", ⟨2, 3⟩⟩,
        ⟨.identifier, "y1", ⟨2, 7⟩⟩] := by
    decide +kernel
  have hfits : Location.Fits ⟨⟨2, 7⟩, "a.lang"⟩ "x\n\t \"é\" y1 ".toList := by decide +kernel
  obtain ⟨before, after, hsource, hplace, hshown, -⟩ :=
    (tokenize_caret _ rfl hfile _).1 _ htokens ⟨.identifier, "y1", ⟨2, 7⟩⟩ (by simp)
  obtain ⟨d, hexcerpt, hpoints, hprefix⟩ := hshown hfits
  exact ⟨before, after, d, hsource, hplace, hexcerpt, hpoints, hprefix⟩

section Far

variable {m : Nat}

theorem isName_replicate (hm : 0 < m) (hends : rest.head?.any isNameChar = false) :
    Lexeme rest (.ofWord (String.ofList (List.replicate m 'x'))) (List.replicate m 'x') := by
  obtain ⟨n, rfl⟩ := Nat.exists_eq_succ_of_ne_zero (Nat.ne_of_gt hm)
  have hrow : ∀ c ∈ List.replicate n 'x', isNameChar c = true := by
    intro c hc
    rw [List.eq_of_mem_replicate hc]
    decide
  rw [Nat.succ_eq_add_one, List.replicate_succ]
  exact .word (by decide) hrow hends

theorem not_mem_replicate (m : Nat) : '\n' ∉ List.replicate m 'x' := by
  simp [List.mem_replicate]

theorem after_replicate (m : Nat) : Place.start.after (List.replicate m 'x') = ⟨1, m + 1⟩ := by
  rw [Place.after_of_not_mem _ (not_mem_replicate m), List.length_replicate, Place.start,
    Nat.add_comm 1 m]

-- A long name and a short one behind it.
theorem mem_tokens_far (hm : 0 < m) :
    ∃ tokens, ({} : Lexer).tokenize (String.ofList (List.replicate m 'x' ++ [' ', 'y'])) =
      .ok tokens ∧ ⟨.identifier, "y", ⟨1, m + 2⟩⟩ ∈ tokens := by
  have hshort : Lexeme [] (.ofWord (String.ofList ['y'])) ['y'] :=
    .word (by decide) (List.forall_mem_nil _) rfl
  have hplace : (Place.start.after (List.replicate m 'x')).step ' ' = ⟨1, m + 2⟩ := by
    rw [after_replicate]
    rfl
  have hlong : Lexeme ([' ', 'y'] ++ []) _ (List.replicate m 'x') := isName_replicate hm rfl
  have hrest : Passage [] ⟨1, m + 2⟩ (['y'] ++ []) [⟨.identifier, "y", ⟨1, m + 2⟩⟩] :=
    .token hshort .done
  rw [← hplace] at hrest
  have hpassage := Passage.token hlong (.blank (c := ' ') (by decide) hrest)
  refine ⟨_, (tokenize_eq_ok_iff rfl).mpr (by rwa [String.toList_ofList]), ?_⟩
  rw [hplace]
  exact List.mem_cons_of_mem _ (List.mem_singleton_self _)

theorem head?_any_isIndent_replicate (hm : 0 < m) (rest : List Char) :
    (List.replicate m 'x' ++ rest).head?.any isIndent = false := by
  obtain ⟨n, rfl⟩ := Nat.exists_eq_succ_of_ne_zero (Nat.ne_of_gt hm)
  rfl

theorem excerpt_far (hm : 65534 ≤ m) (file : String) :
    Location.excerpt ⟨⟨1, m + 2⟩, file⟩ (String.ofList (List.replicate m 'x' ++ [' ', 'y'])) =
      .error .tooWide := by
  have hline : '\n' ∉ List.replicate m 'x' ++ [' '] := by simp
  have hlength : (List.replicate m 'x' ++ [' ']).length = m + 1 := by simp
  have hfar := Location.excerpt_of_length (c := 'y') (by decide) hline
    (head?_any_isIndent_replicate (by omega) [' ']) (by omega) [] file
  rw [hlength, List.append_assoc] at hfar
  exact hfar

end Far

/-- A token of a source that has no excerpt, behind so many characters on its line. -/
theorem not_shown_of_tokenize :
    ∃ tokens, Lexer.tokenize {} (String.ofList (List.replicate 69999 'x' ++ [' ', 'y'])) =
        .ok tokens ∧
      ⟨.identifier, "y", ⟨1, 70001⟩⟩ ∈ tokens ∧
      Location.excerpt ⟨⟨1, 70001⟩, "shell"⟩
        (String.ofList (List.replicate 69999 'x' ++ [' ', 'y'])) = .error .tooWide := by
  obtain ⟨tokens, htokens, hmem⟩ := mem_tokens_far (m := 69999) (by decide)
  exact ⟨tokens, htokens, hmem, excerpt_far (by decide) "shell"⟩

end Lexer

end TypedLiterals
