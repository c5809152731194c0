import TypedLiterals.Proofs.Token.QuotedText

/-!
Which quote closes a string, told by the backslashes in front of it: the first quote with an even
number of them. The scanner only knows whether the character before is a backslash that escapes.
-/

namespace TypedLiterals

namespace Quoted

/-- How many backslashes a text ends with. -/
def escapesAtEnd (cs : List Char) : Nat :=
  (cs.reverse.takeWhile (· = '\\')).length

/-- In the text a quote stands behind `body` that no backslash escapes: those in front of it escape
one another. -/
structure Closes (quote : Char) (cs body : List Char) : Prop where
  stands : body ++ [quote] <+: cs
  unescaped : escapesAtEnd body % 2 = 0

/-- No such quote stands further in front. -/
structure ClosesFirst (quote : Char) (cs body : List Char) : Prop extends Closes quote cs body where
  first : ∀ other, Closes quote cs other → body.length ≤ other.length

variable {quote c : Char} {cs body other text : List Char}

section Escapes

theorem escapesAtEnd_cons_of_ne (hc : c ≠ '\\') (cs : List Char) :
    escapesAtEnd (c :: cs) = escapesAtEnd cs := by
  have hplain : [c].takeWhile (· = '\\') = [] :=
    List.takeWhile_cons_of_neg (by rwa [decide_eq_true_eq])
  rw [escapesAtEnd, escapesAtEnd, List.reverse_cons, List.takeWhile_append, hplain]
  split
  · rename_i hall
    rw [List.append_nil, hall]
  · rfl

-- If all the characters behind it are backslashes, the one that is escaped makes one more or none.
theorem escapesAtEnd_escaped (c : Char) (cs : List Char) :
    escapesAtEnd ('\\' :: c :: cs) % 2 = escapesAtEnd cs % 2 := by
  rw [escapesAtEnd, escapesAtEnd, List.reverse_cons, List.reverse_cons, List.append_assoc,
    List.takeWhile_append]
  split
  · rename_i hall
    rw [List.length_append, hall]
    by_cases hc : c = '\\'
    · subst hc
      exact Nat.add_mod_right _ 2
    · have hplain : [c, '\\'].takeWhile (· = '\\') = [] :=
        List.takeWhile_cons_of_neg (by rwa [decide_eq_true_eq])
      rw [List.singleton_append, hplain]
      rfl
  · rfl

theorem Closes.of_escaped (h : Closes quote cs body) :
    Closes quote ('\\' :: c :: cs) ('\\' :: c :: body) where
  stands := (List.prefix_cons_inj _).mpr ((List.prefix_cons_inj _).mpr h.stands)
  unescaped := (escapesAtEnd_escaped c body).trans h.unescaped

theorem Closes.of_plain (hc : c ≠ '\\') (h : Closes quote cs body) :
    Closes quote (c :: cs) (c :: body) where
  stands := (List.prefix_cons_inj _).mpr h.stands
  unescaped := (congrArg (· % 2) (escapesAtEnd_cons_of_ne hc body)).trans h.unescaped

end Escapes

section Contents

theorem Body.escapesAtEnd_even (h : Body quote body) : escapesAtEnd body % 2 = 0 := by
  induction h with
  | empty => rfl
  | escaped _ ih => rwa [escapesAtEnd_escaped]
  | plain _ noEscape _ ih => rwa [escapesAtEnd_cons_of_ne noEscape]

theorem Body.not_closes (hquote : quote ≠ '\\') (h : Body quote body) :
    ¬Closes quote body other := by
  induction h generalizing other with
  | empty =>
    intro hcloses
    exact List.append_ne_nil_of_right_ne_nil _ (by simp) (List.prefix_nil.mp hcloses.stands)
  | @escaped c body _ ih =>
    rintro ⟨hstands, heven⟩
    match other with
    | [] => exact hquote (List.cons_prefix_cons.mp hstands).1
    | [d] =>
      obtain ⟨rfl, -⟩ := List.cons_prefix_cons.mp hstands
      cases heven
    | d :: e :: other =>
      obtain ⟨rfl, hbehind⟩ := List.cons_prefix_cons.mp hstands
      obtain ⟨rfl, hinside⟩ := List.cons_prefix_cons.mp hbehind
      rw [escapesAtEnd_escaped] at heven
      exact ih ⟨hinside, heven⟩
  | @plain c body noQuote noEscape _ ih =>
    rintro ⟨hstands, heven⟩
    cases other with
    | nil => exact noQuote (List.cons_prefix_cons.mp hstands).1.symm
    | cons d other =>
      obtain ⟨rfl, hinside⟩ := List.cons_prefix_cons.mp hstands
      rw [escapesAtEnd_cons_of_ne noEscape] at heven
      exact ih ⟨hinside, heven⟩

theorem body_of_not_closes (heven : escapesAtEnd body % 2 = 0)
    (hnone : ∀ other, ¬Closes quote body other) : Body quote body := by
  fun_induction close? quote body with
  | case1 => exact .empty
  | case2 c rest ih =>
    rw [escapesAtEnd_escaped] at heven
    exact .escaped (ih heven fun other h => hnone _ h.of_escaped)
  | case3 rest => exact absurd ⟨⟨rest, rfl⟩, rfl⟩ (hnone [])
  | case4 c rest hescape hc ih =>
    have hplain : c ≠ '\\' := by
      rintro rfl
      cases rest with
      | nil => cases heven
      | cons d rest => exact hescape d rest rfl rfl
    rw [escapesAtEnd_cons_of_ne hplain] at heven
    exact .plain hc hplain (ih heven fun other h => hnone _ (h.of_plain hplain))

end Contents

section First

theorem closesFirst_of_body (hquote : quote ≠ '\\') (h : Body quote body) (rest : List Char) :
    ClosesFirst quote (body ++ quote :: rest) body where
  stands := ⟨rest, by rw [List.append_assoc, List.singleton_append]⟩
  unescaped := h.escapesAtEnd_even
  first := by
    intro other hother
    by_contra hshorter
    have hlength : (other ++ [quote]).length ≤ body.length := by
      rw [List.length_append, List.length_singleton]
      omega
    have hinside := List.prefix_of_prefix_length_le hother.stands (List.prefix_append _ _) hlength
    exact h.not_closes hquote ⟨hinside, hother.unescaped⟩

theorem ClosesFirst.isBody (h : ClosesFirst quote cs body) : Body quote body := by
  apply body_of_not_closes h.unescaped
  intro other hother
  have hinside := hother.stands.length_le
  have hstands := hother.stands.trans ((List.prefix_append body [quote]).trans h.stands)
  have hfirst := h.first other ⟨hstands, hother.unescaped⟩
  rw [List.length_append, List.length_singleton] at hinside
  omega

theorem close?_eq_some_iff (hquote : quote ≠ '\\') :
    close? quote cs = some text ↔ ∃ body, ClosesFirst quote cs body ∧ text = body ++ [quote] := by
  refine ⟨?_, ?_⟩
  · intro h
    obtain ⟨body, rest, hbody, rfl, rfl⟩ := exists_body_of_close? h
    exact ⟨body, closesFirst_of_body hquote hbody rest, rfl⟩
  · rintro ⟨body, hfirst, rfl⟩
    obtain ⟨rest, rfl⟩ := hfirst.stands
    rw [List.append_assoc, List.singleton_append]
    exact hfirst.isBody.close?_eq hquote rest

-- Of all the quotes that would close the string there is a first one.
theorem Closes.exists_first (h : Closes quote cs body) : ∃ first, ClosesFirst quote cs first := by
  induction hlength : body.length using Nat.strong_induction_on generalizing body with
  | _ n ih =>
    by_cases hfirst : ∀ other, Closes quote cs other → body.length ≤ other.length
    · exact ⟨body, h, hfirst⟩
    · push Not at hfirst
      obtain ⟨other, hother, hshorter⟩ := hfirst
      exact ih other.length (hlength ▸ hshorter) hother rfl

theorem close?_isSome_iff (hquote : quote ≠ '\\') :
    (close? quote cs).isSome = true ↔ ∃ body, Closes quote cs body := by
  rw [Option.isSome_iff_exists]
  refine ⟨?_, ?_⟩
  · rintro ⟨text, htext⟩
    obtain ⟨body, hfirst, -⟩ := (close?_eq_some_iff hquote).mp htext
    exact ⟨body, hfirst.toCloses⟩
  · rintro ⟨body, hcloses⟩
    obtain ⟨first, hfirst⟩ := hcloses.exists_first
    exact ⟨_, (close?_eq_some_iff hquote).mpr ⟨first, hfirst, rfl⟩⟩

end First

end Quoted

namespace Lexer

open Quoted

variable {rules : Rules} {file : String} {c : Cursor} {quote : Char} {cs body : List Char}

theorem attempt_string_of_close? (hc : c.rest = quote :: cs) (hquote : isQuote quote = true) :
    attempt rules file .string c =
      match close? quote cs with
      | some text => .ok (some ⟨some ⟨.stringLiteral, String.ofList (quote :: text), c.place⟩,
          c.skip (text.length + 1)⟩)
      | none => .error (errorAt file c (.unterminated .string)) := by
  rw [attempt, Recognizer.scan?, hc, Scan.string?, if_pos (isQuote_iff.mp hquote)]
  cases close? quote cs <;> rfl

/-- At a quote the recognizer of strings takes the text up to the first quote of this kind that an
even number of backslashes stands in front of. If there is none it fails at the opening quote, and
the error shows how the line goes on. -/
theorem attempt_string (rules : Rules) (file : String) (hc : c.rest = quote :: cs)
    (hquote : isQuote quote = true) :
    ((∃ step, attempt rules file .string c = .ok (some step)) ↔ ∃ body, Closes quote cs body) ∧
    (∀ body, ClosesFirst quote cs body →
      attempt rules file .string c = .ok (some
        ⟨some ⟨.stringLiteral, quoted quote body, c.place⟩, c.skip (body.length + 2)⟩)) ∧
    ((∀ body, ¬Closes quote cs body) →
      attempt rules file .string c = .error
        { fault := .unterminated .string
          snippet := String.ofList ((c.rest.takeWhile (· ≠ '\n')).take 16)
          location := ⟨c.place, file⟩ }) := by
  have hescape := ne_escape_of_isQuote hquote
  rw [attempt_string_of_close? hc hquote]
  refine ⟨?_, ?_, ?_⟩
  · rw [← close?_isSome_iff hescape]
    cases close? quote cs with
    | none =>
      refine iff_of_false ?_ Bool.false_ne_true
      rintro ⟨step, hstep⟩
      cases hstep
    | some text => exact iff_of_true ⟨_, rfl⟩ rfl
  · intro body hfirst
    rw [(close?_eq_some_iff hescape).mpr ⟨body, hfirst, rfl⟩]
    simp [quoted]
  · intro hnone
    have hclose : close? quote cs = none := by
      rw [← Option.not_isSome_iff_eq_none, close?_isSome_iff hescape]
      exact not_exists.mpr hnone
    rw [hclose]
    rfl

/-- The first quote is escaped, and the second stands behind a backslash that is. Behind the first
one alone nothing closes the string. -/
theorem attempt_string_escaped :
    (ClosesFirst '\'' ['a', '\\', '\'', '\\', '\\', '\'', 'b', '\''] ['a', '\\', '\'', '\\', '\\'] ∧
      attempt .language "shell" .string
          (.ofSource ['\'', 'a', '\\', '\'', '\\', '\\', '\'', 'b', '\'']) =
        .ok (some ⟨some ⟨.stringLiteral, "'a\\'\\\\'", ⟨1, 1⟩⟩, ⟨['b', '\''], ⟨1, 8⟩, 7⟩⟩)) ∧
      attempt .language "shell" .string ⟨['\'', 'a', '\\', '\'', '\n', '"'], ⟨2, 3⟩, 9⟩ =
        .error ⟨.unterminated .string, "'a\\'", ⟨⟨2, 3⟩, "shell"⟩⟩ := by
  have hbody : Body '\'' ['a', '\\', '\'', '\\', '\\'] :=
    .plain (by decide) (by decide) (.escaped (.escaped .empty))
  have hfirst := closesFirst_of_body (by decide) hbody ['b', '\'']
  have hopen : Body '\'' ['a', '\\', '\'', '\n', '"'] :=
    .plain (by decide) (by decide)
      (.escaped (.plain (by decide) (by decide) (.plain (by decide) (by decide) .empty)))
  refine ⟨⟨hfirst, ?_⟩, ?_⟩
  · exact (attempt_string .language "shell" rfl rfl).2.1 _ hfirst
  · exact (attempt_string .language "shell" rfl rfl).2.2 fun _ => hopen.not_closes (by decide)

end Lexer

end TypedLiterals
