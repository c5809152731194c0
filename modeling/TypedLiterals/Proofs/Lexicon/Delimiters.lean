import Mathlib.Data.List.Infix
import TypedLiterals.Lexicon.Recognizer

/-!
Where strings and block comments end: at the first quote that no backslash escapes, and behind the
first mark that closes a comment.
-/

namespace TypedLiterals

namespace Quoted

/-- The contents of a string up to its first unescaped quote. -/
inductive Body (quote : Char) : List Char → Prop where
  | empty : Body quote []
  | escaped {c : Char} {body : List Char} (more : Body quote body) : Body quote ('\\' :: c :: body)
  | plain {c : Char} {body : List Char} (noQuote : c ≠ quote) (noEscape : c ≠ '\\')
      (more : Body quote body) : Body quote (c :: body)

variable {quote : Char} {cs body text : List Char}

theorem Body.close?_eq (hquote : quote ≠ '\\') (h : Body quote body) (rest : List Char) :
    close? quote (body ++ quote :: rest) = some (body ++ [quote]) := by
  induction h with
  | empty =>
    show close? quote (quote :: rest) = some [quote]
    rw [close?.eq_def]
    split
    · contradiction
    · rename_i heq
      exact absurd (List.cons.inj heq).1 hquote
    · rename_i heq
      obtain ⟨rfl, rfl⟩ := List.cons.inj heq
      rw [if_pos rfl]
  | escaped _ ih =>
    rw [List.cons_append, List.cons_append, close?, ih]
    rfl
  | @plain c body noQuote noEscape _ ih =>
    rw [List.cons_append, close?, if_neg noQuote, ih]
    · rfl
    · rintro d tail rfl
      exact absurd rfl noEscape

theorem exists_body_of_close? (h : close? quote cs = some text) :
    ∃ body rest, Body quote body ∧ text = body ++ [quote] ∧ cs = body ++ quote :: rest := by
  fun_induction close? quote cs generalizing text with
  | case1 => contradiction
  | case2 c cs ih =>
    obtain ⟨inner, hinner, rfl⟩ := Option.map_eq_some_iff.mp h
    obtain ⟨body, rest, hbody, rfl, rfl⟩ := ih hinner
    exact ⟨'\\' :: c :: body, rest, .escaped hbody, rfl, rfl⟩
  | case3 cs =>
    cases h
    exact ⟨[], cs, .empty, rfl, rfl⟩
  | case4 c cs hescape hc ih =>
    obtain ⟨inner, hinner, rfl⟩ := Option.map_eq_some_iff.mp h
    obtain ⟨body, rest, hbody, rfl, rfl⟩ := ih hinner
    refine ⟨c :: body, rest, .plain hc ?_ hbody, rfl, rfl⟩
    rintro rfl
    cases body with
    | nil => exact hescape _ _ rfl rfl
    | cons d body => exact hescape _ _ rfl rfl

theorem close?_eq_none_iff (hquote : quote ≠ '\\') :
    close? quote cs = none ↔ ∀ body rest, Body quote body → cs ≠ body ++ quote :: rest := by
  refine ⟨?_, ?_⟩
  · rintro hnone body rest hbody rfl
    rw [hbody.close?_eq hquote] at hnone
    cases hnone
  · intro hopen
    cases hclose : close? quote cs with
    | none => rfl
    | some text =>
      obtain ⟨body, rest, hbody, -, htail⟩ := exists_body_of_close? hclose
      exact absurd htail (hopen body rest hbody)

end Quoted

namespace Scan

variable {cs body text : List Char}

-- The search for the closing mark stops at the first one.
theorem closeComment?_eq_some (h : closeComment? cs = some text) :
    ∃ body, text = body ++ ['*', '/'] ∧ text <+: cs ∧ ¬ ['*', '/'] <:+: body ++ ['*'] := by
  fun_induction closeComment? cs generalizing text with
  | case1 => contradiction
  | case2 rest =>
    cases h
    exact ⟨[], rfl, ⟨rest, rfl⟩, by decide⟩
  | case3 c rest hopen ih =>
    rcases Option.map_eq_some_iff.mp h with ⟨inner, hi, rfl⟩
    rcases ih hi with ⟨body, rfl, ⟨tail, rfl⟩, hfirst⟩
    refine ⟨c :: body, rfl, ⟨tail, rfl⟩, ?_⟩
    intro hinfix
    rcases List.infix_cons_iff.mp hinfix with hbegins | hlater
    -- An opening `*/` here would have ended the search before.
    · rcases List.cons_prefix_cons.mp hbegins with ⟨rfl, hslash⟩
      cases body with
      | nil => simp at hslash
      | cons d body =>
        rcases List.cons_prefix_cons.mp hslash with ⟨rfl, -⟩
        exact hopen _ rfl rfl
    · exact hfirst hlater

theorem closeComment?_eq (h : ¬ ['*', '/'] <:+: body ++ ['*']) (rest : List Char) :
    closeComment? (body ++ '*' :: '/' :: rest) = some (body ++ ['*', '/']) := by
  induction body with
  | nil => rfl
  | cons c body ih =>
    rw [List.cons_append, List.infix_cons_iff, not_or] at h
    rw [List.cons_append, closeComment?, ih h.2]
    · rfl
    · rintro tail rfl htail
      apply h.1
      cases body with
      | nil => cases htail
      | cons d body =>
        obtain rfl : d = '/' := (List.cons.inj htail).1
        exact ⟨body ++ ['*'], rfl⟩

theorem closeComment?_eq_none_iff :
    closeComment? cs = none ↔ ¬ ['*', '/'] <:+: cs := by
  fun_induction closeComment? cs with
  | case1 => simp
  | case2 rest =>
    refine iff_of_false (Option.some_ne_none _) ?_
    exact not_not.mpr ⟨[], rest, rfl⟩
  | case3 c rest hopen ih =>
    rw [Option.map_eq_none_iff, ih, List.infix_cons_iff, not_or]
    refine ⟨fun h => ⟨?_, h⟩, And.right⟩
    rintro ⟨tail, htail⟩
    obtain ⟨rfl, rfl⟩ := List.cons.inj htail
    exact hopen tail rfl rfl

end Scan

end TypedLiterals
