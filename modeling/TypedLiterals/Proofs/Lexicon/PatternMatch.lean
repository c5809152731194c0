import TypedLiterals.Lexicon.Pattern

/-!
What a pattern can match, apart from the order in which the ways to match it are tried. Whatever the
search finds is one of these ways, and it finds one if there is any.
-/

namespace TypedLiterals

namespace Pattern

/-- One way in which a pattern reads on from `s` to `t`. -/
inductive Matches : Pattern → Progress → Progress → Prop where
  | empty {s : Progress} : Matches .empty s s
  | oneOf {ranges : List (Char × Char)} {c : Char} {read rest : List Char}
      (accepted : inRanges ranges c = true) :
      Matches (.oneOf ranges) ⟨read, c :: rest⟩ ⟨c :: read, rest⟩
  | wordEdge {s : Progress} (edge : s.atWordEdge = true) : Matches .wordEdge s s
  | seq {p q : Pattern} {s t u : Progress} (first : Matches p s t) (second : Matches q t u) :
      Matches (.seq p q) s u
  | altLeft {p q : Pattern} {s t : Progress} (left : Matches p s t) : Matches (.alt p q) s t
  | altRight {p q : Pattern} {s t : Progress} (right : Matches q s t) : Matches (.alt p q) s t
  | stop {p : Pattern} {s : Progress} : Matches (.many p) s s
  | again {p : Pattern} {s t u : Progress} (once : Matches p s t) (more : Matches (.many p) t u) :
      Matches (.many p) s u

variable {α : Type} {p : Pattern} {next : Progress → Option α} {s t : Progress} {result : α}

-- As many rounds as there are of a pattern that only finds ways to match it.
theorem matches_of_repeating {rounds : Nat}
    (hbody : ∀ {next : Progress → Option α} {s}, p.run next s = some result →
      ∃ t, Matches p s t ∧ next t = some result)
    (h : repeating p.run next rounds s = some result) :
    ∃ t, Matches (.many p) s t ∧ next t = some result := by
  induction rounds generalizing s with
  | zero => exact ⟨s, .stop, h⟩
  | succ rounds ih =>
    rw [repeating, Option.orElse_eq_orElse, Option.orElse_eq_or, Option.or_eq_some_iff] at h
    rcases h with h | ⟨-, h⟩
    · rcases hbody h with ⟨t, honce, hrest⟩
      split at hrest
      · rcases ih hrest with ⟨u, hmore, hnext⟩
        exact ⟨u, .again honce hmore, hnext⟩
      · cases hrest
    · exact ⟨s, .stop, h⟩

-- The search finds a way to match the pattern after which the rest succeeds.
theorem matches_of_run (h : p.run next s = some result) :
    ∃ t, Matches p s t ∧ next t = some result := by
  induction p generalizing next s with
  | empty => exact ⟨s, .empty, h⟩
  | oneOf ranges =>
    rcases s with ⟨read, rest⟩
    cases rest with
    | nil => cases h
    | cons c rest =>
      by_cases hc : inRanges ranges c = true
      · rw [run, Progress.readOne?] at h
        simp only [if_pos hc, Option.bind_some] at h
        exact ⟨_, .oneOf hc, h⟩
      · rw [run, Progress.readOne?] at h
        simp only [if_neg hc, Option.bind_none] at h
        cases h
  | wordEdge =>
    rw [run] at h
    split at h
    · rename_i hedge
      exact ⟨s, .wordEdge hedge, h⟩
    · cases h
  | seq p q ihp ihq =>
    rcases ihp h with ⟨t, hp, hq⟩
    rcases ihq hq with ⟨u, hq, hnext⟩
    exact ⟨u, .seq hp hq, hnext⟩
  | alt p q ihp ihq =>
    rw [run, Option.orElse_eq_orElse, Option.orElse_eq_or, Option.or_eq_some_iff] at h
    rcases h with h | ⟨-, h⟩
    · rcases ihp h with ⟨t, hp, hnext⟩
      exact ⟨t, .altLeft hp, hnext⟩
    · rcases ihq h with ⟨t, hq, hnext⟩
      exact ⟨t, .altRight hq, hnext⟩
  | many p ih => exact matches_of_repeating ih h

-- A match reads some row of characters off the rest.
theorem Matches.exists_row (h : Matches p s t) :
    ∃ row, t.read = row.reverse ++ s.read ∧ s.rest = row ++ t.rest := by
  induction h with
  | empty => exact ⟨[], rfl, rfl⟩
  | @oneOf _ c => exact ⟨[c], rfl, rfl⟩
  | wordEdge => exact ⟨[], rfl, rfl⟩
  | seq _ _ ih₁ ih₂ | again _ _ ih₁ ih₂ =>
    obtain ⟨row₁, hread₁, hrest₁⟩ := ih₁
    obtain ⟨row₂, hread₂, hrest₂⟩ := ih₂
    refine ⟨row₁ ++ row₂, ?_, ?_⟩
    · rw [hread₂, hread₁, List.reverse_append, List.append_assoc]
    · rw [hrest₁, hrest₂, List.append_assoc]
  | altLeft _ ih => exact ih
  | altRight _ ih => exact ih
  | stop => exact ⟨[], rfl, rfl⟩

-- What is read and what is left make up the same text all along.
theorem Matches.text_eq (h : Matches p s t) :
    t.read.reverse ++ t.rest = s.read.reverse ++ s.rest := by
  obtain ⟨row, hread, hrest⟩ := h.exists_row
  rw [hread, hrest, List.reverse_append, List.reverse_reverse, List.append_assoc]

theorem isSome_repeating_of_next {body : (Progress → Option α) → Progress → Option α}
    (hnext : (next s).isSome) (rounds : Nat) : (repeating body next rounds s).isSome := by
  cases rounds with
  | zero => exact hnext
  | succ rounds =>
    rw [repeating, Option.orElse_eq_orElse, Option.orElse_eq_or, Option.isSome_or, hnext,
      Bool.or_true]

-- A way to match a repetition is found in as many rounds as there are characters. Rounds of the way
-- that read nothing are left out, since the search does not try them.
theorem isSome_repeating_of_matches {rounds : Nat}
    (hbody : ∀ {next : Progress → Option α} {s t}, Matches p s t → (next t).isSome →
      (p.run next s).isSome)
    (h : Matches (.many p) s t) (hnext : (next t).isSome) (hrounds : s.rest.length ≤ rounds) :
    (repeating p.run next rounds s).isSome := by
  generalize hq : Pattern.many p = q at h
  induction h generalizing rounds with
  | stop => exact isSome_repeating_of_next hnext rounds
  | @again _ s t u once _ _ ih =>
    cases hq
    obtain ⟨row, hread, hrest⟩ := once.exists_row
    have hlength : s.rest.length = row.length + t.rest.length := by
      rw [hrest, List.length_append]
    by_cases hempty : row = []
    · rw [hempty, List.reverse_nil, List.nil_append] at hread
      rw [hempty, List.nil_append] at hrest
      obtain rfl : t = s := by
        cases s
        cases t
        cases hread
        cases hrest
        rfl
      exact ih hnext hrounds rfl
    · have hpos : 0 < row.length := List.length_pos_iff.mpr hempty
      obtain ⟨fewer, rfl⟩ : ∃ fewer, rounds = fewer + 1 := ⟨rounds - 1, by omega⟩
      rw [repeating, Option.orElse_eq_orElse, Option.orElse_eq_or, Option.isSome_or,
        Bool.or_eq_true]
      left
      apply hbody once
      rw [if_pos (by omega)]
      exact ih hnext (by omega) rfl
  | _ => cases hq

-- If there is a way to match the pattern after which the rest succeeds, the search finds one.
theorem isSome_run_of_matches (h : Matches p s t) (hnext : (next t).isSome) :
    (p.run next s).isSome := by
  induction p generalizing next s t with
  | empty =>
    cases h
    exact hnext
  | oneOf ranges =>
    cases h with
    | oneOf accepted =>
      rw [run, Progress.readOne?]
      simp only [if_pos accepted, Option.bind_some]
      exact hnext
  | wordEdge =>
    cases h with
    | wordEdge edge =>
      rw [run, if_pos edge]
      exact hnext
  | seq p q ihp ihq =>
    cases h with
    | seq first second => exact ihp first (ihq second hnext)
  | alt p q ihp ihq =>
    rw [run, Option.orElse_eq_orElse, Option.orElse_eq_or, Option.isSome_or, Bool.or_eq_true]
    cases h with
    | altLeft left => exact .inl (ihp left hnext)
    | altRight right => exact .inr (ihq right hnext)
  | many p ih => exact isSome_repeating_of_matches ih h hnext (Nat.le_refl _)

/-- The pattern can match all of `text` where `rest` stands behind it. -/
def MatchesText (p : Pattern) (text rest : List Char) : Prop :=
  Matches p ⟨[], text ++ rest⟩ ⟨text.reverse, rest⟩

section Lexeme

variable {cs text rest : List Char}

theorem Matches.matchesText (h : Matches p ⟨[], cs⟩ t) :
    cs = t.read.reverse ++ t.rest ∧ p.MatchesText t.read.reverse t.rest := by
  have htext : t.read.reverse ++ t.rest = cs := h.text_eq
  refine ⟨htext.symm, ?_⟩
  rw [MatchesText, htext, List.reverse_reverse]
  exact h

theorem matchesText_of_lexeme? (h : (p : Matcher).lexeme? cs = some text) :
    ∃ rest, cs = text ++ rest ∧ p.MatchesText text rest := by
  rcases Option.filter_eq_some_iff.mp h with ⟨hmap, -⟩
  rcases Option.map_eq_some_iff.mp hmap with ⟨n, hlength, rfl⟩
  rcases Option.map_eq_some_iff.mp hlength with ⟨t, hrun, rfl⟩
  rcases matches_of_run hrun with ⟨u, hmatch, hu⟩
  cases hu
  obtain ⟨rfl, htext⟩ := hmatch.matchesText
  refine ⟨t.rest, ?_⟩
  rw [← List.length_reverse, List.take_left]
  exact ⟨rfl, htext⟩

theorem isSome_lexeme?_of_matchesText (h : p.MatchesText text rest)
    (hne : ∀ {text rest}, p.MatchesText text rest → text ≠ []) :
    ((p : Matcher).lexeme? (text ++ rest)).isSome = true := by
  have hsome : (p.run some ⟨[], text ++ rest⟩).isSome := isSome_run_of_matches h rfl
  rcases Option.isSome_iff_exists.mp hsome with ⟨t, hrun⟩
  rcases matches_of_run hrun with ⟨u, hmatch, hu⟩
  cases hu
  obtain ⟨htext, hmatched⟩ := hmatch.matchesText
  have hlength : p.matchLength? (text ++ rest) = some t.read.length := by
    rw [matchLength?, hrun, Option.map_some]
  show (((p.matchLength? (text ++ rest)).map (text ++ rest).take).filter (· ≠ [])).isSome = true
  rw [hlength, htext, Option.map_some, ← List.length_reverse, List.take_left, Option.filter_some,
    if_pos (decide_eq_true (hne hmatched)), Option.isSome_some]

-- Where there are no two ways to match a pattern, the order in which they are tried is of no
-- account.
theorem lexeme?_iff_of_unique (hne : ∀ {text rest}, p.MatchesText text rest → text ≠ [])
    (hunique : ∀ {text rest other rest'}, p.MatchesText text rest → p.MatchesText other rest' →
      text ++ rest = other ++ rest' → text = other) :
    (p : Matcher).lexeme? cs = some text ↔ ∃ rest, cs = text ++ rest ∧ p.MatchesText text rest := by
  refine ⟨matchesText_of_lexeme?, ?_⟩
  rintro ⟨rest, rfl, hmatch⟩
  rcases Option.isSome_iff_exists.mp (isSome_lexeme?_of_matchesText hmatch hne) with ⟨other, hother⟩
  obtain ⟨rest', heq, hmatch'⟩ := matchesText_of_lexeme? hother
  rw [hother, hunique hmatch hmatch' heq]

end Lexeme

theorem Matches.of_oneOf {ranges : List (Char × Char)} (h : Matches (.oneOf ranges) s t) :
    ∃ c, inRanges ranges c = true ∧ t.read = c :: s.read := by
  cases h with
  | oneOf accepted => exact ⟨_, accepted, rfl⟩

-- A row of characters that each are in the ranges.
theorem Matches.of_many_oneOf {ranges : List (Char × Char)}
    (h : Matches (.many (.oneOf ranges)) s t) :
    ∃ row : List Char, (∀ c ∈ row, inRanges ranges c = true) ∧ t.read = row.reverse ++ s.read := by
  generalize hq : Pattern.many (.oneOf ranges) = q at h
  induction h with
  | stop => exact ⟨[], by simp, rfl⟩
  | again once _ _ ih =>
    cases hq
    rcases once.of_oneOf with ⟨c, hc, hfirst⟩
    rcases ih rfl with ⟨row, hrow, hread⟩
    refine ⟨c :: row, List.forall_mem_cons.mpr ⟨hc, hrow⟩, ?_⟩
    rw [hread, hfirst, List.reverse_cons, List.append_assoc]
    rfl
  | _ => cases hq

end Pattern

end TypedLiterals
