import Mathlib.Data.List.Infix
import TypedLiterals.Source.Cursor

/-!
Line ends of two characters. A carriage return in front of every line feed moves no character that
was there to another place, and a piece without line ends stands in the new text just where it
stood in the old one.
-/

namespace TypedLiterals

/-- The text with a carriage return put in front of every line feed. -/
def withReturns (cs : List Char) : List Char :=
  cs.flatMap fun c => if c = '\n' then ['\r', '\n'] else [c]

section Returns

variable {cs row after : List Char}

theorem withReturns_lineFeed (cs : List Char) :
    withReturns ('\n' :: cs) = '\r' :: '\n' :: withReturns cs :=
  rfl

theorem withReturns_cons {c : Char} (h : c ≠ '\n') (cs : List Char) :
    withReturns (c :: cs) = c :: withReturns cs := by
  rw [withReturns, List.flatMap_cons, if_neg h]
  rfl

theorem withReturns_append (cs more : List Char) :
    withReturns (cs ++ more) = withReturns cs ++ withReturns more :=
  List.flatMap_append

theorem withReturns_of_not_mem (h : '\n' ∉ cs) : withReturns cs = cs := by
  induction cs with
  | nil => rfl
  | cons c cs ih =>
    rw [List.mem_cons, not_or] at h
    rw [withReturns_cons (Ne.symm h.1), ih h.2]

/-- A class that holds of both characters of a line end or of neither cannot tell the texts apart by
how they begin. -/
theorem head?_any_withReturns {accept : Char → Bool} (h : accept '\r' = accept '\n')
    (cs : List Char) : (withReturns cs).head?.any accept = cs.head?.any accept := by
  cases cs with
  | nil => rfl
  | cons c cs =>
    by_cases hc : c = '\n'
    · subst hc
      exact h
    · rw [withReturns_cons hc]
      rfl

-- The carriage return takes a column, but the line feed behind it starts a new line anyway.
theorem Place.after_withReturns (p : Place) (cs : List Char) :
    p.after (withReturns cs) = p.after cs := by
  induction cs generalizing p with
  | nil => rfl
  | cons c cs ih =>
    by_cases hc : c = '\n'
    · subst hc
      have hstep : (p.step '\r').step '\n' = p.step '\n' := rfl
      rw [withReturns_lineFeed, after_cons, after_cons, hstep, ih, after_cons]
    · rw [withReturns_cons hc, after_cons, ih, after_cons]

section Pieces

-- A piece that neither of the two characters of a line end is part of.
variable (hreturn : '\r' ∉ row) (hline : '\n' ∉ row)

include hreturn hline

theorem exists_tail_of_withReturns_eq (h : withReturns cs = row ++ after) :
    ∃ tail, cs = row ++ tail ∧ after = withReturns tail := by
  induction row generalizing cs with
  | nil => exact ⟨cs, rfl, h.symm⟩
  | cons d row ih =>
    rw [List.mem_cons, not_or] at hreturn hline
    cases cs with
    | nil => cases h
    | cons c cs =>
      have hc : c ≠ '\n' := by
        rintro rfl
        rw [withReturns_lineFeed] at h
        exact hreturn.1 (List.cons.inj h).1
      rw [withReturns_cons hc] at h
      obtain ⟨rfl, hmore⟩ := List.cons.inj h
      obtain ⟨tail, rfl, hafter⟩ := ih hreturn.2 hline.2 hmore
      exact ⟨tail, rfl, hafter⟩

theorem prefix_withReturns_iff : row <+: withReturns cs ↔ row <+: cs := by
  refine ⟨?_, ?_⟩
  · rintro ⟨after, hafter⟩
    obtain ⟨tail, rfl, -⟩ := exists_tail_of_withReturns_eq hreturn hline hafter.symm
    exact List.prefix_append row tail
  · rintro ⟨tail, rfl⟩
    rw [withReturns_append, withReturns_of_not_mem hline]
    exact List.prefix_append row (withReturns tail)

theorem infix_withReturns_iff (hne : row ≠ []) : row <:+: withReturns cs ↔ row <:+: cs := by
  -- At either character of a line end the piece does not begin.
  have hskip : ∀ {d : Char} {more : List Char}, d ∉ row → (row <:+: d :: more ↔ row <:+: more) := by
    intro d more hd
    rw [List.infix_cons_iff, or_iff_right_iff_imp]
    intro hbegins
    cases row with
    | nil => exact absurd rfl hne
    | cons e row =>
      obtain ⟨rfl, -⟩ := List.cons_prefix_cons.mp hbegins
      exact absurd List.mem_cons_self hd
  induction cs with
  | nil => exact Iff.rfl
  | cons c cs ih =>
    by_cases hc : c = '\n'
    · subst hc
      rw [withReturns_lineFeed, hskip hreturn, hskip hline, hskip hline]
      exact ih
    · rw [withReturns_cons hc, List.infix_cons_iff, List.infix_cons_iff, ← withReturns_cons hc,
        prefix_withReturns_iff hreturn hline]
      exact or_congr_right ih

end Pieces

end Returns

end TypedLiterals
