import Mathlib.Logic.Function.Iterate
import TypedLiterals.Token.Reader

/-!
What a token reader gives between two saved positions. The positions may be in any order and behind
the end: what is between them is always a part of the tokens, neighbouring parts make up one, and
what a run of skips passes is the part from where it began to where it is.
-/

namespace TypedLiterals

namespace TokenReader

/-- What was current before each one of so many skips that moved the reader. -/
def passed (r : TokenReader) : Nat → List (Option Token)
  | 0 => []
  | k + 1 =>
    let before := skip^[k] r
    r.passed k ++ if before.skip.position = before.position then [] else [before.current?]

variable {r s : TokenReader} {a b c p : Snapshot} {k : Nat}

section Parts

/-- The bounds that are cut off are in order and in the list, and cutting them off changes
nothing. -/
theorem slice?_eq (r : TokenReader) (a b : Snapshot) :
    r.slice? a b = some ((r.tokens.take b.position).drop a.position) := by
  have hbounds : min a.position (min b.position r.tokens.length) ≤ min b.position r.tokens.length ∧
      min b.position r.tokens.length ≤ r.tokens.length :=
    ⟨Nat.min_le_right _ _, Nat.min_le_right _ _⟩
  have hlength : (r.tokens.take b.position).length = min b.position r.tokens.length :=
    List.length_take
  rw [slice?, range?, if_pos hbounds, ← List.take_eq_take_min, ← hlength]
  congr 1
  -- From its end on a list is as empty as from anywhere behind it.
  by_cases ha : a.position ≤ (r.tokens.take b.position).length
  · rw [Nat.min_eq_left ha]
  · rw [Nat.min_eq_right (by omega), List.drop_length, List.drop_eq_nil_of_le (by omega)]

theorem map_fst_filter_zipIdx {α : Type} (xs : List α) (n first last : Nat) :
    ((xs.zipIdx n).filter fun entry => first ≤ entry.2 ∧ entry.2 < last).map Prod.fst =
      (xs.take (last - n)).drop (first - n) := by
  induction xs generalizing n with
  | nil => simp
  | cons x xs ih =>
    rw [List.zipIdx_cons, List.filter_cons]
    by_cases hlast : n < last
    · rw [show last - n = last - (n + 1) + 1 by omega, List.take_succ_cons]
      by_cases hfirst : first ≤ n
      · rw [if_pos (by simp [hfirst, hlast]), List.map_cons, ih, Nat.sub_eq_zero_of_le hfirst,
          Nat.sub_eq_zero_of_le (Nat.le_succ_of_le hfirst)]
        rfl
      · rw [if_neg (by simp [hfirst]), ih, show first - n = first - (n + 1) + 1 by omega,
          List.drop_succ_cons]
    · rw [if_neg (by simp [hlast]), ih, show last - n = 0 by omega,
        show last - (n + 1) = 0 by omega]
      simp

theorem slice?_eq_filter (r : TokenReader) (a b : Snapshot) :
    r.slice? a b = some ((r.tokens.zipIdx.filter fun entry =>
      a.position ≤ entry.2 ∧ entry.2 < b.position).map Prod.fst) := by
  rw [r.slice?_eq, map_fst_filter_zipIdx r.tokens 0 a.position b.position]
  rfl

theorem slice?_append {first second : List Token} (hab : a.position ≤ b.position)
    (hbc : b.position ≤ c.position) (hfirst : r.slice? a b = some first)
    (hsecond : r.slice? b c = some second) : r.slice? a c = some (first ++ second) := by
  have hdrop : r.tokens.drop b.position =
      (r.tokens.drop a.position).drop (b.position - a.position) := by
    rw [List.drop_drop, Nat.add_sub_cancel' hab]
  have hwidth : b.position - a.position + (c.position - b.position) = c.position - a.position := by
    omega
  rw [slice?_eq, Option.some_inj, List.drop_take] at hfirst hsecond
  rw [slice?_eq, ← hfirst, ← hsecond, List.drop_take, hdrop, ← List.take_add, hwidth]

theorem slice?_self (r : TokenReader) (a : Snapshot) : r.slice? a a = some [] := by
  rw [slice?_eq, List.drop_eq_nil_of_le (List.length_take_le _ _)]

theorem slice?_succ (r : TokenReader) (n : Nat) :
    r.slice? ⟨n⟩ ⟨n + 1⟩ = some r.tokens[n]?.toList := by
  rw [slice?_eq, List.drop_take, Nat.add_sub_cancel_left, List.take_one, List.head?_drop]

end Parts

section Skips

/-- The reader was moved on over these tokens. -/
structure Passes (r : TokenReader) (seen : List (Option Token)) (s : TokenReader) : Prop where
  tokens : s.tokens = r.tokens
  position : r.position ≤ s.position
  seen : ∃ passed, r.slice? r.snapshot s.snapshot = some passed ∧ seen = passed.map some

theorem Passes.refl (r : TokenReader) : Passes r [] r where
  tokens := rfl
  position := Nat.le_refl _
  seen := ⟨[], r.slice?_self _, rfl⟩

-- One more skip passes the current token, if there is one.
theorem Passes.skip {seen : List (Option Token)} (h : Passes r seen s) :
    Passes r (seen ++ if s.skip.position = s.position then [] else [s.current?]) s.skip := by
  cases hcurrent : s.current? with
  | none =>
    rw [skip_of_isDone (s.isDone_iff.mpr hcurrent), if_pos rfl, List.append_nil]
    exact h
  | some token =>
    have hskip := skip_of_current? hcurrent
    have hmoved : ¬s.skip.position = s.position := by
      rw [hskip]
      exact Nat.succ_ne_self _
    have hnext : r.slice? s.snapshot s.skip.snapshot = some [token] := by
      rw [current?, h.tokens] at hcurrent
      rw [hskip]
      exact (r.slice?_succ s.position).trans (congrArg (some ∘ Option.toList) hcurrent)
    have hposition : s.position ≤ s.skip.position := by
      rw [hskip]
      exact Nat.le_succ _
    obtain ⟨passed, hpassed, hseen⟩ := h.seen
    refine ⟨?_, Nat.le_trans h.position hposition, passed ++ [token], ?_, ?_⟩
    · rw [hskip]
      exact h.tokens
    · exact slice?_append (b := s.snapshot) h.position hposition hpassed hnext
    · rw [if_neg hmoved, hseen, List.map_append]
      rfl

theorem passes_iterate (r : TokenReader) (k : Nat) :
    Passes r (r.passed k) (TokenReader.skip^[k] r) := by
  induction k with
  | zero => exact .refl r
  | succ k ih =>
    rw [Function.iterate_succ_apply']
    exact ih.skip

end Skips

/-- Between any two saved positions there is exactly what has its index between them, and cutting
off at the ends never leaves the bounds out of order. Neighbouring parts make up one. Behind a
restored position, the part up to where a run of skips is has what was current before each skip that
moved. -/
theorem slice_exact (r : TokenReader) :
    (∀ a b : Snapshot, r.slice? a b = some ((r.tokens.zipIdx.filter fun entry =>
      a.position ≤ entry.2 ∧ entry.2 < b.position).map Prod.fst)) ∧
    (∀ a b c : Snapshot, a.position ≤ b.position → b.position ≤ c.position →
      ∃ first second, r.slice? a b = some first ∧ r.slice? b c = some second ∧
        r.slice? a c = some (first ++ second)) ∧
    ∀ (p : Snapshot) (k : Nat), ∃ passed,
      (skip^[k] (r.restore p)).slice? p (skip^[k] (r.restore p)).snapshot = some passed ∧
        (r.restore p).passed k = passed.map some := by
  refine ⟨r.slice?_eq_filter, ?_, ?_⟩
  · intro a b c hab hbc
    exact ⟨_, _, r.slice?_eq a b, r.slice?_eq b c,
      slice?_append hab hbc (r.slice?_eq a b) (r.slice?_eq b c)⟩
  · intro p k
    have hpasses := passes_iterate (r.restore p) k
    obtain ⟨passed, hpassed, hseen⟩ := hpasses.seen
    refine ⟨passed, ?_, hseen⟩
    rw [slice?_eq, hpasses.tokens, ← hpassed, slice?_eq]
    rfl

/-- A name and an integer. -/
def nameAndInteger : TokenReader :=
  { tokens := [⟨.identifier, "x", ⟨1, 1⟩⟩, ⟨.integerLiteral, "7", ⟨1, 3⟩⟩] }

/-- Two parts that meet behind the first token, and the second one goes on behind the end. -/
theorem slice_exact_behind :
    (⟨0⟩ : Snapshot).position ≤ (⟨1⟩ : Snapshot).position ∧
      (⟨1⟩ : Snapshot).position ≤ (⟨9⟩ : Snapshot).position ∧
      ∃ first second, nameAndInteger.slice? ⟨0⟩ ⟨1⟩ = some first ∧
        nameAndInteger.slice? ⟨1⟩ ⟨9⟩ = some second ∧ first ++ second = nameAndInteger.tokens := by
  obtain ⟨first, second, hfirst, hsecond, hboth⟩ :=
    (slice_exact nameAndInteger).2.1 ⟨0⟩ ⟨1⟩ ⟨9⟩ (by decide) (by decide)
  exact ⟨by decide, by decide, first, second, hfirst, hsecond, Option.some.inj hboth.symm⟩

end TokenReader

end TypedLiterals
