import Mathlib.Data.List.TakeWhile

/-!
Rows of characters of one class: what a scan reads over, where it stops and what it leaves.
-/

namespace TypedLiterals

variable {accept : Char → Bool} {row rest : List Char} {c : Char}

-- A row of accepted characters that is as long as can be is what `takeWhile` takes.
theorem takeWhile_row (hrow : ∀ c ∈ row, accept c = true)
    (hend : rest.head?.any accept = false) : (row ++ rest).takeWhile accept = row := by
  rw [List.takeWhile_append_of_pos hrow]
  cases rest with
  | nil => rw [List.takeWhile_nil, List.append_nil]
  | cons c rest =>
    have hc : ¬accept c = true := by
      rw [Bool.not_eq_true]
      exact hend
    rw [List.takeWhile_cons_of_neg hc, List.append_nil]

theorem dropWhile_row (hrow : ∀ c ∈ row, accept c = true)
    (hend : rest.head?.any accept = false) : (row ++ rest).dropWhile accept = rest := by
  have hsplit := List.takeWhile_append_dropWhile (p := accept) (l := row ++ rest)
  rw [takeWhile_row hrow hend] at hsplit
  exact List.append_cancel_left hsplit

theorem exists_cons_of_head?_any {cs : List Char} (h : cs.head?.any accept = true) :
    ∃ c tail, cs = c :: tail ∧ accept c = true := by
  obtain ⟨c, hhead, hc⟩ := (Option.any_eq_true _ _).mp h
  obtain ⟨tail, rfl⟩ := List.head?_eq_some_iff.mp hhead
  exact ⟨c, tail, rfl, hc⟩

theorem takeWhile_ne_nil {cs : List Char} (h : cs.head?.any accept = true) :
    cs.takeWhile accept ≠ [] := by
  obtain ⟨c, tail, rfl, hc⟩ := exists_cons_of_head?_any h
  rw [List.takeWhile_cons_of_pos hc]
  exact List.cons_ne_nil _ _

theorem head?_dropWhile_any (accept : Char → Bool) (cs : List Char) :
    (cs.dropWhile accept).head?.any accept = false := by
  have hstop := List.head?_dropWhile_not accept cs
  cases hhead : (cs.dropWhile accept).head? with
  | none => rfl
  | some c =>
    rw [hhead] at hstop
    exact hstop

-- The scan of a row goes no farther than a character that is not accepted.
theorem takeWhile_append_cons (hc : accept c = false) (xs ys : List Char) :
    (xs ++ c :: ys).takeWhile accept = xs.takeWhile accept := by
  induction xs with
  | nil => rw [List.nil_append, List.takeWhile_cons_of_neg (Bool.eq_false_iff.mp hc)]; rfl
  | cons x xs ih => by_cases hx : accept x = true <;> simp [hx, ih]

theorem dropWhile_append_cons (hc : accept c = false) (xs ys : List Char) :
    (xs ++ c :: ys).dropWhile accept = xs.dropWhile accept ++ c :: ys := by
  induction xs with
  | nil => rw [List.nil_append, List.dropWhile_cons_of_neg (Bool.eq_false_iff.mp hc)]; rfl
  | cons x xs ih => by_cases hx : accept x = true <;> simp [hx, ih]

theorem drop_takeWhile (accept : Char → Bool) (cs : List Char) :
    cs.drop (cs.takeWhile accept).length = cs.dropWhile accept := by
  have hsplit := cs.takeWhile_append_dropWhile (p := accept)
  calc cs.drop (cs.takeWhile accept).length
    _ = (cs.takeWhile accept ++ cs.dropWhile accept).drop (cs.takeWhile accept).length := by
      rw [hsplit]
    _ = cs.dropWhile accept := List.drop_left

end TypedLiterals
