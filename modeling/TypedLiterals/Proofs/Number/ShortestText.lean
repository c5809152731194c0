import TypedLiterals.Proofs.Number.DecimalText
import TypedLiterals.Proofs.Number.Format

/-!
The shortest text of a number is read as the number. The words for the two infinite numbers are the
exception: `inf` ends in an `f`, which reading takes for the mark of single precision.
-/

namespace TypedLiterals

namespace Decimal

variable {d e : Decimal} {units dropped : Nat}

theorem neighbour?_readsAs (h : neighbour? units d dropped = some e) :
    e.readsAs units = true := by
  unfold neighbour? at h
  dsimp only at h
  split at h
  · rename_i hbelow habove
    cases h
    split
    · exact hbelow
    · exact habove
  · rename_i hbelow _
    cases h
    exact hbelow
  · rename_i _ habove
    cases h
    exact habove
  · cases h

-- All of the decimal places are there, so nothing is rounded.
theorem ofUnits_readsAs (hkeeps : FloatFormat.double.Keeps units)
    (hbelow : units < 2 ^ FloatFormat.double.limit) : (ofUnits units).readsAs units = true := by
  have hscale : units * 5 ^ unitShift * 2 ^ unitShift = units * 10 ^ unitShift := by
    rw [Nat.mul_assoc, ← Nat.mul_pow]
  have hnearest : FloatFormat.double.nearest (units * 10 ^ unitShift) (10 ^ unitShift) = units := by
    have hcancel := FloatFormat.nearest_mul_right (f := .double)
      (Nat.pow_pos (show 0 < 10 by decide) : 0 < 10 ^ unitShift) units 1
    rw [Nat.one_mul] at hcancel
    rw [hcancel, FloatFormat.nearest_of_keeps hkeeps]
  unfold readsAs ofUnits
  rw [toBinary64_places, hscale, Binary64.ofUnits_eq, hnearest, if_pos hbelow]
  simp

theorem shortest_readsAs (hkeeps : FloatFormat.double.Keeps units)
    (hbelow : units < 2 ^ FloatFormat.double.limit) : (shortest units).readsAs units = true := by
  unfold shortest
  dsimp only
  cases hfind : (List.range 18).findSome? fun n =>
      neighbour? units (ofUnits units) ((Nat.toDigits 10 (ofUnits units).coefficient).length - n) with
  | none => exact ofUnits_readsAs hkeeps hbelow
  | some d =>
    obtain ⟨_, _, hneighbour⟩ := List.exists_of_findSome?_eq_some hfind
    exact neighbour?_readsAs hneighbour

end Decimal

namespace Binary64

variable {x : Binary64} {units : Nat}

theorem readFloat?_text_finite (hkeeps : FloatFormat.double.Keeps units)
    (hbelow : units < 2 ^ FloatFormat.double.limit) (negative : Bool) :
    readFloat? (finite negative units).text = some (finite negative units) := by
  unfold text
  dsimp only
  by_cases hzero : units = 0
  · have hread : Decimal.read? ['0'] = some ⟨0, 0⟩ := by decide
    rw [if_pos hzero, readFloat?_of_digits (by simp) hread, hzero]
    rfl
  · have hreads : (Decimal.shortest units).toBinary64 false = finite false units :=
      of_decide_eq_true (Decimal.shortest_readsAs hkeeps hbelow)
    rw [if_neg hzero, readFloat?_of_digits (fun _ => Decimal.mem_text) (Decimal.read?_text _),
      Decimal.toBinary64_writtenOut (Decimal.toBinary64_sign hreads negative)]

/-- What is written is read again, except that the infinite numbers are not. -/
theorem readFloat?_text (h : x.InFormat .double) :
    readFloat? x.text = if x.isInfinite then none else some x := by
  cases h with
  | nan => decide +kernel
  | infinity negative => cases negative <;> decide +kernel
  | @finite negative _ keeps below => exact readFloat?_text_finite keeps below negative

end Binary64

end TypedLiterals
