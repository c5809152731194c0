import TypedLiterals.Proofs.Number.Rounding

/-!
The numbers of a format. Rounding gives such a number, a number of single precision is one of double
precision and stays what it is, and from half a step below its limit on a format has no finite
number.
-/

namespace TypedLiterals

namespace FloatFormat

variable {f : FloatFormat} {n d j : Nat}

theorem nearest_le_two_pow (hf : 0 < f.precision) (hd : 0 < d) (hj : f.finest ≤ j)
    (h : n ≤ 2 ^ j * d) : f.nearest n d ≤ 2 ^ j := by
  have hstep : f.IsStep n d (f.lostBits (n / d)) := lostBits_isStep hf hd
  apply hstep.nearest_le_two_pow hf hd _ h
  rcases hstep.ge with hfinest | hge
  · omega
  · have hle : 2 ^ (f.lostBits (n / d) + f.precision) * d ≤ 2 ^ (j + 1) * d := by
      rw [Nat.pow_succ, Nat.mul_right_comm]
      omega
    have hexp : f.lostBits (n / d) + f.precision ≤ j + 1 :=
      (Nat.pow_le_pow_iff_right (by decide)).mp (Nat.le_of_mul_le_mul_right hle hd)
    omega

theorem two_pow_le_nearest (hf : 0 < f.precision) (hd : 0 < d) (hj : f.finest ≤ j)
    (h : 2 ^ j * d ≤ n) : 2 ^ j ≤ f.nearest n d := by
  have hstep : f.IsStep n d (f.lostBits (n / d)) := lostBits_isStep hf hd
  by_cases hle : f.lostBits (n / d) ≤ j
  · exact hstep.two_pow_le_nearest hf hd hle h
  -- Where one step is longer than that there are only longer ones.
  · have hge := hstep.ge
    generalize f.lostBits (n / d) = lost at *
    have hexp : 2 ^ (lost + 1) * d ≤ 2 ^ (lost + f.precision) * d :=
      Nat.mul_le_mul_right d (Nat.pow_le_pow_right (by decide) (by omega))
    rw [Nat.pow_succ, Nat.mul_right_comm] at hexp
    have hnearest : 2 ^ lost ≤ f.nearest n d :=
      hstep.two_pow_le_nearest hf hd (Nat.le_refl _) (by omega)
    exact Nat.le_trans (Nat.pow_le_pow_right (by decide) (by omega)) hnearest

-- The number that lies half a step below the limit is rounded up to it, since the limit is even.
theorem nearest_lt_limit_iff (hf : 0 < f.precision) (hlimit : f.finest + f.precision ≤ f.limit)
    (hd : 0 < d) : f.nearest n d < 2 ^ f.limit ↔
      2 * n < (2 ^ (f.precision + 1) - 1) * 2 ^ (f.limit - f.precision) * d := by
  have htop : 2 ^ f.limit = 2 ^ f.precision * 2 ^ (f.limit - f.precision) := by
    rw [← Nat.pow_add]
    congr 1
    omega
  have hhalf : 2 ^ f.limit = 2 ^ (f.limit - 1) * 2 := by
    rw [← Nat.pow_succ]
    congr 1
    omega
  have hpos : 0 < 2 ^ (f.limit - 1) := Nat.two_pow_pos _
  have hsmall : 2 ^ (f.limit - f.precision) * d ≤ 2 ^ (f.limit - 1) * d :=
    Nat.mul_le_mul_right d (Nat.pow_le_pow_right (by decide) (by omega))
  have hbound : (2 ^ (f.precision + 1) - 1) * 2 ^ (f.limit - f.precision) * d =
      2 * (2 ^ f.limit * d) - 2 ^ (f.limit - f.precision) * d := by
    rw [htop, Nat.sub_mul, Nat.sub_mul, Nat.one_mul, Nat.pow_succ, Nat.mul_comm _ 2, Nat.mul_assoc,
      Nat.mul_assoc, Nat.mul_assoc]
  have hdouble : 2 ^ f.limit * d = 2 * (2 ^ (f.limit - 1) * d) := by
    rw [hhalf, Nat.mul_comm _ 2, Nat.mul_assoc]
  have hunit : 0 < 2 ^ (f.limit - f.precision) * d := Nat.mul_pos (Nat.two_pow_pos _) hd
  by_cases hhigh : 2 ^ f.limit * d ≤ n
  · have hle : 2 ^ f.limit ≤ f.nearest n d := two_pow_le_nearest hf hd (by omega) hhigh
    omega
  by_cases hlow : n ≤ 2 ^ (f.limit - 1) * d
  · have hle : f.nearest n d ≤ 2 ^ (f.limit - 1) := nearest_le_two_pow hf hd (by omega) hlow
    omega
  -- Between half of the limit and the limit the step is the longest one.
  · have hexp : f.limit - f.precision + f.precision = f.limit := by omega
    have hstep : f.IsStep n d (f.limit - f.precision) :=
      ⟨by omega, by rw [hexp]; omega, .inr (by rw [hexp]; omega)⟩
    have heven : 2 ^ f.precision % 2 = 0 := by
      rw [← Nat.sub_add_cancel hf, Nat.pow_succ]
      exact Nat.mul_mod_left _ 2
    have hround := le_divNearestEven_iff (n := n)
      (Nat.mul_pos hd (Nat.two_pow_pos (f.limit - f.precision))) heven
    have hsteps : 2 ^ f.precision * (d * 2 ^ (f.limit - f.precision)) = 2 ^ f.limit * d := by
      rw [htop, Nat.mul_comm d, Nat.mul_assoc]
    rw [hsteps, Nat.mul_comm d] at hround
    rw [nearest_of_isStep hf hd hstep, htop, Nat.mul_lt_mul_right (Nat.two_pow_pos _),
      Nat.mul_comm d, ← Nat.not_le, hround]
    omega

theorem nearest_mul_right {k : Nat} (hk : 0 < k) (n d : Nat) :
    f.nearest (n * k) (d * k) = f.nearest n d := by
  unfold nearest
  rw [Nat.mul_div_mul_right n d hk, Nat.mul_right_comm, divNearestEven_mul_right hk]

end FloatFormat

namespace Binary64

variable {f : FloatFormat} {x : Binary64} {negative : Bool} {n d units : Nat}

/-- The numbers of a format. The infinite ones are numbers of every format, and so is what is no
number. -/
inductive InFormat (f : FloatFormat) : Binary64 → Prop where
  | nan : InFormat f nan
  | infinity (negative : Bool) : InFormat f (infinity negative)
  | finite {negative : Bool} {units : Nat} (keeps : f.Keeps units) (below : units < 2 ^ f.limit) :
      InFormat f (finite negative units)

theorem ofUnits_inFormat (hf : 0 < f.precision) (hd : 0 < d) :
    (ofUnits f negative n d).InFormat f := by
  rw [ofUnits_eq]
  split
  · rename_i hlimit
    exact .finite (FloatFormat.nearest_keeps hf hd) hlimit
  · exact .infinity negative

theorem toSingle_inFormat (x : Binary64) : x.toSingle.InFormat .single := by
  cases x with
  | nan => exact .nan
  | infinity negative => exact .infinity negative
  | finite negative units =>
    show (ofUnits .single negative units 1).InFormat .single
    exact ofUnits_inFormat (by decide) (by decide)

theorem toSingle_of_inFormat (h : x.InFormat .single) : x.toSingle = x := by
  cases h with
  | nan => rfl
  | infinity negative => rfl
  | @finite negative units keeps below =>
    show ofUnits .single negative units 1 = _
    rw [ofUnits_eq, FloatFormat.nearest_of_keeps keeps, if_pos below]

theorem InFormat.double (h : x.InFormat .single) : x.InFormat .double := by
  cases h with
  | nan => exact .nan
  | infinity negative => exact .infinity negative
  | @finite negative units keeps below =>
    have hlost : FloatFormat.double.lostBits units ≤ FloatFormat.single.lostBits units := by
      simp only [FloatFormat.lostBits, FloatFormat.double, FloatFormat.single]
      omega
    have hlimit : 2 ^ FloatFormat.single.limit < 2 ^ FloatFormat.double.limit :=
      Nat.pow_lt_pow_right (by decide) (by decide)
    exact .finite (Nat.dvd_trans (Nat.pow_dvd_pow 2 hlost) keeps) (Nat.lt_trans below hlimit)

-- The sign is kept, so the values are equal only if the numbers are.
theorem equals_toSingle_iff (h : x ≠ .nan) : x.equals x.toSingle = true ↔ x.toSingle = x := by
  cases x with
  | nan => contradiction
  | infinity negative => simp [equals, toSingle]
  | finite negative units =>
    simp only [toSingle, ofUnits_eq]
    split
    · simp [equals, eq_comm]
    · simp [equals]

def isInfinite : Binary64 → Bool
  | infinity _ => true
  | _ => false

/-- Finite numbers that are infinite in single precision: they begin half a step below `2 ^ 128`. -/
def beyondSingle : Binary64 → Bool
  | finite _ units => (2 ^ 25 - 1) * 2 ^ (unitShift + 103) ≤ units
  | _ => false

theorem isInfinite_toSingle (x : Binary64) :
    x.toSingle.isInfinite = (x.isInfinite || x.beyondSingle) := by
  cases x with
  | nan => rfl
  | infinity negative => rfl
  | finite negative units =>
    have hround := FloatFormat.nearest_lt_limit_iff (f := .single) (n := units) (d := 1)
      (by decide) (by decide) (by decide)
    have hstep : FloatFormat.single.limit - FloatFormat.single.precision = unitShift + 103 + 1 :=
      rfl
    have hprecision : FloatFormat.single.precision + 1 = 25 := rfl
    have hpow : 2 ^ (unitShift + 103 + 1) = 2 ^ (unitShift + 103) * 2 ^ 1 := Nat.pow_add 2 _ 1
    rw [hstep, hprecision, hpow, Nat.mul_one] at hround
    show (ofUnits .single negative units 1).isInfinite = _
    rw [ofUnits_eq]
    split
    · have hunits : ¬(2 ^ 25 - 1) * 2 ^ (unitShift + 103) ≤ units := by omega
      simp [isInfinite, beyondSingle, hunits]
    · have hunits : (2 ^ 25 - 1) * 2 ^ (unitShift + 103) ≤ units := by omega
      simp [isInfinite, beyondSingle, hunits]

theorem toSingle_of_isInfinite (h : x.isInfinite = true) : x.toSingle = x := by
  cases x with
  | nan => rfl
  | infinity negative => rfl
  | finite negative units => cases h

theorem beyondSingle_of_toSingle_eq (h : x.toSingle = x) : x.beyondSingle = false := by
  have hinfinite := isInfinite_toSingle x
  rw [h] at hinfinite
  cases x with
  | nan => rfl
  | infinity negative => rfl
  | finite negative units => simpa [isInfinite] using hinfinite

end Binary64

end TypedLiterals
