import TypedLiterals.Number.Binary

/-!
Rounding to the nearest number of a format. Rounding keeps the magnitudes that the format has, and
what it gives is always one of them.
-/

namespace TypedLiterals

section Division

variable {n d k : Nat}

theorem divNearestEven_eq (n d : Nat) :
    divNearestEven n d =
      if 2 * (n % d) < d ∨ (2 * (n % d) = d ∧ n / d % 2 = 0) then n / d else n / d + 1 :=
  rfl

-- Half a unit above an even number is still rounded down to it.
theorem divNearestEven_le_iff (hd : 0 < d) (hk : k % 2 = 0) :
    divNearestEven n d ≤ k ↔ 2 * n ≤ 2 * (k * d) + d := by
  have hn : n / d * d + n % d = n := Nat.div_add_mod' n d
  have hr : n % d < d := Nat.mod_lt n hd
  rw [divNearestEven_eq]
  generalize n / d = q at *
  generalize n % d = r at *
  rcases Nat.lt_trichotomy q k with h | h | h
  · have hqk : (q + 1) * d ≤ k * d := Nat.mul_le_mul_right d h
    rw [Nat.add_mul] at hqk
    refine ⟨?_, ?_⟩
    · intro _
      omega
    · intro _
      split <;> omega
  · subst h
    split <;> omega
  · have hkq : (k + 1) * d ≤ q * d := Nat.mul_le_mul_right d h
    rw [Nat.add_mul] at hkq
    split <;> omega

-- Half a unit below an even number is already rounded up to it.
theorem le_divNearestEven_iff (hd : 0 < d) (hk : k % 2 = 0) :
    k ≤ divNearestEven n d ↔ 2 * (k * d) ≤ 2 * n + d := by
  have hn : n / d * d + n % d = n := Nat.div_add_mod' n d
  have hr : n % d < d := Nat.mod_lt n hd
  rw [divNearestEven_eq]
  generalize n / d = q at *
  generalize n % d = r at *
  rcases Nat.lt_trichotomy (q + 1) k with h | h | h
  · have hqk : (q + 2) * d ≤ k * d := Nat.mul_le_mul_right d h
    rw [Nat.add_mul] at hqk
    split <;> omega
  · subst h
    rw [Nat.add_mul]
    split <;> omega
  · have hkq : k * d ≤ q * d := Nat.mul_le_mul_right d (by omega)
    split <;> omega

theorem divNearestEven_mul_right (hk : 0 < k) :
    divNearestEven (n * k) (d * k) = divNearestEven n d := by
  have hlt : 2 * (n % d * k) < d * k ↔ 2 * (n % d) < d := by
    rw [← Nat.mul_assoc]
    exact Nat.mul_lt_mul_right hk
  have heq : 2 * (n % d * k) = d * k ↔ 2 * (n % d) = d := by
    rw [← Nat.mul_assoc]
    exact Nat.mul_left_inj (by omega)
  simp only [divNearestEven_eq, Nat.mul_div_mul_right n d hk, Nat.mul_mod_mul_right, hlt, heq]

theorem le_divNearestEven (hd : 0 < d) (h : k * d ≤ n) : k ≤ divNearestEven n d := by
  have hq : k ≤ n / d := (Nat.le_div_iff_mul_le hd).mpr h
  rw [divNearestEven_eq]
  split <;> omega

theorem divNearestEven_le (hd : 0 < d) (h : n ≤ k * d) : divNearestEven n d ≤ k := by
  have hn : n / d * d + n % d = n := Nat.div_add_mod' n d
  have hq : n / d ≤ k := Nat.div_le_of_le_mul (by rwa [Nat.mul_comm])
  rw [divNearestEven_eq]
  obtain hlt | heq : n / d < k ∨ n / d = k := by omega
  · split <;> omega
  -- Nothing remains of a quotient that is the bound itself.
  · rw [heq] at hn
    split <;> omega

@[simp] theorem divNearestEven_mul_self (hd : 0 < d) : divNearestEven (k * d) d = k :=
  Nat.le_antisymm (divNearestEven_le hd (Nat.le_refl _)) (le_divNearestEven hd (Nat.le_refl _))

theorem divNearestEven_mul_cancel (hd : 0 < d) (h : d ∣ n) : divNearestEven n d * d = n := by
  rcases h with ⟨m, rfl⟩
  rw [Nat.mul_comm d m, divNearestEven_mul_self hd]

end Division

namespace FloatFormat

/-- The multiple of units nearest to `n / d` units, were there no limit. -/
def nearest (f : FloatFormat) (n d : Nat) : Nat :=
  divNearestEven n (d * 2 ^ f.lostBits (n / d)) * 2 ^ f.lostBits (n / d)

/-- Whether a magnitude has no more bits than a format keeps. -/
def Keeps (f : FloatFormat) (units : Nat) : Prop :=
  2 ^ f.lostBits units ∣ units

variable {f : FloatFormat} {n d k units : Nat}

theorem round?_eq_nearest (f : FloatFormat) (n d : Nat) :
    f.round? n d = if f.nearest n d < 2 ^ f.limit then some (f.nearest n d) else none :=
  rfl

-- A magnitude of the format stands for itself.
theorem nearest_of_keeps (h : f.Keeps units) : f.nearest units 1 = units := by
  rw [nearest, Nat.div_one, Nat.one_mul]
  exact divNearestEven_mul_cancel (Nat.two_pow_pos _) h

/-- Whether `2 ^ lost` is the step from one magnitude of the format to the next at `n / d`: what is
there has as many steps as fit into the precision, and fewer only where the steps are finest. -/
structure IsStep (f : FloatFormat) (n d lost : Nat) : Prop where
  finest_le : f.finest ≤ lost
  lt : n < 2 ^ (lost + f.precision) * d
  ge : lost = f.finest ∨ 2 ^ (lost + f.precision) * d ≤ 2 * n

theorem lostBits_isStep (hf : 0 < f.precision) (hd : 0 < d) :
    f.IsStep n d (f.lostBits (n / d)) := by
  refine ⟨?_, ?_, ?_⟩
  · exact Nat.le_max_left _ _
  · rw [← Nat.div_lt_iff_lt_mul hd]
    apply Nat.lt_of_lt_of_le Nat.lt_log2_self
    apply Nat.pow_le_pow_right (by decide)
    rw [lostBits]
    omega
  · by_cases hfinest : f.lostBits (n / d) = f.finest
    · exact .inl hfinest
    · right
      have hlost : f.lostBits (n / d) + f.precision = (n / d).log2 + 1 := by
        rw [lostBits] at hfinest ⊢
        omega
      have hne : n / d ≠ 0 := by
        intro hzero
        rw [hzero] at hlost
        rw [hzero] at hfinest
        have hlog : Nat.log2 0 = 0 := by decide
        have hle : f.finest ≤ f.lostBits 0 := Nat.le_max_left _ _
        omega
      have hlow : 2 ^ (n / d).log2 * d ≤ n :=
        (Nat.le_div_iff_mul_le hd).mp (Nat.log2_self_le hne)
      rw [hlost, Nat.pow_succ, Nat.mul_right_comm]
      omega

theorem IsStep.le_of_isStep {k₁ k₂ : Nat} (h₁ : f.IsStep n d k₁) (h₂ : f.IsStep n d k₂) :
    k₂ ≤ k₁ := by
  rcases h₂.ge with h | h
  · rw [h]
    exact h₁.finest_le
  · have hlt : 2 ^ (k₂ + f.precision) * d < 2 ^ (k₁ + f.precision + 1) * d := by
      have h := h₁.lt
      rw [Nat.pow_succ, Nat.mul_right_comm]
      omega
    have hexp : k₂ + f.precision < k₁ + f.precision + 1 :=
      (Nat.pow_lt_pow_iff_right (by decide)).mp (Nat.lt_of_mul_lt_mul_right hlt)
    omega

-- The step is the only one.
theorem IsStep.lostBits_eq (hf : 0 < f.precision) (hd : 0 < d) (h : f.IsStep n d k) :
    f.lostBits (n / d) = k :=
  Nat.le_antisymm (h.le_of_isStep (lostBits_isStep hf hd)) ((lostBits_isStep hf hd).le_of_isStep h)

theorem nearest_of_isStep (hf : 0 < f.precision) (hd : 0 < d) (h : f.IsStep n d k) :
    f.nearest n d = divNearestEven n (d * 2 ^ k) * 2 ^ k := by
  rw [nearest, h.lostBits_eq hf hd]

-- Rounding does not cross a power of two that is not below the step.
theorem IsStep.nearest_le_two_pow {j : Nat} (hf : 0 < f.precision) (hd : 0 < d)
    (h : f.IsStep n d k) (hkj : k ≤ j) (hle : n ≤ 2 ^ j * d) : f.nearest n d ≤ 2 ^ j := by
  have hsplit : 2 ^ j = 2 ^ (j - k) * 2 ^ k := by rw [← Nat.pow_add, Nat.sub_add_cancel hkj]
  rw [nearest_of_isStep hf hd h, hsplit]
  apply Nat.mul_le_mul_right
  apply divNearestEven_le (Nat.mul_pos hd (Nat.two_pow_pos k))
  rwa [Nat.mul_left_comm, ← hsplit, Nat.mul_comm d]

theorem IsStep.two_pow_le_nearest {j : Nat} (hf : 0 < f.precision) (hd : 0 < d)
    (h : f.IsStep n d k) (hkj : k ≤ j) (hle : 2 ^ j * d ≤ n) : 2 ^ j ≤ f.nearest n d := by
  have hsplit : 2 ^ j = 2 ^ (j - k) * 2 ^ k := by rw [← Nat.pow_add, Nat.sub_add_cancel hkj]
  rw [nearest_of_isStep hf hd h, hsplit]
  apply Nat.mul_le_mul_right
  apply le_divNearestEven (Nat.mul_pos hd (Nat.two_pow_pos k))
  rwa [Nat.mul_left_comm, ← hsplit, Nat.mul_comm d]

theorem lostBits_le (hf : 0 < f.precision) (hfinest : f.finest ≤ k)
    (h : n < 2 ^ (k + f.precision)) : f.lostBits n ≤ k := by
  have hlog : n.log2 < k + f.precision := by
    by_cases hn : n = 0
    · rw [hn]
      show 0 < k + f.precision
      omega
    · exact (Nat.log2_lt hn).mpr h
  rw [lostBits]
  omega

-- A quotient does not have more bits than the precision, except when it is rounded up to one that
-- has the last bit alone.
theorem IsStep.quotient_le (hd : 0 < d) (h : f.IsStep n d k) :
    divNearestEven n (d * 2 ^ k) ≤ 2 ^ f.precision := by
  apply divNearestEven_le (Nat.mul_pos hd (Nat.two_pow_pos k))
  calc n ≤ 2 ^ (k + f.precision) * d := Nat.le_of_lt h.lt
    _ = 2 ^ f.precision * (d * 2 ^ k) := by
        rw [Nat.add_comm, Nat.pow_add, Nat.mul_assoc, Nat.mul_comm _ d]

-- What rounding gives is a magnitude of the format.
theorem nearest_keeps (hf : 0 < f.precision) (hd : 0 < d) : f.Keeps (f.nearest n d) := by
  have hstep : f.IsStep n d (f.lostBits (n / d)) := lostBits_isStep hf hd
  have hle : divNearestEven n (d * 2 ^ f.lostBits (n / d)) ≤ 2 ^ f.precision :=
    hstep.quotient_le hd
  have hfinest := hstep.finest_le
  rw [nearest]
  generalize divNearestEven n (d * 2 ^ f.lostBits (n / d)) = q at *
  generalize f.lostBits (n / d) = lost at *
  rw [Keeps]
  obtain hlt | rfl : q < 2 ^ f.precision ∨ q = 2 ^ f.precision := by omega
  · have hunits : q * 2 ^ lost < 2 ^ (lost + f.precision) := by
      rw [Nat.add_comm, Nat.pow_add]
      exact Nat.mul_lt_mul_of_pos_right hlt (Nat.two_pow_pos _)
    have hlost : f.lostBits (q * 2 ^ lost) ≤ lost := lostBits_le hf hfinest hunits
    exact Nat.dvd_trans (Nat.pow_dvd_pow 2 hlost) (Nat.dvd_mul_left _ _)
  -- The step is twice as long from this power of two on.
  · have hunits : 2 ^ f.precision * 2 ^ lost < 2 ^ (lost + 1 + f.precision) := by
      rw [← Nat.pow_add]
      exact Nat.pow_lt_pow_right (by decide) (by omega)
    have hlost : f.lostBits (2 ^ f.precision * 2 ^ lost) ≤ lost + 1 :=
      lostBits_le hf (by omega) hunits
    apply Nat.dvd_trans (Nat.pow_dvd_pow 2 hlost)
    rw [← Nat.pow_add]
    exact Nat.pow_dvd_pow 2 (by omega)

-- A power of two that divides a magnitude divides what the magnitude is rounded to.
theorem dvd_nearest (h : 2 ^ k ∣ n) : 2 ^ k ∣ f.nearest n 1 := by
  rw [nearest, Nat.div_one, Nat.one_mul]
  obtain hle | hle : k ≤ f.lostBits n ∨ f.lostBits n ≤ k := Nat.le_total _ _
  · exact Nat.dvd_trans (Nat.pow_dvd_pow 2 hle) (Nat.dvd_mul_left _ _)
  -- The magnitude is kept.
  · have hlost : 2 ^ f.lostBits n ∣ n := Nat.dvd_trans (Nat.pow_dvd_pow 2 hle) h
    rw [divNearestEven_mul_cancel (Nat.two_pow_pos _) hlost]
    exact h

theorem double_isStep_iff : double.IsStep n d k ↔
    n < 2 ^ (k + 53) * d ∧ (k = 0 ∨ 2 ^ (k + 53) * d ≤ 2 * n) :=
  ⟨fun h => ⟨h.lt, h.ge⟩, fun h => ⟨Nat.zero_le k, h.1, h.2⟩⟩

-- Up to one half of a unit there is nothing.
theorem double_nearest_eq_zero (hd : 0 < d) (h : 2 * n ≤ d) : double.nearest n d = 0 := by
  have hstep : double.IsStep n d 0 := by
    rw [double_isStep_iff]
    omega
  have hle : divNearestEven n (d * 2 ^ 0) ≤ 0 := by
    rw [divNearestEven_le_iff (by omega) (by decide)]
    omega
  rw [nearest_of_isStep (by decide) hd hstep, Nat.le_zero.mp hle, Nat.zero_mul]

end FloatFormat

namespace Binary64

theorem ofUnits_eq (f : FloatFormat) (negative : Bool) (n d : Nat) :
    ofUnits f negative n d =
      if f.nearest n d < 2 ^ f.limit then finite negative (f.nearest n d)
      else infinity negative := by
  rw [ofUnits, FloatFormat.round?_eq_nearest]
  by_cases h : f.nearest n d < 2 ^ f.limit
  · rw [if_pos h, if_pos h]
  · rw [if_neg h, if_neg h]

end Binary64

end TypedLiterals
