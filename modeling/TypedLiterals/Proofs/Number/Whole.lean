import TypedLiterals.Proofs.Number.Rounding

/-!
When the number of double precision nearest to a given number is whole, and when the test by way of
a 64 bit integer finds that it is. The given number is `whole + part / scale`, where the fraction is
less than one.
-/

namespace TypedLiterals

/-- Whether the number nearest to `whole + part / scale` is whole: the distance to one of the whole
numbers around it is at most half of the distance between the numbers of the format there. -/
def NearWhole (whole part scale : Nat) : Prop :=
  if whole = 0 then part * 2 ^ (unitShift + 1) ≤ scale ∨ (scale - part) * 2 ^ 54 ≤ scale
  else
    part * 2 ^ 53 ≤ scale * 2 ^ whole.log2 ∨ (scale - part) * 2 ^ 53 ≤ scale * 2 ^ whole.log2
deriving Decidable

variable {whole part scale c n d k s units : Nat}

section Grid

private theorem mul_two_pow_succ (n s : Nat) : n * 2 ^ (s + 1) = 2 * (n * 2 ^ s) := by
  rw [Nat.pow_succ, ← Nat.mul_assoc, Nat.mul_comm]

private theorem mul_four_le (n : Nat) {s : Nat} (hs : 1 ≤ s) : n * 4 ≤ n * 2 ^ (s + 1) := by
  have hpow : 2 ^ 2 ≤ 2 ^ (s + 1) := Nat.pow_le_pow_right (by decide) (by omega)
  exact Nat.mul_le_mul_left n hpow

private theorem even_mul_two_pow (n : Nat) (hs : 0 < s) : n * 2 ^ s % 2 = 0 := by
  obtain ⟨t, rfl⟩ : ∃ t, s = t + 1 := ⟨s - 1, by omega⟩
  rw [mul_two_pow_succ]
  exact Nat.mul_mod_right 2 _

-- On a grid that has the whole numbers and the numbers halfway between them, the nearest number is
-- whole if the fraction is at most half a step from one.
theorem dvd_divNearestEven_iff (hs : 0 < s) (hpart : part < scale) :
    2 ^ s ∣ divNearestEven ((whole * scale + part) * 2 ^ s) scale ↔
      part * 2 ^ (s + 1) ≤ scale ∨ (scale - part) * 2 ^ (s + 1) ≤ scale := by
  have hscale : 0 < scale := by omega
  have hsplit : (whole * scale + part) * 2 ^ s = whole * 2 ^ s * scale + part * 2 ^ s := by
    rw [Nat.add_mul, Nat.mul_right_comm]
  have hnext : (whole + 1) * 2 ^ s * scale = whole * 2 ^ s * scale + scale * 2 ^ s := by
    rw [Nat.add_mul whole, Nat.one_mul, Nat.add_mul, Nat.mul_comm (2 ^ s) scale]
  have hle : part * 2 ^ s ≤ scale * 2 ^ s := Nat.mul_le_mul_right _ (Nat.le_of_lt hpart)
  rw [hsplit, mul_two_pow_succ, mul_two_pow_succ, Nat.sub_mul]
  -- Both of the whole numbers around are even on the grid.
  have hbelow := divNearestEven_le_iff (n := whole * 2 ^ s * scale + part * 2 ^ s) hscale
    (even_mul_two_pow whole hs)
  have habove := le_divNearestEven_iff (n := whole * 2 ^ s * scale + part * 2 ^ s) hscale
    (even_mul_two_pow (whole + 1) hs)
  have hlow : whole * 2 ^ s ≤ divNearestEven (whole * 2 ^ s * scale + part * 2 ^ s) scale :=
    le_divNearestEven hscale (Nat.le_add_right _ _)
  have hhigh : divNearestEven (whole * 2 ^ s * scale + part * 2 ^ s) scale ≤
      (whole + 1) * 2 ^ s := by
    apply divNearestEven_le hscale
    omega
  generalize divNearestEven (whole * 2 ^ s * scale + part * 2 ^ s) scale = q at *
  have hiff : 2 ^ s ∣ q ↔ q ≤ whole * 2 ^ s ∨ (whole + 1) * 2 ^ s ≤ q := by
    refine ⟨?_, ?_⟩
    · rintro ⟨t, rfl⟩
      by_cases ht : t ≤ whole
      · left
        rw [Nat.mul_comm]
        exact Nat.mul_le_mul_right _ ht
      · right
        rw [Nat.mul_comm (2 ^ s) t]
        exact Nat.mul_le_mul_right _ (by omega)
    · rintro (h | h)
      · rw [Nat.le_antisymm h hlow]
        exact Nat.dvd_mul_left _ _
      · rw [Nat.le_antisymm hhigh h]
        exact Nat.dvd_mul_left _ _
  rw [hiff, hbelow, habove]
  omega

end Grid

namespace FloatFormat

-- The grid of a step that is shorter than one has `s` bits below the point.
theorem dvd_nearest_iff_of_isStep (hs : 0 < s) (hpart : part < scale) (hsum : k + s = unitShift)
    (hstep : double.IsStep ((whole * scale + part) * 2 ^ unitShift) scale k) :
    2 ^ unitShift ∣ double.nearest ((whole * scale + part) * 2 ^ unitShift) scale ↔
      part * 2 ^ (s + 1) ≤ scale ∨ (scale - part) * 2 ^ (s + 1) ≤ scale := by
  have hpos : 0 < 2 ^ k := Nat.two_pow_pos k
  rw [nearest_of_isStep (by decide) (by omega) hstep, ← hsum, Nat.pow_add, Nat.mul_comm (2 ^ k),
    ← Nat.mul_assoc, divNearestEven_mul_right hpos, Nat.mul_dvd_mul_iff_right hpos]
  exact dvd_divNearestEven_iff hs hpart

-- The whole part of a number that is not less than one has the step of the number.
theorem isStep_of_whole (hwhole : whole ≠ 0) (hpart : part < scale) :
    double.IsStep ((whole * scale + part) * 2 ^ unitShift) scale
      (whole.log2 + unitShift - 52) := by
  have hshift : 52 ≤ unitShift := by decide
  have hexp : whole.log2 + unitShift - 52 + 53 = whole.log2 + 1 + unitShift := by omega
  have hlow : 2 ^ whole.log2 * scale ≤ whole * scale + part :=
    Nat.le_trans (Nat.mul_le_mul_right _ (Nat.log2_self_le hwhole)) (Nat.le_add_right _ _)
  have hhigh : whole * scale + part < 2 ^ (whole.log2 + 1) * scale := by
    have hle : (whole + 1) * scale ≤ 2 ^ (whole.log2 + 1) * scale :=
      Nat.mul_le_mul_right _ Nat.lt_log2_self
    rw [Nat.add_mul] at hle
    omega
  rw [double_isStep_iff, hexp, Nat.pow_add, Nat.mul_right_comm]
  refine ⟨?_, ?_⟩
  · exact Nat.mul_lt_mul_of_pos_right hhigh (Nat.two_pow_pos _)
  · right
    rw [Nat.pow_succ, Nat.mul_right_comm _ 2, Nat.mul_right_comm _ 2, Nat.mul_comm _ 2]
    exact Nat.mul_le_mul_left 2 (Nat.mul_le_mul_right _ hlow)

-- The step of a fraction of at least one half has 53 bits below the point.
theorem isStep_of_half (hhalf : scale ≤ 2 * part) (hpart : part < scale) :
    double.IsStep (part * 2 ^ unitShift) scale (unitShift - 53) := by
  rw [double_isStep_iff, Nat.sub_add_cancel (show 53 ≤ unitShift by decide), Nat.mul_comm _ scale]
  refine ⟨?_, ?_⟩
  · exact Nat.mul_lt_mul_of_pos_right hpart (Nat.two_pow_pos _)
  · right
    rw [← Nat.mul_assoc]
    exact Nat.mul_le_mul_right _ hhalf

-- A fraction with a step above the units is not next to zero.
theorem fraction_far (hstep : 2 ^ (k + 53) * scale ≤ 2 * (part * 2 ^ unitShift))
    (hsum : k + s = unitShift) : scale ≤ part * 2 ^ s := by
  have hpow : 2 ^ k * scale ≤ 2 ^ (k + 52) * scale :=
    Nat.mul_le_mul_right _ (Nat.pow_le_pow_right (by decide) (Nat.le_add_right _ _))
  have hmul : 2 ^ k * scale ≤ 2 ^ k * (part * 2 ^ s) := by
    rw [Nat.mul_left_comm, ← Nat.pow_add, hsum]
    rw [Nat.pow_succ, Nat.mul_right_comm] at hstep
    omega
  exact Nat.le_of_mul_le_mul_left hmul (Nat.two_pow_pos k)

theorem dvd_nearest_fraction_of_isStep (hs : 0 < s) (hpart : part < scale)
    (hsum : k + s = unitShift) (hstep : double.IsStep (part * 2 ^ unitShift) scale k) :
    2 ^ unitShift ∣ double.nearest (part * 2 ^ unitShift) scale ↔
      part * 2 ^ (s + 1) ≤ scale ∨ (scale - part) * 2 ^ (s + 1) ≤ scale := by
  have h := @dvd_nearest_iff_of_isStep 0 part scale k s hs hpart hsum
  rw [Nat.zero_mul, Nat.zero_add] at h
  exact h hstep

-- A fraction of at least one half is never rounded down to zero, however many bits there are.
theorem dvd_nearest_of_half (hhalf : scale ≤ 2 * part) (hpart : part < scale) :
    2 ^ unitShift ∣ double.nearest (part * 2 ^ unitShift) scale ↔
      (scale - part) * 2 ^ 54 ≤ scale := by
  rw [dvd_nearest_fraction_of_isStep (show 0 < 53 by decide) hpart (by decide)
    (isStep_of_half hhalf hpart)]
  omega

-- A fraction of less than one half has 53 bits from its first bit on, or fewer where the units of
-- the format end.
theorem dvd_nearest_of_lt_half (hhalf : 2 * part < scale) :
    2 ^ unitShift ∣ double.nearest (part * 2 ^ unitShift) scale ↔
      part * 2 ^ (unitShift + 1) ≤ scale := by
  have hscale : 0 < scale := by omega
  have hpart : part < scale := by omega
  have hstep : double.IsStep (part * 2 ^ unitShift) scale _ :=
    lostBits_isStep (by decide) hscale
  generalize double.lostBits (part * 2 ^ unitShift / scale) = lost at hstep
  rcases double_isStep_iff.mp hstep with ⟨-, hge⟩
  rcases hge with rfl | hge
  · have hfour := mul_four_le (scale - part) (show 1 ≤ unitShift by decide)
    rw [dvd_nearest_fraction_of_isStep (by decide) hpart (Nat.zero_add unitShift) hstep]
    omega
  · have hlost : lost + 53 < unitShift + 1 := by
      have hlt : 2 ^ (lost + 53) * scale < 2 ^ (unitShift + 1) * scale := by
        have hmul : part * 2 ^ unitShift < scale * 2 ^ unitShift :=
          Nat.mul_lt_mul_of_pos_right hpart (Nat.two_pow_pos _)
        rw [Nat.mul_comm _ scale, Nat.mul_comm _ scale, mul_two_pow_succ scale unitShift]
        rw [Nat.mul_comm _ scale] at hge
        omega
      exact (Nat.pow_lt_pow_iff_right (by decide)).mp (Nat.lt_of_mul_lt_mul_right hlt)
    obtain ⟨s, hs⟩ : ∃ s, lost + s = unitShift := ⟨unitShift - lost, by omega⟩
    have hfar : scale ≤ part * 2 ^ s := fraction_far hge hs
    have hfar' : part * 2 ^ s ≤ part * 2 ^ unitShift :=
      Nat.mul_le_mul_left _ (Nat.pow_le_pow_right (by decide) (by omega))
    have hfour := mul_four_le (scale - part) (show 1 ≤ s by omega)
    rw [dvd_nearest_fraction_of_isStep (by omega) hpart hs hstep, mul_two_pow_succ part,
      mul_two_pow_succ part]
    omega

theorem dvd_nearest_fraction_iff (hpart : part < scale) :
    2 ^ unitShift ∣ double.nearest (part * 2 ^ unitShift) scale ↔
      part * 2 ^ (unitShift + 1) ≤ scale ∨ (scale - part) * 2 ^ 54 ≤ scale := by
  by_cases hhalf : scale ≤ 2 * part
  · have hfour := mul_four_le part (show 1 ≤ unitShift by decide)
    rw [dvd_nearest_of_half hhalf hpart]
    omega
  · rw [dvd_nearest_of_lt_half (by omega)]
    omega

-- Rounding gives a whole number just where the fraction is near enough to one.
theorem dvd_nearest_iff (hpart : part < scale) :
    2 ^ unitShift ∣ double.nearest ((whole * scale + part) * 2 ^ unitShift) scale ↔
      NearWhole whole part scale := by
  have hshift : 52 ≤ unitShift := by decide
  rw [NearWhole]
  split
  · rename_i hzero
    rw [hzero, Nat.zero_mul, Nat.zero_add]
    exact dvd_nearest_fraction_iff hpart
  · rename_i hwhole
    have hstep := isStep_of_whole hwhole hpart
    by_cases hlog : whole.log2 < 52
    · obtain ⟨s, hs⟩ : ∃ s, whole.log2 + s = 52 := ⟨52 - whole.log2, by omega⟩
      have hcancel : ∀ n, n * 2 ^ (s + 1) ≤ scale ↔ n * 2 ^ 53 ≤ scale * 2 ^ whole.log2 := by
        intro n
        have hpow : 2 ^ 53 = 2 ^ (s + 1) * 2 ^ whole.log2 := by
          rw [← Nat.pow_add]
          congr 1
          omega
        rw [hpow, ← Nat.mul_assoc, Nat.mul_le_mul_right_iff (Nat.two_pow_pos _)]
      have hpos : 0 < s := by omega
      have hsum : whole.log2 + unitShift - 52 + s = unitShift := by omega
      rw [dvd_nearest_iff_of_isStep hpos hpart hsum hstep, hcancel, hcancel]
    -- All numbers of the format are whole from here on, and every fraction is near enough.
    · have hdvd : 2 ^ unitShift ∣
          double.nearest ((whole * scale + part) * 2 ^ unitShift) scale := by
        rw [nearest_of_isStep (by decide) (by omega) hstep]
        exact Nat.dvd_trans (Nat.pow_dvd_pow 2 (by omega)) (Nat.dvd_mul_left _ _)
      have hpow : 2 ^ 52 ≤ 2 ^ whole.log2 := Nat.pow_le_pow_right (by decide) (by omega)
      have hle : scale * 2 ^ 52 ≤ scale * 2 ^ whole.log2 := Nat.mul_le_mul_left _ hpow
      refine ⟨?_, ?_⟩
      · intro _
        omega
      · intro _
        exact hdvd

-- Up to half a step above it, what is rounded comes to at most `2 ^ 63`.
theorem nearest_le_iff (hd : 0 < d) :
    double.nearest (c * 2 ^ unitShift) d ≤ 2 ^ (unitShift + 63) ↔ c ≤ (2 ^ 63 + 2 ^ 10) * d := by
  have hstep : double.IsStep (c * 2 ^ unitShift) d _ := lostBits_isStep (by decide) hd
  generalize double.lostBits (c * 2 ^ unitShift / d) = lost at *
  rcases double_isStep_iff.mp hstep with ⟨hlt, hge⟩
  have hcancel : ∀ k, 2 ^ (unitShift + k) * d = 2 ^ k * d * 2 ^ unitShift := by
    intro k
    rw [Nat.add_comm, Nat.pow_add, Nat.mul_right_comm]
  obtain h | rfl | h : lost < unitShift + 11 ∨ lost = unitShift + 11 ∨ unitShift + 12 ≤ lost := by
    omega
  · have hpow : 2 ^ (lost + 53) ≤ 2 ^ (unitShift + 63) :=
      Nat.pow_le_pow_right (by decide) (by omega)
    have hc : c * 2 ^ unitShift < 2 ^ (unitShift + 63) * d :=
      Nat.lt_of_lt_of_le hlt (Nat.mul_le_mul_right _ hpow)
    have hle : double.nearest (c * 2 ^ unitShift) d ≤ 2 ^ (unitShift + 63) :=
      hstep.nearest_le_two_pow (by decide) hd (by omega) (Nat.le_of_lt hc)
    rw [hcancel] at hc
    have hc' : c < 2 ^ 63 * d := Nat.lt_of_mul_lt_mul_right hc
    refine ⟨?_, ?_⟩
    · intro _
      omega
    · intro _
      exact hle
  -- Here the step is `2 ^ 11`, and `2 ^ 63` is an even number of steps.
  · have htop : 2 ^ (unitShift + 63) = 2 ^ 52 * 2 ^ (unitShift + 11) := by
      rw [← Nat.pow_add]
      congr 1
    have hpos : 0 < d * 2 ^ (unitShift + 11) := Nat.mul_pos hd (Nat.two_pow_pos _)
    have hhalf : 2 * (2 ^ 52 * (d * 2 ^ (unitShift + 11))) + d * 2 ^ (unitShift + 11) =
        2 * ((2 ^ 63 + 2 ^ 10) * d * 2 ^ unitShift) := by
      rw [Nat.mul_comm d, hcancel, Nat.mul_assoc _ d, Nat.mul_assoc _ d]
      omega
    rw [nearest_of_isStep (by decide) hd hstep, htop, Nat.mul_le_mul_right_iff (Nat.two_pow_pos _),
      divNearestEven_le_iff hpos (by decide), hhalf, Nat.mul_le_mul_left_iff (by decide),
      Nat.mul_le_mul_right_iff (Nat.two_pow_pos _)]
  · have hpow : 2 ^ (unitShift + 64) ≤ 2 ^ (lost + 52) :=
      Nat.pow_le_pow_right (by decide) (by omega)
    have hge' : 2 ^ (lost + 52) * d ≤ c * 2 ^ unitShift := by
      rcases hge with hzero | hge
      · omega
      · rw [Nat.pow_succ, Nat.mul_right_comm] at hge
        omega
    have hnearest : 2 ^ (lost + 52) ≤ double.nearest (c * 2 ^ unitShift) d :=
      hstep.two_pow_le_nearest (by decide) hd (by omega) hge'
    have hc : 2 ^ 64 * d * 2 ^ unitShift ≤ c * 2 ^ unitShift := by
      rw [← hcancel]
      exact Nat.le_trans (Nat.mul_le_mul_right _ hpow) hge'
    have hc' : 2 ^ 64 * d ≤ c := Nat.le_of_mul_le_mul_right hc (Nat.two_pow_pos _)
    have hstrict : 2 ^ (unitShift + 63) < 2 ^ (unitShift + 64) :=
      Nat.pow_lt_pow_right (by decide) (by decide)
    refine ⟨?_, ?_⟩
    · intro h
      omega
    · intro h
      omega

end FloatFormat

namespace Binary64

open FloatFormat

theorem ofInt_natCast (n : Nat) : ofInt n = ofUnits .double false (n * 2 ^ unitShift) 1 := by
  have hsign : decide ((n : Int) < 0) = false := decide_eq_false (by omega)
  rw [ofInt, hsign, Int.natAbs_natCast]

theorem equals_finite {m n : Nat} : (finite false m).equals (finite false n) = true ↔ m = n := by
  simp [equals]

theorem equals_ofUnits (hlimit : units < 2 ^ double.limit) :
    (finite false units).equals (ofUnits .double false n d) = true ↔
      double.nearest n d = units := by
  rw [ofUnits_eq]
  split
  · rw [equals_finite]
    exact eq_comm
  · rename_i h
    refine ⟨?_, ?_⟩
    · nofun
    · rintro rfl
      exact absurd hlimit h

-- A number of the format passes for an integer of 64 bits if it is whole and not greater than
-- `2 ^ 63`.
theorem equals_toInt64_iff (hkeeps : double.Keeps units) (hlimit : units < 2 ^ double.limit) :
    (finite false units).equals (ofInt (finite false units).toInt64) = true ↔
      2 ^ unitShift ∣ units ∧ units ≤ 2 ^ (unitShift + 63) := by
  have hone : 0 < 2 ^ unitShift := Nat.two_pow_pos unitShift
  have hmod : units / 2 ^ unitShift * 2 ^ unitShift + units % 2 ^ unitShift = units :=
    Nat.div_add_mod' _ _
  have hpow : 2 ^ (unitShift + 63) = 2 ^ 63 * 2 ^ unitShift := by rw [Nat.pow_add, Nat.mul_comm]
  by_cases hsmall : units / 2 ^ unitShift < 2 ^ 63
  · have hint : (finite false units).toInt64 = (units / 2 ^ unitShift : Nat) := by
      rw [toInt64]
      omega
    rw [hint, ofInt_natCast, equals_ofUnits hlimit]
    refine ⟨?_, ?_⟩
    · intro h
      refine ⟨?_, ?_⟩
      · rw [← h]
        exact dvd_nearest (Nat.dvd_mul_left _ _)
      · have hlt : units < 2 ^ 63 * 2 ^ unitShift := (Nat.div_lt_iff_lt_mul hone).mp hsmall
        omega
    · rintro ⟨hdvd, -⟩
      rw [Nat.div_mul_cancel hdvd]
      exact nearest_of_keeps hkeeps
  -- The greatest integer of 64 bits is itself rounded up to `2 ^ 63`.
  · have hint : (finite false units).toInt64 = 2 ^ 63 - 1 := by
      rw [toInt64]
      omega
    have hgreatest : ofInt (2 ^ 63 - 1) = finite false (2 ^ (unitShift + 63)) := by decide +kernel
    have hge : 2 ^ 63 * 2 ^ unitShift ≤ units := (Nat.le_div_iff_mul_le hone).mp (by omega)
    rw [hint, hgreatest, equals_finite]
    refine ⟨?_, ?_⟩
    · intro h
      rw [h, hpow]
      exact ⟨Nat.dvd_mul_left _ _, Nat.le_refl _⟩
    · rintro ⟨-, hle⟩
      omega

-- What is nearest to a number passes for an integer of 64 bits if the number is near enough to a
-- whole one, and not above `2 ^ 63` by more than half a step.
theorem equals_toInt64_ofUnits_iff (hpart : part < scale) :
    (ofUnits .double false ((whole * scale + part) * 2 ^ unitShift) scale).equals
        (ofInt (ofUnits .double false ((whole * scale + part) * 2 ^ unitShift) scale).toInt64) =
      true ↔
      NearWhole whole part scale ∧ whole * scale + part ≤ (2 ^ 63 + 2 ^ 10) * scale := by
  have hscale : 0 < scale := by omega
  rw [ofUnits_eq]
  split
  · rename_i hlimit
    rw [equals_toInt64_iff (nearest_keeps (by decide) hscale) hlimit, dvd_nearest_iff hpart,
      nearest_le_iff hscale]
  · rename_i hlimit
    have hpow : 2 ^ (unitShift + 63) < 2 ^ double.limit :=
      Nat.pow_lt_pow_right (by decide) (by decide)
    have hgreat : ¬double.nearest ((whole * scale + part) * 2 ^ unitShift) scale ≤
        2 ^ (unitShift + 63) := by
      omega
    rw [nearest_le_iff hscale] at hgreat
    refine ⟨?_, ?_⟩
    · intro h
      exact absurd h (by decide +kernel)
    · rintro ⟨-, h⟩
      exact absurd h hgreat

end Binary64

end TypedLiterals
