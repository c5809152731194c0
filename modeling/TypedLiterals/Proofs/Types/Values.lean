import Mathlib.Algebra.Order.Field.Power
import Mathlib.Data.Rat.Cast.Order
import Mathlib.Tactic.Linarith
import Mathlib.Tactic.NormNum
import Mathlib.Tactic.Positivity
import TypedLiterals.Types.Primitive

/-!
The values of the numeric types as rational numbers. One type fits into another exactly if its
values are among those of the other: between integer types the bounds decide, an integer type lies
in a floating-point type just where the precision is enough for all of its integers, and no
floating-point type lies in an integer type, for it has a half.
-/

namespace TypedLiterals

/-- The numbers `m * 2 ^ e` with `m` of at most so many bits and `e` within bounds. -/
def binaryNumbers (precision : ℕ) (least greatest : ℤ) : Set ℚ :=
  {q | ∃ m e : ℤ, |m| < 2 ^ precision ∧ least ≤ e ∧ e ≤ greatest ∧ q = m * 2 ^ e}

/-- The integers of a range. -/
def IntRange.values (r : IntRange) : Set ℚ :=
  {q | ∃ i : ℤ, r.contains i = true ∧ q = i}

/-- The values of a type. Truth values are no numbers. -/
def PrimType.values : PrimType → Set ℚ
  | .float .single => binaryNumbers 24 (-149) 104
  | .float .double => binaryNumbers 53 (-1074) 971
  | type => {q | ∃ r, type.range? = some r ∧ q ∈ r.values}

section BinaryNumbers

variable {p p' : ℕ} {least greatest least' greatest' i : ℤ} {q : ℚ}

theorem binaryNumbers_mono (hp : p ≤ p') (hleast : least' ≤ least)
    (hgreatest : greatest ≤ greatest') :
    binaryNumbers p least greatest ⊆ binaryNumbers p' least' greatest' := by
  rintro q ⟨m, e, hm, hle, hge, rfl⟩
  have hpow : (2 : ℤ) ^ p ≤ 2 ^ p' := pow_le_pow_right₀ (by decide) hp
  exact ⟨m, e, lt_of_lt_of_le hm hpow, by omega, by omega, rfl⟩

theorem intCast_mem_binaryNumbers (hi : |i| < 2 ^ p) (hleast : least ≤ 0)
    (hgreatest : 0 ≤ greatest) : (i : ℚ) ∈ binaryNumbers p least greatest :=
  ⟨i, 0, hi, hleast, hgreatest, by rw [zpow_zero, mul_one]⟩

theorem half_mem_binaryNumbers (hp : 0 < p) (hleast : least ≤ -1) (hgreatest : -1 ≤ greatest) :
    (1 / 2 : ℚ) ∈ binaryNumbers p least greatest := by
  have hone : |(1 : ℤ)| < 2 ^ p := by
    rw [abs_one]
    exact one_lt_pow₀ (by decide) (by omega)
  exact ⟨1, -1, hone, hleast, hgreatest, by norm_num⟩

theorem abs_lt_of_mem_binaryNumbers (h : q ∈ binaryNumbers p least greatest) :
    |q| < 2 ^ p * 2 ^ greatest := by
  obtain ⟨m, e, hm, -, he, rfl⟩ := h
  have hm' : |(m : ℚ)| < 2 ^ p := by exact_mod_cast hm
  have hpos : (0 : ℚ) < 2 ^ e := by positivity
  have hpow : (2 : ℚ) ^ e ≤ 2 ^ greatest := zpow_le_zpow_right₀ (by norm_num) he
  rw [abs_mul, abs_of_pos hpos]
  calc |(m : ℚ)| * 2 ^ e
    _ < 2 ^ p * 2 ^ e := mul_lt_mul_of_pos_right hm' hpos
    _ ≤ 2 ^ p * 2 ^ greatest := mul_le_mul_of_nonneg_left hpow (by positivity)

-- One bit more would be needed: without a scale it is too large, and any other scale is even.
theorem two_pow_add_one_not_mem (hp : 0 < p) :
    ((2 ^ p + 1 : ℤ) : ℚ) ∉ binaryNumbers p least greatest := by
  rintro ⟨m, e, hm, -, -, heq⟩
  by_cases he : e ≤ 0
  · have hm' : |(m : ℚ)| < 2 ^ p := by exact_mod_cast hm
    have hscale : (2 : ℚ) ^ e ≤ 1 := zpow_le_one_of_nonpos₀ (by norm_num) he
    have hle : (m : ℚ) * 2 ^ e ≤ |(m : ℚ)| * 1 :=
      mul_le_mul (le_abs_self _) hscale (by positivity) (abs_nonneg _)
    push_cast at heq
    linarith
  · obtain ⟨k, rfl⟩ : ∃ k : ℕ, e = (k + 1 : ℕ) := ⟨(e - 1).toNat, by omega⟩
    rw [zpow_natCast] at heq
    have hint : (2 ^ p + 1 : ℤ) = m * 2 ^ (k + 1) := by exact_mod_cast heq
    obtain ⟨j, rfl⟩ : ∃ j, p = j + 1 := ⟨p - 1, by omega⟩
    rw [pow_succ, pow_succ, ← mul_assoc] at hint
    omega

-- The least number beyond the bounds of one format is in another.
theorem not_binaryNumbers_subset (hp : 0 < p') (hleast : least' ≤ p + greatest)
    (hgreatest : p + greatest ≤ greatest') :
    ¬binaryNumbers p' least' greatest' ⊆ binaryNumbers p least greatest := by
  intro hsubset
  have hone : |(1 : ℤ)| < 2 ^ p' := by
    rw [abs_one]
    exact one_lt_pow₀ (by decide) (by omega)
  have hlt := abs_lt_of_mem_binaryNumbers
    (hsubset ⟨1, p + greatest, hone, hleast, hgreatest, rfl⟩)
  rw [Int.cast_one, one_mul, abs_of_pos (by positivity), zpow_add₀ (by norm_num),
    zpow_natCast] at hlt
  exact lt_irrefl _ hlt

end BinaryNumbers

namespace IntRange

variable {p : ℕ} {least greatest i : ℤ} {r s : IntRange}

theorem intCast_mem_values : (i : ℚ) ∈ r.values ↔ r.contains i = true := by
  constructor
  · rintro ⟨j, hj, heq⟩
    rwa [Int.cast_inj.mp heq]
  · intro hi
    exact ⟨i, hi, rfl⟩

theorem values_subset_iff (h : r.least ≤ r.greatest) :
    r.values ⊆ s.values ↔ s.least ≤ r.least ∧ r.greatest ≤ s.greatest := by
  constructor
  · intro hsubset
    have hleast : s.contains r.least = true :=
      intCast_mem_values.mp (hsubset (intCast_mem_values.mpr (contains_iff.mpr ⟨le_rfl, h⟩)))
    have hgreatest : s.contains r.greatest = true :=
      intCast_mem_values.mp (hsubset (intCast_mem_values.mpr (contains_iff.mpr ⟨h, le_rfl⟩)))
    exact ⟨(contains_iff.mp hleast).1, (contains_iff.mp hgreatest).2⟩
  · rintro ⟨hleast, hgreatest⟩ q ⟨i, hi, rfl⟩
    exact intCast_mem_values.mpr (contains_of_le hleast hgreatest hi)

theorem values_subset_binaryNumbers (hr : -2 ^ p < r.least ∧ r.greatest < 2 ^ p)
    (hleast : least ≤ 0) (hgreatest : 0 ≤ greatest) :
    r.values ⊆ binaryNumbers p least greatest := by
  rintro q ⟨i, hi, rfl⟩
  rw [contains_iff] at hi
  exact intCast_mem_binaryNumbers (abs_lt.mpr ⟨by omega, by omega⟩) hleast hgreatest

theorem not_values_subset_binaryNumbers (hp : 0 < p)
    (hr : r.least ≤ 0 ∧ 2 ^ p + 1 ≤ r.greatest) :
    ¬r.values ⊆ binaryNumbers p least greatest := by
  intro hsubset
  have hpos : (0 : ℤ) < 2 ^ p := by positivity
  have hmem : ((2 ^ p + 1 : ℤ) : ℚ) ∈ r.values :=
    intCast_mem_values.mpr (contains_iff.mpr ⟨by omega, hr.2⟩)
  exact two_pow_add_one_not_mem hp (hsubset hmem)

theorem not_binaryNumbers_subset_values (hp : 0 < p) (hleast : least ≤ -1)
    (hgreatest : -1 ≤ greatest) : ¬binaryNumbers p least greatest ⊆ r.values := by
  intro hsubset
  obtain ⟨i, -, heq⟩ := hsubset (half_mem_binaryNumbers hp hleast hgreatest)
  have htwice : (2 * i : ℚ) = 1 := by
    rw [← heq]
    norm_num
  have hint : 2 * i = 1 := by exact_mod_cast htwice
  omega

end IntRange

namespace PrimType

variable {a b : PrimType} {r s : IntRange}

theorem integer_or_float (h : a ≠ bool) : (∃ r, a.range? = some r) ∨ ∃ width, a = float width := by
  cases a with
  | bool => contradiction
  | signed width => exact .inl ⟨_, rfl⟩
  | unsigned width => exact .inl ⟨_, rfl⟩
  | float width => exact .inr ⟨width, rfl⟩

theorem values_of_range (h : a.range? = some r) : a.values = r.values := by
  have hvalues : a.values = {q | ∃ r, a.range? = some r ∧ q ∈ r.values} := by
    cases a with
    | float width => cases h
    | bool => rfl
    | signed width => rfl
    | unsigned width => rfl
  ext q
  rw [hvalues]
  constructor
  · rintro ⟨r', hr', hq⟩
    rwa [← Option.some.inj (hr'.symm.trans h)]
  · intro hq
    exact ⟨r, h, hq⟩

theorem least_le_greatest (h : a.range? = some r) : r.least ≤ r.greatest := by
  cases a with
  | bool => cases h
  | float width => cases h
  | signed width =>
    cases h
    cases width <;> decide
  | unsigned width =>
    cases h
    cases width <;> decide

/-- Between integer types the widths say how the bounds lie. -/
theorem fitsInto_iff_of_ranges (ha : a.range? = some r) (hb : b.range? = some s) :
    a.fitsInto b = true ↔ s.least ≤ r.least ∧ r.greatest ≤ s.greatest := by
  cases a with
  | bool => cases ha
  | float width => cases ha
  | signed v =>
    cases ha
    cases b with
    | bool => cases hb
    | float width => cases hb
    | signed w =>
      cases hb
      cases v <;> cases w <;> decide
    | unsigned w =>
      cases hb
      cases v <;> cases w <;> decide
  | unsigned v =>
    cases ha
    cases b with
    | bool => cases hb
    | float width => cases hb
    | signed w =>
      cases hb
      cases v <;> cases w <;> decide
    | unsigned w =>
      cases hb
      cases v <;> cases w <;> decide

/-- An integer type of at most the precision has no integers beyond it. One that is wider has the
first integer that needs another bit. -/
theorem fitsInto_float_cases (ha : a.range? = some r) (width : FloatWidth) :
    a.fitsInto (float width) = true ∧
        (-2 ^ width.format.precision < r.least ∧ r.greatest < 2 ^ width.format.precision) ∨
      ¬a.fitsInto (float width) = true ∧
        (r.least ≤ 0 ∧ 2 ^ width.format.precision + 1 ≤ r.greatest) := by
  cases a with
  | bool => cases ha
  | float width => cases ha
  | signed v =>
    cases ha
    cases v <;> cases width <;> decide
  | unsigned v =>
    cases ha
    cases v <;> cases width <;> decide

theorem precision_pos (width : FloatWidth) : 0 < width.format.precision := by
  cases width <;> decide

/-- The values of either width have the precision of its format, and their scales go from a half or
less to one or more. -/
theorem exists_values_float (width : FloatWidth) :
    ∃ least greatest : ℤ, least ≤ -1 ∧ 0 ≤ greatest ∧
      (float width).values = binaryNumbers width.format.precision least greatest := by
  cases width with
  | single => exact ⟨-149, 104, by decide, by decide, rfl⟩
  | double => exact ⟨-1074, 971, by decide, by decide, rfl⟩

theorem integer_fitsInto_float_iff (ha : a.range? = some r) (width : FloatWidth) :
    a.fitsInto (float width) = true ↔ r.values ⊆ (float width).values := by
  obtain ⟨least, greatest, hleast, hgreatest, hvalues⟩ := exists_values_float width
  rw [hvalues]
  rcases fitsInto_float_cases ha width with ⟨hfits, hbounds⟩ | ⟨hfits, hbounds⟩
  · exact iff_of_true hfits (IntRange.values_subset_binaryNumbers hbounds (by omega) hgreatest)
  · exact iff_of_false hfits
      (IntRange.not_values_subset_binaryNumbers (precision_pos width) hbounds)

theorem float_fitsInto_integer_iff (hb : b.range? = some s) (width : FloatWidth) :
    (float width).fitsInto b = true ↔ (float width).values ⊆ s.values := by
  have hfits : ¬(float width).fitsInto b = true := by
    cases b with
    | bool => cases hb
    | float w => cases hb
    | signed w => exact Bool.false_ne_true
    | unsigned w => exact Bool.false_ne_true
  obtain ⟨least, greatest, hleast, hgreatest, hvalues⟩ := exists_values_float width
  rw [hvalues]
  exact iff_of_false hfits
    (IntRange.not_binaryNumbers_subset_values (precision_pos width) hleast (by omega))

theorem float_fitsInto_float_iff (v w : FloatWidth) :
    (float v).fitsInto (float w) = true ↔ (float v).values ⊆ (float w).values := by
  cases v with
  | single =>
    cases w with
    | single => exact iff_of_true rfl subset_rfl
    | double => exact iff_of_true rfl (binaryNumbers_mono (by decide) (by decide) (by decide))
  | double =>
    cases w with
    | single =>
      exact iff_of_false Bool.false_ne_true
        (not_binaryNumbers_subset (by decide) (by decide) (by decide))
    | double => exact iff_of_true rfl subset_rfl

/-- A numeric type fits into another exactly if each of its values is a value of the other. -/
theorem fitsInto_iff_values_subset (ha : a ≠ bool) (hb : b ≠ bool) :
    a.fitsInto b = true ↔ a.values ⊆ b.values := by
  rcases integer_or_float ha with ⟨r, hr⟩ | ⟨v, rfl⟩
  · rw [values_of_range hr]
    rcases integer_or_float hb with ⟨s, hs⟩ | ⟨w, rfl⟩
    · rw [values_of_range hs, IntRange.values_subset_iff (least_le_greatest hr)]
      exact fitsInto_iff_of_ranges hr hs
    · exact integer_fitsInto_float_iff hr w
  · rcases integer_or_float hb with ⟨s, hs⟩ | ⟨w, rfl⟩
    · rw [values_of_range hs]
      exact float_fitsInto_integer_iff hs v
    · exact float_fitsInto_float_iff v w

/-- Of 64 bits there are integers between the numbers of double precision, of 32 bits there are
none. -/
theorem fitsInto_iff_values_subset_double :
    unsigned .w32 ≠ bool ∧ signed .w64 ≠ bool ∧ float .double ≠ bool ∧
      (unsigned .w32).values ⊆ (float .double).values ∧
      ¬(signed .w64).values ⊆ (float .double).values := by
  have hshort : unsigned .w32 ≠ bool := nofun
  have hlong : signed .w64 ≠ bool := nofun
  have hfloat : float .double ≠ bool := nofun
  refine ⟨hshort, hlong, hfloat, (fitsInto_iff_values_subset hshort hfloat).mp rfl, ?_⟩
  intro hsubset
  exact Bool.false_ne_true ((fitsInto_iff_values_subset hlong hfloat).mpr hsubset)

end PrimType

end TypedLiterals
