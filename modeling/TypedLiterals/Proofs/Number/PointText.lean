import Mathlib.Data.List.TakeWhile
import TypedLiterals.Number.Text
import TypedLiterals.Proofs.Number.Rounding
import TypedLiterals.Proofs.Text.Classes

/-!
Number literals as the language writes them. A floating-point literal is digits, a point, digits and
perhaps an `f`, and is read as the number of double precision that is nearest to what it writes. An
integer literal is decimal digits, or `0x` and hexadecimal digits; it has no sign, so it is read as
a natural number.
-/

namespace TypedLiterals

section Digits

variable {digits : List Char}

theorem foldl_ofDigits (base value : Nat) (digits : List Char) :
    digits.foldl (fun value d => value * base + digitValue d) value =
      value * base ^ digits.length + ofDigits base digits := by
  induction digits generalizing value with
  | nil => simp [ofDigits]
  | cons d digits ih =>
    rw [ofDigits, List.foldl_cons, List.foldl_cons, ih, ih, Nat.zero_mul, Nat.zero_add,
      List.length_cons, Nat.pow_succ, Nat.add_mul, Nat.mul_assoc, Nat.mul_comm base]
    omega

theorem ofDigits_append (base : Nat) (xs ys : List Char) :
    ofDigits base (xs ++ ys) = ofDigits base xs * base ^ ys.length + ofDigits base ys := by
  rw [ofDigits, List.foldl_append, foldl_ofDigits]
  rfl

theorem ofDigits_cons (base : Nat) (d : Char) (digits : List Char) :
    ofDigits base (d :: digits) = digitValue d * base ^ digits.length + ofDigits base digits := by
  rw [ofDigits, List.foldl_cons, foldl_ofDigits, Nat.zero_mul, Nat.zero_add]

theorem ofDigits_lt (hdigits : ∀ c ∈ digits, c.isDigit = true) :
    ofDigits 10 digits < 10 ^ digits.length := by
  induction digits with
  | nil => decide
  | cons d digits ih =>
    have hd : digitValue d < 10 := digitValue_lt_ten (hdigits d List.mem_cons_self)
    have hrest := ih fun c hc => hdigits c (List.mem_cons_of_mem d hc)
    have hle : digitValue d * 10 ^ digits.length ≤ 9 * 10 ^ digits.length :=
      Nat.mul_le_mul_right _ (by omega)
    rw [ofDigits_cons, List.length_cons, Nat.pow_succ]
    omega

end Digits

section Signs

variable {digits : List Char}

-- Digits begin with no sign.
theorem splitSign_of_digit {d : Char} {rest : List Char} (hd : d.isDigit = true) :
    splitSign (d :: rest) = (false, d :: rest) := by
  rw [splitSign]
  · rintro rest' ⟨⟩
    revert hd
    decide
  · rintro rest' ⟨⟩
    revert hd
    decide

-- Digits do not begin like a hexadecimal integer.
theorem readMagnitude?_of_digits (hne : digits ≠ [])
    (hdigits : ∀ c ∈ digits, c.isDigit = true) :
    readMagnitude? digits = some (ofDigits 10 digits) := by
  have hmark : ∀ x : Char, x.isDigit = false → ∀ rest, digits ≠ '0' :: x :: rest := by
    rintro x hx rest rfl
    have h := hdigits x (by simp)
    rw [hx] at h
    cases h
  rw [readMagnitude?]
  · rw [readDigits?, if_pos ⟨hne, List.all_eq_true.mpr hdigits⟩]
  · exact hmark 'x' (by decide)
  · exact hmark 'X' (by decide)

theorem readInteger?_ofList_digits (hne : digits ≠ [])
    (hdigits : ∀ c ∈ digits, c.isDigit = true) :
    readInteger? (String.ofList digits) = some (ofDigits 10 digits : Int) := by
  have hsign : splitSign digits = (false, digits) := by
    cases digits with
    | nil => exact absurd rfl hne
    | cons d rest => exact splitSign_of_digit (hdigits d List.mem_cons_self)
  rw [readInteger?, String.toList_ofList, readIntegerChars?, hsign]
  simp only [readMagnitude?_of_digits hne hdigits]
  rfl

end Signs

namespace Decimal

-- The number that is read from a point text has as many decimal places as there are digits behind
-- the point.
theorem read?_point {whole fraction : List Char} (hne : whole ≠ [])
    (hwhole : ∀ c ∈ whole, c.isDigit = true) (hfraction : ∀ c ∈ fraction, c.isDigit = true) :
    read? (whole ++ '.' :: fraction) =
      some ⟨ofDigits 10 (whole ++ fraction), -(fraction.length : Int)⟩ := by
  have hpoint : ('.'.isDigit) ≠ true := by decide
  have htake : (whole ++ '.' :: fraction).takeWhile Char.isDigit = whole := by
    rw [List.takeWhile_append_of_pos hwhole, List.takeWhile_cons_of_neg hpoint, List.append_nil]
  have hdrop : (whole ++ '.' :: fraction).dropWhile Char.isDigit = '.' :: fraction := by
    rw [List.dropWhile_append_of_pos hwhole, List.dropWhile_cons_of_neg hpoint]
  have htake' : fraction.takeWhile Char.isDigit = fraction :=
    List.takeWhile_eq_self_iff.mpr hfraction
  have hdrop' : fraction.dropWhile Char.isDigit = [] :=
    List.dropWhile_eq_nil_iff.mpr hfraction
  rw [read?]
  simp only [htake, hdrop, htake', hdrop']
  rw [if_neg (fun h => hne h.1), readExponent?, Option.map_some, Int.zero_sub]

-- No number without an exponent is so far from one that its rounding would not be computed,
-- except those that are rounded to zero anyway.
theorem toBinary64_places (c n : Nat) (negative : Bool) :
    (Decimal.mk c (-(n : Int))).toBinary64 negative =
      .ofUnits .double negative (c * 2 ^ unitShift) (10 ^ n) := by
  have hpos : 0 < 10 ^ n := Nat.pow_pos (by decide)
  have hzero : 2 * (c * 2 ^ unitShift) ≤ 10 ^ n →
      .ofUnits .double negative (c * 2 ^ unitShift) (10 ^ n) = Binary64.finite negative 0 := by
    intro h
    rw [Binary64.ofUnits_eq, FloatFormat.double_nearest_eq_zero hpos h,
      if_pos (Nat.two_pow_pos _)]
  rw [toBinary64]
  dsimp only
  split
  · rename_i hc
    rw [hzero]
    rw [hc]
    omega
  · rw [if_neg (by omega)]
    split
    · rename_i hsmall
      rw [hzero]
      -- A decimal place is worth more than three bits.
      have hexp : c.log2 + 1 + unitShift + 1 ≤ 3 * n := by
        have hshift : unitShift = 1074 := rfl
        omega
      calc 2 * (c * 2 ^ unitShift) ≤ 2 * (2 ^ (c.log2 + 1) * 2 ^ unitShift) :=
            Nat.mul_le_mul_left 2 (Nat.mul_le_mul_right _ (Nat.le_of_lt Nat.lt_log2_self))
        _ = 2 ^ (c.log2 + 1 + unitShift + 1) := by
            rw [← Nat.pow_add, Nat.pow_succ _ (c.log2 + 1 + unitShift), Nat.mul_comm]
        _ ≤ 2 ^ (3 * n) := Nat.pow_le_pow_right (by decide) hexp
        _ = 8 ^ n := Nat.pow_mul 2 3 n
        _ ≤ 10 ^ n := Nat.pow_le_pow_left (by decide) n
    · simp only [Int.toNat_neg_natCast, Int.neg_neg, Int.toNat_natCast, Nat.pow_zero, Nat.mul_one]

end Decimal

/-- Digits, a point, digits and perhaps an `f`. -/
structure PointText (text : String) (whole fraction : List Char) : Prop where
  whole_ne : whole ≠ []
  whole_digits : ∀ c ∈ whole, c.isDigit = true
  fraction_ne : fraction ≠ []
  fraction_digits : ∀ c ∈ fraction, c.isDigit = true
  toList_eq : text.toList = whole ++ '.' :: fraction ∨
    text.toList = whole ++ '.' :: fraction ++ ['f']

namespace PointText

variable {text : String} {whole fraction : List Char}

-- The text before the point.
theorem takeWhile_eq (h : PointText text whole fraction) :
    text.toList.takeWhile (· ≠ '.') = whole := by
  have hwhole : ∀ c ∈ whole, decide (c ≠ '.') = true := by
    intro c hc
    have hdigit := h.whole_digits c hc
    apply decide_eq_true
    rintro rfl
    revert hdigit
    decide
  have htake : ∀ rest, (whole ++ '.' :: rest).takeWhile (· ≠ '.') = whole := by
    intro rest
    rw [List.takeWhile_append_of_pos hwhole, List.takeWhile_cons_of_neg (by decide),
      List.append_nil]
  rcases h.toList_eq with heq | heq
  · rw [heq]
    exact htake _
  · rw [heq, List.append_assoc]
    exact htake _

-- The mark of single precision is no digit, so it is taken off just where it stands.
theorem dropMark_eq (h : PointText text whole fraction) :
    (if text.toList.getLast? = some 'f' then text.toList.dropLast else text.toList) =
      whole ++ '.' :: fraction := by
  rcases h.toList_eq with heq | heq
  · rw [heq, if_neg]
    intro hlast
    have hmem : 'f' ∈ whole ++ '.' :: fraction := List.mem_of_getLast? hlast
    rw [List.mem_append, List.mem_cons] at hmem
    rcases hmem with hf | hf | hf
    · exact absurd (h.whole_digits _ hf) (by decide)
    · exact absurd hf (by decide)
    · exact absurd (h.fraction_digits _ hf) (by decide)
  · rw [heq, if_pos List.getLast?_concat, List.dropLast_concat]

theorem readFloat?_eq (h : PointText text whole fraction) :
    readFloat? text = some (.ofUnits .double false
      ((ofDigits 10 whole * 10 ^ fraction.length + ofDigits 10 fraction) * 2 ^ unitShift)
      (10 ^ fraction.length)) := by
  have hsign : splitSign (whole ++ '.' :: fraction) = (false, whole ++ '.' :: fraction) := by
    rcases List.exists_cons_of_ne_nil h.whole_ne with ⟨d, rest, hcons⟩
    have hd : d.isDigit = true := h.whole_digits d (by rw [hcons]; exact List.mem_cons_self)
    rw [hcons]
    exact splitSign_of_digit hd
  rw [readFloat?]
  simp only [h.dropMark_eq]
  rw [readFloatChars?, hsign]
  simp only [Decimal.read?_point h.whole_ne h.whole_digits h.fraction_digits,
    Decimal.toBinary64_places, ofDigits_append]

end PointText

inductive NaturalText : List Char → Prop where
  | decimal {row : List Char} (ne : row ≠ []) (digits : ∀ c ∈ row, c.isDigit = true) :
      NaturalText row
  | hexadecimal {mark : Char} {row : List Char} (isMark : mark = 'x' ∨ mark = 'X')
      (ne : row ≠ []) (digits : ∀ c ∈ row, isHexDigit c = true) : NaturalText ('0' :: mark :: row)

theorem readDigits?_of_row {base : Nat} {accept : Char → Bool} {digits : List Char}
    (hne : digits ≠ []) (hdigits : ∀ c ∈ digits, accept c = true) :
    readDigits? base accept digits = some (ofDigits base digits) := by
  rw [readDigits?, if_pos ⟨hne, List.all_eq_true.mpr hdigits⟩]

namespace NaturalText

variable {text : String}

theorem readInteger?_eq (h : NaturalText text.toList) :
    ∃ n : Nat, readInteger? text = some (n : Int) := by
  generalize hcs : text.toList = cs at h
  cases h with
  | decimal ne digits =>
    rw [← String.ofList_toList (s := text), hcs]
    exact ⟨_, readInteger?_ofList_digits ne digits⟩
  | @hexadecimal mark row isMark ne digits =>
    have hsign : splitSign ('0' :: mark :: row) = (false, '0' :: mark :: row) :=
      splitSign_of_digit (by decide)
    have hmagnitude : readMagnitude? ('0' :: mark :: row) = some (ofDigits 16 row) := by
      rcases isMark with rfl | rfl
      · exact readDigits?_of_row ne digits
      · exact readDigits?_of_row ne digits
    refine ⟨ofDigits 16 row, ?_⟩
    rw [readInteger?, hcs, readIntegerChars?, hsign]
    simp only [hmagnitude]
    rfl

end NaturalText

end TypedLiterals
