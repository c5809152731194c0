import Mathlib.Data.List.Basic
import Mathlib.Tactic.SplitIfs
import TypedLiterals.Number.Text
import TypedLiterals.Proofs.Number.PointText

/-!
The text of a decimal number has all of its digits, so the number that is read from it is the same,
with zeros in place of a positive exponent. The two have the same nearest binary number, except
where the exponent is so large that the number is not computed.
-/

namespace TypedLiterals

section Digits

variable {digits : List Char} {c : Char} {n : Nat}

theorem ofDigits_eq_ofDigitChars (hdigits : ∀ c ∈ digits, c.isDigit = true) :
    ofDigits 10 digits = Nat.ofDigitChars 10 digits 0 := by
  unfold ofDigits
  rw [Nat.ofDigitChars_eq_foldl]
  apply List.foldl_ext
  intro value d hd
  rw [digitValue_of_isDigit (hdigits d hd), Nat.mul_comm]

theorem isDigit_of_mem_toDigits (hc : c ∈ Nat.toDigits 10 n) : c.isDigit = true :=
  Nat.isDigit_of_mem_toDigits (by decide) (by decide) hc

theorem isDigit_of_mem_zeros (hc : c ∈ List.replicate n '0') : c.isDigit = true := by
  rw [List.eq_of_mem_replicate hc]
  rfl

@[simp] theorem ofDigits_toDigits (n : Nat) : ofDigits 10 (Nat.toDigits 10 n) = n := by
  rw [ofDigits_eq_ofDigitChars fun _ => isDigit_of_mem_toDigits]
  exact Nat.ofDigitChars_ten_toDigits

@[simp] theorem ofDigits_zeros (n : Nat) : ofDigits 10 (List.replicate n '0') = 0 := by
  rw [ofDigits_eq_ofDigitChars fun _ => isDigit_of_mem_zeros]
  simp

end Digits

-- Where there is no sign at all there is none in front.
theorem splitSign_of_not_mem {cs : List Char} (hminus : '-' ∉ cs) (hplus : '+' ∉ cs) :
    splitSign cs = (false, cs) := by
  rw [splitSign]
  · intro rest h
    simp [h] at hminus
  · intro rest h
    simp [h] at hplus

namespace Decimal

variable {digits : List Char} {d : Decimal} {negative : Bool} {units : Nat}

theorem read?_digits (hne : digits ≠ []) (hdigits : ∀ c ∈ digits, c.isDigit = true) :
    read? digits = some ⟨ofDigits 10 digits, 0⟩ := by
  have htake : digits.takeWhile Char.isDigit = digits := List.takeWhile_eq_self_iff.mpr hdigits
  have hdrop : digits.dropWhile Char.isDigit = [] := List.dropWhile_eq_nil_iff.mpr hdigits
  unfold read?
  simp [htake, hdrop, hne, readExponent?]

/-- The same number without a positive exponent. -/
def writtenOut (d : Decimal) : Decimal :=
  ⟨d.coefficient * 10 ^ d.exponent.toNat, min d.exponent 0⟩

theorem writtenOut_of_neg (h : d.exponent < 0) : d.writtenOut = d := by
  have hexp : d.exponent.toNat = 0 := by omega
  have hmin : min d.exponent 0 = d.exponent := by omega
  simp [writtenOut, hexp, hmin]

theorem text_of_nonneg (h : 0 ≤ d.exponent) :
    d.text = Nat.toDigits 10 d.coefficient ++ List.replicate d.exponent.toNat '0' := by
  simp [text, h]

/-- A row of digits for the coefficient that has one digit before the decimal places at least. -/
def padded (d : Decimal) : List Char :=
  let digits := Nat.toDigits 10 d.coefficient
  List.replicate ((-d.exponent).toNat + 1 - digits.length) '0' ++ digits

theorem text_of_neg (h : d.exponent < 0) :
    d.text = d.padded.take (d.padded.length - (-d.exponent).toNat) ++
      '.' :: d.padded.drop (d.padded.length - (-d.exponent).toNat) := by
  have hneg : ¬0 ≤ d.exponent := by omega
  simp only [text, if_neg hneg]
  rfl

theorem isDigit_of_mem_padded {c : Char} (hc : c ∈ d.padded) : c.isDigit = true := by
  rcases List.mem_append.mp hc with hzero | hdigit
  · exact isDigit_of_mem_zeros hzero
  · exact isDigit_of_mem_toDigits hdigit

theorem lt_length_padded (d : Decimal) : (-d.exponent).toNat < d.padded.length := by
  simp only [padded, List.length_append, List.length_replicate]
  omega

@[simp] theorem ofDigits_padded (d : Decimal) : ofDigits 10 d.padded = d.coefficient := by
  simp [padded, ofDigits_append]

theorem mem_text {c : Char} (hc : c ∈ d.text) : c.isDigit = true ∨ c = '.' := by
  by_cases h : 0 ≤ d.exponent
  · rw [text_of_nonneg h, List.mem_append] at hc
    exact .inl (hc.elim isDigit_of_mem_toDigits isDigit_of_mem_zeros)
  · rw [text_of_neg (by omega), List.mem_append, List.mem_cons] at hc
    rcases hc with hwhole | hpoint | hfraction
    · exact .inl (isDigit_of_mem_padded (List.mem_of_mem_take hwhole))
    · exact .inr hpoint
    · exact .inl (isDigit_of_mem_padded (List.mem_of_mem_drop hfraction))

theorem read?_text (d : Decimal) : read? d.text = some d.writtenOut := by
  by_cases h : 0 ≤ d.exponent
  · have hmin : min d.exponent 0 = 0 := by omega
    have hne : Nat.toDigits 10 d.coefficient ++ List.replicate d.exponent.toNat '0' ≠ [] := by
      simp [Nat.toDigits_ne_nil]
    rw [text_of_nonneg h, read?_digits hne, ofDigits_append]
    · simp [writtenOut, hmin]
    · intro c hc
      exact (List.mem_append.mp hc).elim isDigit_of_mem_toDigits isDigit_of_mem_zeros
  · have hneg : d.exponent < 0 := by omega
    have hlength := lt_length_padded d
    have hwhole : d.padded.take (d.padded.length - (-d.exponent).toNat) ≠ [] := by
      apply List.ne_nil_of_length_pos
      rw [List.length_take]
      omega
    rw [text_of_neg hneg, read?_point hwhole
      (fun c hc => isDigit_of_mem_padded (List.mem_of_mem_take hc))
      (fun c hc => isDigit_of_mem_padded (List.mem_of_mem_drop hc)),
      List.take_append_drop, ofDigits_padded, List.length_drop, writtenOut_of_neg hneg]
    have hexp : -((d.padded.length - (d.padded.length - (-d.exponent).toNat) : Nat) : Int) =
        d.exponent := by
      omega
    rw [hexp]

-- The zeros of a number that is not too large to be computed make no difference.
theorem toBinary64_writtenOut (h : d.toBinary64 negative = .finite negative units) :
    d.writtenOut.toBinary64 negative = .finite negative units := by
  by_cases hneg : d.exponent < 0
  · rwa [writtenOut_of_neg hneg]
  have hmin : min d.exponent 0 = -((0 : Nat) : Int) := by omega
  by_cases hzero : d.coefficient = 0
  · rw [toBinary64, if_pos hzero] at h
    rw [toBinary64, if_pos (by simp [writtenOut, hzero]), h]
  · have hplaces : (-d.exponent).toNat = 0 := by omega
    have hsmall : ¬(d.coefficient.log2 + 3 * d.exponent < -1080) := by omega
    rw [toBinary64, if_neg hzero, if_neg hsmall, hplaces] at h
    rw [writtenOut, hmin, toBinary64_places]
    split at h
    · cases h
    · exact h

-- The sign of a number has no part in how it is rounded.
theorem toBinary64_sign (h : d.toBinary64 false = .finite false units) (negative : Bool) :
    d.toBinary64 negative = .finite negative units := by
  unfold toBinary64 at h ⊢
  rw [Binary64.ofUnits_eq] at h ⊢
  split_ifs at h ⊢
  · cases h
    rfl
  · cases h
    rfl
  · cases h
    rfl

end Decimal

theorem readFloat?_of_digits {negative : Bool} {cs : List Char} {d : Decimal}
    (hmem : ∀ c ∈ cs, c.isDigit = true ∨ c = '.') (hread : Decimal.read? cs = some d) :
    readFloat? (String.ofList (if negative then '-' :: cs else cs)) =
      some (d.toBinary64 negative) := by
  have hout : ∀ c : Char, c.isDigit = false → c ≠ '.' → c ∉ cs := by
    intro c hdigit hpoint hc
    rcases hmem c hc with h | h
    · simp [h] at hdigit
    · exact hpoint h
  have hmark : (if negative then '-' :: cs else cs).getLast? ≠ some 'f' := by
    intro hlast
    have hf := List.mem_of_getLast? hlast
    cases negative with
    | false => exact hout 'f' (by decide) (by decide) hf
    | true => exact hout 'f' (by decide) (by decide) (by simpa using hf)
  have hsign : splitSign (if negative then '-' :: cs else cs) = (negative, cs) := by
    cases negative with
    | false =>
      exact splitSign_of_not_mem (hout '-' (by decide) (by decide)) (hout '+' (by decide) (by decide))
    | true => rfl
  unfold readFloat? readFloatChars?
  simp [hmark, hsign, hread]

end TypedLiterals
