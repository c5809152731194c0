import TypedLiterals.Text.Character

/-!
Classes of characters by their codes, and digits by their values. The digits of a base are the
characters that the library writes for the values below it, the letters among them in either case.
-/

namespace TypedLiterals

variable {c : Char} {base value : Nat}

section Codes

theorem toNat_of_isAlpha (h : c.isAlpha = true) :
    (65 ≤ c.toNat ∧ c.toNat ≤ 90) ∨ (97 ≤ c.toNat ∧ c.toNat ≤ 122) := by
  have hcase : (c.isUpper || c.isLower) = true := h
  rw [Bool.or_eq_true] at hcase
  rcases hcase with hupper | hlower
  · exact .inl (of_decide_eq_true hupper)
  · have hletter : (decide (c.val ≥ 'a'.val) && decide (c.val ≤ 'z'.val)) = true := hlower
    rw [Bool.and_eq_true] at hletter
    exact .inr ⟨of_decide_eq_true hletter.1, of_decide_eq_true hletter.2⟩

theorem toNat_of_isHexDigit (h : isHexDigit c = true) :
    (48 ≤ c.toNat ∧ c.toNat ≤ 57) ∨ (65 ≤ c.toNat ∧ c.toNat ≤ 70) ∨
      (97 ≤ c.toNat ∧ c.toNat ≤ 102) := by
  simp only [isHexDigit, Bool.or_eq_true, Bool.and_eq_true, decide_eq_true_eq] at h
  rcases h with (hdigit | ⟨hlow, hhigh⟩) | ⟨hlow, hhigh⟩
  · exact .inl (Char.isDigit_iff_toNat.mp hdigit)
  · exact .inr (.inr ⟨hlow, hhigh⟩)
  · exact .inr (.inl ⟨hlow, hhigh⟩)

theorem isWordChar_of_isNameChar (h : isNameChar c = true) : isWordChar c = true := by
  have hascii : c.toNat < 0x80 := by
    rw [isNameChar, Char.isAlphanum, Bool.or_eq_true, Bool.or_eq_true, decide_eq_true_eq] at h
    rcases h with (hletter | hdigit) | rfl
    · have hbounds := toNat_of_isAlpha hletter
      omega
    · have hbounds : c.toNat ≤ 57 := (Char.isDigit_iff_toNat.mp hdigit).2
      omega
    · decide
  rw [isWordChar, if_pos hascii, h]

theorem isWordChar_of_isDigit (h : c.isDigit = true) : isWordChar c = true := by
  apply isWordChar_of_isNameChar
  rw [isNameChar, Char.isAlphanum, h, Bool.or_true, Bool.true_or]

theorem isNameChar_of_isNameStart (h : isNameStart c = true) : isNameChar c = true := by
  rw [isNameStart, Bool.or_eq_true] at h
  rw [isNameChar, Char.isAlphanum]
  rcases h with h | h
  · rw [h, Bool.true_or, Bool.true_or]
  · rw [h, Bool.or_true]

theorem isWordChar_of_isNameStart (h : isNameStart c = true) : isWordChar c = true :=
  isWordChar_of_isNameChar (isNameChar_of_isNameStart h)

theorem not_isDigit_of_isNameStart (h : isNameStart c = true) : c.isDigit = false := by
  rw [Bool.eq_false_iff]
  intro hdigit
  have hbounds : c.toNat ≤ 57 := (Char.isDigit_iff_toNat.mp hdigit).2
  rw [isNameStart, Bool.or_eq_true, decide_eq_true_eq] at h
  rcases h with hletter | rfl
  · have hletters := toNat_of_isAlpha hletter
    omega
  · cases hdigit

end Codes

section Digits

/-- The character is a digit of a base and has this value. A letter may be of either case. -/
structure DigitOf (base : Nat) (c : Char) (value : Nat) : Prop where
  lt : value < base
  shape : c = Nat.digitChar value ∨ c = (Nat.digitChar value).toUpper

theorem digitValue_of_isDigit (hc : c.isDigit = true) :
    digitValue c = c.toNat - '0'.toNat := by
  rw [digitValue, if_pos hc]

theorem digitValue_lt_ten (hc : c.isDigit = true) : digitValue c < 10 := by
  rcases Char.isDigit_iff_toNat.mp hc with ⟨-, hnine⟩
  rw [digitValue_of_isDigit hc]
  have hwidth : '9'.toNat - '0'.toNat < 10 := by decide
  omega

theorem digitOf_sixteen_iff :
    DigitOf 16 c value ↔ isHexDigit c = true ∧ digitValue c = value := by
  constructor
  · rintro ⟨hlt, hshape⟩
    have hlower : ∀ v < 16, isHexDigit (Nat.digitChar v) = true ∧
        digitValue (Nat.digitChar v) = v := by decide
    have hupper : ∀ v < 16, isHexDigit (Nat.digitChar v).toUpper = true ∧
        digitValue (Nat.digitChar v).toUpper = v := by decide
    rcases hshape with rfl | rfl
    · exact hlower value hlt
    · exact hupper value hlt
  · rintro ⟨hhex, rfl⟩
    -- The digits are found among the characters up to the last of them.
    have htable : ∀ code < 103, isHexDigit (Char.ofNat code) = true →
        digitValue (Char.ofNat code) < 16 ∧
          (Char.ofNat code = Nat.digitChar (digitValue (Char.ofNat code)) ∨
            Char.ofNat code = (Nat.digitChar (digitValue (Char.ofNat code))).toUpper) := by
      decide
    have hbounds := toNat_of_isHexDigit hhex
    have hfound := htable c.toNat (by omega)
    rw [Char.ofNat_toNat] at hfound
    exact ⟨(hfound hhex).1, (hfound hhex).2⟩

theorem digitValue_lt_sixteen (h : isHexDigit c = true) : digitValue c < 16 :=
  (digitOf_sixteen_iff.mpr ⟨h, rfl⟩).lt

theorem digitOf_ten_iff : DigitOf 10 c value ↔ c.isDigit = true ∧ digitValue c = value := by
  constructor
  · rintro ⟨hlt, hshape⟩
    have hdigits : ∀ v < 10, (Nat.digitChar v).toUpper = Nat.digitChar v ∧
        (Nat.digitChar v).isDigit = true ∧ digitValue (Nat.digitChar v) = v := by decide
    obtain ⟨hupper, hdigit⟩ := hdigits value hlt
    rw [hupper, or_self] at hshape
    rw [hshape]
    exact hdigit
  · rintro ⟨hdigit, rfl⟩
    have hhex : isHexDigit c = true := by simp [isHexDigit, hdigit]
    exact ⟨digitValue_lt_ten hdigit, (digitOf_sixteen_iff.mpr ⟨hhex, rfl⟩).shape⟩

theorem DigitOf.toUpper (h : DigitOf base c value) (hbase : base ≤ 16) :
    DigitOf base c.toUpper value := by
  have htwice : ∀ v < 16, (Nat.digitChar v).toUpper.toUpper = (Nat.digitChar v).toUpper := by
    decide
  refine ⟨h.lt, .inr ?_⟩
  rcases h.shape with rfl | rfl
  · rfl
  · exact htwice value (Nat.lt_of_lt_of_le h.lt hbase)

end Digits

end TypedLiterals
