import Mathlib.Data.List.Forall2
import Mathlib.Data.Nat.Digits.Defs
import TypedLiterals.Proofs.Number.IntegerForm

/-!
The grammar of integers: a sign or none, and then decimal digits, or `0x` or `0X` and hexadecimal
digits. A text is read as an integer exactly if the grammar has it, and its value is the sign
applied to what the digits write by their places. So every integer is read from each way to write
it, of whatever size it is and however many zeros stand in front.
-/

namespace TypedLiterals

/-- One or more digits of a base, and the number that they write by their places. -/
structure Numeral (base : Nat) (row : List Char) (n : Nat) : Prop where
  ne : row ≠ []
  value : ∃ values, List.Forall₂ (DigitOf base) row values ∧ Nat.ofDigits base values.reverse = n

inductive SignText : List Char → Bool → Prop where
  | none : SignText [] false
  | plus : SignText ['+'] false
  | minus : SignText ['-'] true

inductive MagnitudeText : List Char → Nat → Prop where
  | decimal {row : List Char} {n : Nat} (digits : Numeral 10 row n) : MagnitudeText row n
  | hexadecimal {mark : Char} {row : List Char} {n : Nat} (isMark : mark = 'x' ∨ mark = 'X')
      (digits : Numeral 16 row n) : MagnitudeText ('0' :: mark :: row) n

def withSign (negative : Bool) (n : Nat) : Int :=
  if negative then -(n : Int) else n

/-- A text of the grammar and its value. -/
inductive IntegerText (text : String) : Int → Prop where
  | intro {sign magnitude : List Char} {negative : Bool} {n : Nat}
      (split : text.toList = sign ++ magnitude) (isSign : SignText sign negative)
      (isMagnitude : MagnitudeText magnitude n) : IntegerText text (withSign negative n)

variable {base value n : Nat} {c mark : Char} {row cs sign magnitude : List Char}
  {accept : Char → Bool} {negative : Bool} {text : String}

section Digits

-- What is added up from the left counts by places.
theorem ofDigits_eq_ofDigits_reverse (base : Nat) (row : List Char) :
    ofDigits base row = Nat.ofDigits base (row.map digitValue).reverse := by
  induction row with
  | nil => rfl
  | cons d row ih =>
    rw [ofDigits_cons, List.map_cons, Nat.ofDigits_reverse_cons, List.length_map, ih, Nat.add_comm,
      Nat.mul_comm]

theorem numeral_iff (haccept : ∀ c value, DigitOf base c value ↔
    accept c = true ∧ digitValue c = value) :
    Numeral base row n ↔ row ≠ [] ∧ (∀ c ∈ row, accept c = true) ∧ ofDigits base row = n := by
  have hrel : DigitOf base = fun c value => accept c = true ∧ digitValue c = value := by
    funext c value
    exact propext (haccept c value)
  have hvalues (values : List Nat) : List.Forall₂ (DigitOf base) row values ↔
      (∀ c ∈ row, accept c = true) ∧ row.map digitValue = values := by
    rw [hrel, List.forall₂_and_left, ← List.forall₂_map_left_iff (R := Eq), List.forall₂_eq_eq_eq]
  rw [ofDigits_eq_ofDigits_reverse]
  constructor
  · rintro ⟨hne, values, hdigits, hvalue⟩
    obtain ⟨haccepted, rfl⟩ := (hvalues values).mp hdigits
    exact ⟨hne, haccepted, hvalue⟩
  · rintro ⟨hne, haccepted, hvalue⟩
    exact ⟨hne, _, (hvalues _).mpr ⟨haccepted, rfl⟩, hvalue⟩

theorem readDigits?_eq_some_iff (haccept : ∀ c value, DigitOf base c value ↔
    accept c = true ∧ digitValue c = value) :
    readDigits? base accept row = some n ↔ Numeral base row n := by
  rw [numeral_iff haccept, readDigits?, ← and_assoc, ← List.all_eq_true]
  split
  · rename_i hrow
    rw [Option.some.injEq]
    exact (and_iff_right hrow).symm
  · rename_i hrow
    exact iff_of_false (Option.some_ne_none n).symm fun h => hrow h.1

end Digits

section Reading

theorem readMagnitude?_eq_some_iff : readMagnitude? cs = some n ↔ MagnitudeText cs n := by
  have hten (row : List Char) : readDigits? 10 Char.isDigit row = some n ↔ Numeral 10 row n :=
    readDigits?_eq_some_iff fun _ _ => digitOf_ten_iff
  have hsixteen (row : List Char) : readDigits? 16 isHexDigit row = some n ↔ Numeral 16 row n :=
    readDigits?_eq_some_iff fun _ _ => digitOf_sixteen_iff
  constructor
  · intro h
    rw [readMagnitude?.eq_def] at h
    split at h
    · exact .hexadecimal (.inl rfl) ((hsixteen _).mp h)
    · exact .hexadecimal (.inr rfl) ((hsixteen _).mp h)
    · exact .decimal ((hten _).mp h)
  · intro h
    cases h with
    | decimal digits =>
      obtain ⟨hne, hdigits, hvalue⟩ := (numeral_iff fun _ _ => digitOf_ten_iff).mp digits
      rw [readMagnitude?_of_digits hne hdigits, hvalue]
    | hexadecimal isMark digits =>
      rcases isMark with rfl | rfl
      · exact (hsixteen _).mpr digits
      · exact (hsixteen _).mpr digits

theorem exists_signText (cs : List Char) :
    ∃ sign, cs = sign ++ (splitSign cs).2 ∧ SignText sign (splitSign cs).1 := by
  rw [splitSign.eq_def]
  split
  · exact ⟨['-'], rfl, .minus⟩
  · exact ⟨['+'], rfl, .plus⟩
  · exact ⟨[], rfl, .none⟩

theorem SignText.splitSign (h : SignText sign negative) (hmagnitude : MagnitudeText magnitude n) :
    splitSign (sign ++ magnitude) = (negative, magnitude) := by
  have hnatural := naturalText_of_readMagnitude? (readMagnitude?_eq_some_iff.mpr hmagnitude)
  cases h with
  | none =>
    cases magnitude with
    | nil => rfl
    | cons d rest => exact splitSign_of_digit (hnatural.isDigit_of_head? rfl)
  | plus => rfl
  | minus => rfl

theorem readInteger?_eq_some_iff (text : String) (value : Int) :
    readInteger? text = some value ↔ IntegerText text value := by
  rw [readInteger?_eq_map]
  constructor
  · intro h
    obtain ⟨n, hn, rfl⟩ := Option.map_eq_some_iff.mp h
    obtain ⟨sign, hsplit, hsign⟩ := exists_signText text.toList
    exact .intro hsplit hsign (readMagnitude?_eq_some_iff.mp hn)
  · intro h
    cases h with
    | intro split isSign isMagnitude =>
      rw [split, isSign.splitSign isMagnitude, readMagnitude?_eq_some_iff.mpr isMagnitude]
      rfl

end Reading

section Writing

theorem Numeral.zeros (h : Numeral base row n) (hbase : 0 < base) (k : Nat) :
    Numeral base (List.replicate k '0' ++ row) n := by
  induction k with
  | zero => exact h
  | succ k ih =>
    obtain ⟨-, values, hdigits, hvalue⟩ := ih
    refine ⟨nofun, 0 :: values, .cons ⟨hbase, .inl rfl⟩ hdigits, ?_⟩
    rw [Nat.ofDigits_reverse_zero_cons, hvalue]

theorem Numeral.toUpper (h : Numeral base row n) (hbase : base ≤ 16) :
    Numeral base (row.map Char.toUpper) n := by
  obtain ⟨hne, values, hdigits, hvalue⟩ := h
  refine ⟨mt List.map_eq_nil_iff.mp hne, values, ?_, hvalue⟩
  exact List.forall₂_map_left_iff.mpr (hdigits.imp fun _ _ hdigit => hdigit.toUpper hbase)

theorem numeral_toDigits (hone : 1 < base) (n : Nat) : Numeral base (Nat.toDigits base n) n := by
  induction n using Nat.strongRecOn with
  | ind n ih =>
    by_cases hlt : n < base
    · rw [Nat.toDigits_of_lt_base hlt]
      exact ⟨nofun, [n], .cons ⟨hlt, .inl rfl⟩ .nil, Nat.ofDigits_singleton⟩
    · have hle : base ≤ n := Nat.le_of_not_lt hlt
      obtain ⟨-, values, hdigits, hvalue⟩ := ih (n / base) (Nat.div_lt_self (by omega) hone)
      rw [Nat.toDigits_of_base_le hone hle]
      refine ⟨by simp, values ++ [n % base], ?_, ?_⟩
      · exact List.rel_append hdigits (.cons ⟨Nat.mod_lt n (by omega), .inl rfl⟩ .nil)
      · rw [List.reverse_append, List.reverse_singleton, List.singleton_append, Nat.ofDigits_cons,
          hvalue, Nat.mod_add_div]

/-- A sign and decimal digits, with zeros in front of them. -/
def decimalText (sign : List Char) (zeros n : Nat) : String :=
  String.ofList (sign ++ (List.replicate zeros '0' ++ Nat.toDigits 10 n))

/-- A sign, the mark of a hexadecimal integer and digits, with zeros in front of them. -/
def hexText (sign : List Char) (mark : Char) (zeros : Nat) (upper : Bool) (n : Nat) : String :=
  let digits := Nat.toDigits 16 n
  String.ofList (sign ++ '0' :: mark ::
    (List.replicate zeros '0' ++ if upper then digits.map Char.toUpper else digits))

theorem integerText_decimalText (h : SignText sign negative) (zeros n : Nat) :
    IntegerText (decimalText sign zeros n) (withSign negative n) := by
  have hdigits : Numeral 10 (Nat.toDigits 10 n) n := numeral_toDigits (by decide) n
  exact .intro String.toList_ofList h (.decimal (hdigits.zeros (by decide) zeros))

theorem integerText_hexText (h : SignText sign negative) (hmark : mark = 'x' ∨ mark = 'X')
    (zeros : Nat) (upper : Bool) (n : Nat) :
    IntegerText (hexText sign mark zeros upper n) (withSign negative n) := by
  have hlower : Numeral 16 (Nat.toDigits 16 n) n := numeral_toDigits (by decide) n
  have hdigits : Numeral 16
      (if upper then (Nat.toDigits 16 n).map Char.toUpper else Nat.toDigits 16 n) n := by
    split
    · exact hlower.toUpper (Nat.le_refl 16)
    · exact hlower
  exact .intro String.toList_ofList h (.hexadecimal hmark (hdigits.zeros (by decide) zeros))

end Writing

/-- Exactly the texts of the grammar are read, each with its value. So every integer is read from
its decimal and from its hexadecimal digits, behind a sign that goes with it and any zeros. -/
theorem readInteger?_exact :
    (∀ (text : String) (value : Int), readInteger? text = some value ↔ IntegerText text value) ∧
    ∀ (i : Int) (sign : List Char) (negative : Bool) (zeros : Nat),
      SignText sign negative → withSign negative i.natAbs = i →
      readInteger? (decimalText sign zeros i.natAbs) = some i ∧
        ∀ (mark : Char) (upper : Bool), mark = 'x' ∨ mark = 'X' →
          readInteger? (hexText sign mark zeros upper i.natAbs) = some i := by
  refine ⟨readInteger?_eq_some_iff, ?_⟩
  intro i sign negative zeros hsign hvalue
  have hdecimal := integerText_decimalText hsign zeros i.natAbs
  rw [hvalue] at hdecimal
  refine ⟨(readInteger?_eq_some_iff _ i).mpr hdecimal, ?_⟩
  intro mark upper hmark
  have hhex := integerText_hexText hsign hmark zeros upper i.natAbs
  rw [hvalue] at hhex
  exact (readInteger?_eq_some_iff _ i).mpr hhex

/-- A negative integer behind two zeros, in capital letters. -/
theorem readInteger?_exact_capitals :
    hexText ['-'] 'X' 2 true 48879 = "-0X00BEEF" ∧ SignText ['-'] true ∧
      withSign true (-48879 : Int).natAbs = -48879 ∧
      readInteger? (hexText ['-'] 'X' 2 true 48879) = some (-48879) :=
  ⟨by decide +kernel, .minus, rfl,
    (readInteger?_exact.2 (-48879) ['-'] true 2 .minus rfl).2 'X' true (.inr rfl)⟩

end TypedLiterals
