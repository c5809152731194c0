import TypedLiterals.Proofs.Coercion.FloatAsInt
import TypedLiterals.Proofs.Coercion.Locality
import TypedLiterals.Proofs.Number.DecimalText

/-!
A floating-point literal with a fraction of zero where an integer is expected. Up to a limit just
above the range of 64 bits it is read like the integer that is written before its point, and all
literals above the limit are refused for what they are.
-/

namespace TypedLiterals

theorem ofDigits_of_zeros {digits : List Char} (h : ∀ c ∈ digits, c = '0') :
    ofDigits 10 digits = 0 := by
  rw [List.eq_replicate_of_mem h]
  exact ofDigits_zeros _

theorem nearWhole_zero (whole scale : Nat) : NearWhole whole 0 scale := by
  unfold NearWhole
  split_ifs <;> simp

namespace Verdict

variable {token : Token} {type : PrimType} {range : IntRange} {whole fraction : List Char}

-- No natural number is below the range of an integer type.
theorem not_lt_least (hrange : type.range? = some range) (n : Nat) : ¬(n : Int) < range.least := by
  have hleast := PrimType.least_nonpos hrange
  omega

/-- The greatest whole number of a floating-point literal that is read as an integer. It lies half
of a step above the range of 64 bits. -/
def greatestWhole : Nat := 2 ^ 63 + 2 ^ 10

theorem floatAsInt_of_whole (htext : PointText token.text whole fraction)
    (hzero : ∀ c ∈ fraction, c = '0') (hrange : type.range? = some range)
    (hlimit : ofDigits 10 whole ≤ greatestWhole) :
    floatAsInt token type =
      if range.greatest < ofDigits 10 whole then
        refused (.tooLarge (String.ofList whole) type range.greatest)
      else accepted (.literal (.castInt token type (some (String.ofList whole)))) := by
  have hpart := ofDigits_of_zeros hzero
  have hnear : NearWhole (ofDigits 10 whole) (ofDigits 10 fraction) (10 ^ fraction.length) := by
    rw [hpart]
    exact nearWhole_zero _ _
  have hbound : ofDigits 10 whole * 10 ^ fraction.length + ofDigits 10 fraction ≤
      (2 ^ 63 + 2 ^ 10) * 10 ^ fraction.length := by
    rw [hpart]
    exact Nat.mul_le_mul_right _ hlimit
  rw [floatAsInt_of_near htext hrange hnear hbound, if_neg (not_lt_least hrange _)]

theorem floatAsInt_of_beyond (type : PrimType) (htext : PointText token.text whole fraction)
    (hlimit : greatestWhole < ofDigits 10 whole) :
    ∃ finding, floatAsInt token type = refused finding ∧
      finding.kind = .invalidTypeConversion := by
  apply floatAsInt_of_far type htext
  rintro ⟨-, hbound⟩
  have hscale : 0 < 10 ^ fraction.length := Nat.pow_pos (by decide)
  have hle : ofDigits 10 whole ≤ greatestWhole :=
    Nat.le_of_mul_le_mul_right (Nat.le_trans (Nat.le_add_right _ _) hbound) hscale
  omega

theorem ofToken_of_digits (scope : Scope) {integer : Token}
    (hkind : integer.kind = .integerLiteral) (htext : integer.text = String.ofList whole)
    (hne : whole ≠ []) (hdigits : ∀ c ∈ whole, c.isDigit = true)
    (hrange : type.range? = some range) :
    ofToken scope integer (some type) =
      if range.greatest < ofDigits 10 whole then
        refused (.tooLarge (String.ofList whole) type range.greatest)
      else accepted (.literal (.castInt integer type)) := by
  have hvalue : readInteger? integer.text = some (ofDigits 10 whole : Int) := by
    rw [htext]
    exact readInteger?_ofList_digits hne hdigits
  rw [ofToken_of_range scope hkind hvalue hrange, intAsInt_of_range hvalue hrange,
    if_neg (not_lt_least hrange _), htext]

end Verdict

namespace Pass

/-- A floating-point literal and an integer literal at the same place are both refused with the same
issue, or both become an integer of the type with this value. The one that has a point keeps the
text of the other one. -/
def ReadsAlike (p q : Pass) (token integer : Token) (type : PrimType) (range : IntRange)
    (value : Nat) : Prop :=
  ((value : Int) ≤ range.greatest ∧
      Adds p (some (.literal (.castInt token type (some integer.text)))) []
        (p.readExpression (some type)) ∧
      Adds q (some (.literal (.castInt integer type))) [] (q.readExpression (some type)) ∧
      (Literal.castInt token type (some integer.text)).intValue? = some (value : Int) ∧
      (Literal.castInt integer type).intValue? = some (value : Int)) ∨
    (range.greatest < value ∧ ∃ issue : Issue, issue.kind = .integerOverflow ∧
      issue.location = { token.place with file := p.file } ∧
      Adds p none [issue] (p.readExpression (some type)) ∧
      Adds q none [issue] (q.readExpression (some type)))

variable {p q : Pass} {token integer : Token} {type : PrimType} {range : IntRange}
  {whole fraction : List Char}

/-- Literals with a fraction of zero are read like integers up to the limit, which is the same for
all types, and are refused beyond it. -/
theorem readExpression_whole (hp : p.reader.current? = some token)
    (hkind : token.kind = .floatingLiteral) (htext : PointText token.text whole fraction)
    (hzero : ∀ c ∈ fraction, c = '0')
    (hq : q.reader.current? = some integer) (hinteger : integer.kind = .integerLiteral)
    (hdigits : integer.text = String.ofList whole) (hplace : integer.place = token.place)
    (hfile : q.file = p.file) (hrange : type.range? = some range) :
    (ofDigits 10 whole ≤ Verdict.greatestWhole →
      ReadsAlike p q token integer type range (ofDigits 10 whole)) ∧
    (Verdict.greatestWhole < ofDigits 10 whole →
      ∃ issue : Issue, issue.kind = .invalidTypeConversion ∧
        issue.location = { token.place with file := p.file } ∧
        Adds p none [issue] (p.readExpression (some type))) := by
  have hfloat := readExpression_adds hp (some type)
  have hint := readExpression_adds hq (some type)
  rw [Verdict.ofToken_of_float p.scope hkind hrange] at hfloat
  rw [Verdict.ofToken_of_digits q.scope hinteger hdigits htext.whole_ne htext.whole_digits
    hrange] at hint
  have hlocation : q.locationOf integer = p.locationOf token := by
    rw [locationOf, locationOf, hplace, hfile]
  constructor
  · intro hlimit
    rw [Verdict.floatAsInt_of_whole htext hzero hrange hlimit] at hfloat
    by_cases habove : range.greatest < (ofDigits 10 whole : Int)
    · right
      rw [if_pos habove] at hfloat hint
      rw [hlocation] at hint
      exact ⟨habove, _, rfl, rfl, hfloat, hint⟩
    · left
      rw [if_neg habove] at hfloat hint
      have hvalue : readInteger? integer.text = some (ofDigits 10 whole : Int) := by
        rw [hdigits]
        exact readInteger?_ofList_digits htext.whole_ne htext.whole_digits
      rw [← hdigits] at hfloat
      exact ⟨Int.not_lt.mp habove, hfloat, hint, hvalue, hvalue⟩
  · intro hlimit
    obtain ⟨finding, hrefused, hconversion⟩ := Verdict.floatAsInt_of_beyond type htext hlimit
    rw [hrefused] at hfloat
    exact ⟨_, hconversion, rfl, hfloat⟩

/-- The limit itself is read like an integer, and the unsigned type of 64 bits has it. -/
theorem readExpression_whole_limit :
    ReadsAlike (ofTokens [⟨.floatingLiteral, "9223372036854776832.00f", ⟨1, 1⟩⟩] "a.lang")
      (ofTokens [⟨.integerLiteral, "9223372036854776832", ⟨1, 1⟩⟩] "a.lang")
      ⟨.floatingLiteral, "9223372036854776832.00f", ⟨1, 1⟩⟩
      ⟨.integerLiteral, "9223372036854776832", ⟨1, 1⟩⟩ (.unsigned .w64) (.unsigned 64)
      (ofDigits 10 "9223372036854776832".toList) := by
  have hp : (ofTokens [⟨.floatingLiteral, "9223372036854776832.00f", ⟨1, 1⟩⟩]
      "a.lang").reader.current? =
        some ⟨.floatingLiteral, "9223372036854776832.00f", ⟨1, 1⟩⟩ := rfl
  have hq : (ofTokens [⟨.integerLiteral, "9223372036854776832", ⟨1, 1⟩⟩]
      "a.lang").reader.current? = some ⟨.integerLiteral, "9223372036854776832", ⟨1, 1⟩⟩ := rfl
  have htext : PointText "9223372036854776832.00f" "9223372036854776832".toList ['0', '0'] :=
    ⟨by simp, by simp, by simp, by simp, .inr (by decide +kernel)⟩
  have hdigits : "9223372036854776832" = String.ofList "9223372036854776832".toList := by
    decide +kernel
  have hrange : (PrimType.unsigned .w64).range? = some (.unsigned 64) := rfl
  exact (readExpression_whole hp rfl htext (by simp) hq rfl hdigits rfl rfl hrange).1
    (by decide +kernel)

end Pass

end TypedLiterals
