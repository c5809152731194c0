import TypedLiterals.Proofs.Coercion.IntegerRange
import TypedLiterals.Proofs.Number.PointText
import TypedLiterals.Proofs.Number.Whole
import TypedLiterals.Token.Lexer

/-!
A floating-point literal where an integer is expected. What is kept are the digits before the point,
and they are always within the range of the type. The fraction is tested on the nearest number of
double precision, so a fraction that rounding cannot tell from nothing, or from one, is lost.
-/

namespace TypedLiterals

/-- Whether a literal with these digits before and behind the point becomes an integer of the
range. -/
def PassesAsInteger (whole fraction : List Char) (range : IntRange) : Prop :=
  NearWhole (ofDigits 10 whole) (ofDigits 10 fraction) (10 ^ fraction.length) ∧
    ofDigits 10 whole * 10 ^ fraction.length + ofDigits 10 fraction ≤
      (2 ^ 63 + 2 ^ 10) * 10 ^ fraction.length ∧
    range.least ≤ ofDigits 10 whole ∧ ofDigits 10 whole ≤ range.greatest
deriving Decidable

namespace Verdict

variable {token : Token} {type : PrimType} {range : IntRange} {whole fraction : List Char}

theorem ofToken_of_float (scope : Scope) (hkind : token.kind = .floatingLiteral)
    (hrange : type.range? = some range) :
    ofToken scope token (some type) = floatAsInt token type := by
  cases type with
  | bool => cases hrange
  | float width => cases hrange
  | signed width => simp only [ofToken, hkind, ofFloat]
  | unsigned width => simp only [ofToken, hkind, ofFloat]

-- What passes the test is the number before the point, if the type has it.
theorem floatAsInt_of_near (htext : PointText token.text whole fraction)
    (hrange : type.range? = some range)
    (hnear : NearWhole (ofDigits 10 whole) (ofDigits 10 fraction) (10 ^ fraction.length))
    (hbound : ofDigits 10 whole * 10 ^ fraction.length + ofDigits 10 fraction ≤
      (2 ^ 63 + 2 ^ 10) * 10 ^ fraction.length) :
    floatAsInt token type =
      if range.greatest < ofDigits 10 whole then
        refused (.tooLarge (String.ofList whole) type range.greatest)
      else if (ofDigits 10 whole : Int) < range.least then
        refused (.tooSmall (String.ofList whole) type range.least)
      else accepted (.literal (.castInt token type (some (String.ofList whole)))) := by
  have hpart : ofDigits 10 fraction < 10 ^ fraction.length := ofDigits_lt htext.fraction_digits
  have htest := (Binary64.equals_toInt64_ofUnits_iff hpart).mpr ⟨hnear, hbound⟩
  have hvalue : readInteger? (String.ofList whole) = some (ofDigits 10 whole : Int) :=
    readInteger?_ofList_digits htext.whole_ne htext.whole_digits
  simp only [floatAsInt, htext.readFloat?_eq, htext.takeWhile_eq]
  rw [if_pos htest, rangeFault?_of_range hvalue hrange]
  split_ifs <;> rfl

theorem floatAsInt_of_far (type : PrimType) (htext : PointText token.text whole fraction)
    (hfar : ¬(NearWhole (ofDigits 10 whole) (ofDigits 10 fraction) (10 ^ fraction.length) ∧
      ofDigits 10 whole * 10 ^ fraction.length + ofDigits 10 fraction ≤
        (2 ^ 63 + 2 ^ 10) * 10 ^ fraction.length)) :
    ∃ finding, floatAsInt token type = refused finding ∧
      finding.kind = .invalidTypeConversion := by
  have hpart : ofDigits 10 fraction < 10 ^ fraction.length := ofDigits_lt htext.fraction_digits
  have htest := mt (Binary64.equals_toInt64_ofUnits_iff hpart).mp hfar
  simp only [floatAsInt, htext.readFloat?_eq, htext.takeWhile_eq]
  rw [if_neg htest]
  split_ifs
  · exact ⟨_, rfl, rfl⟩
  · exact ⟨_, rfl, rfl⟩

-- The value that is tested is near to the written one, and the test of the range is about the
-- digits before the point.
theorem floatAsInt_of_pointText (htext : PointText token.text whole fraction)
    (hrange : type.range? = some range) :
    floatAsInt token type = accepted (.literal (.castInt token type (some (String.ofList whole)))) ∧
        PassesAsInteger whole fraction range ∨
      (∃ finding, floatAsInt token type = refused finding) ∧
        ¬PassesAsInteger whole fraction range := by
  by_cases htest : NearWhole (ofDigits 10 whole) (ofDigits 10 fraction) (10 ^ fraction.length) ∧
      ofDigits 10 whole * 10 ^ fraction.length + ofDigits 10 fraction ≤
        (2 ^ 63 + 2 ^ 10) * 10 ^ fraction.length
  · rw [floatAsInt_of_near htext hrange htest.1 htest.2]
    by_cases habove : range.greatest < (ofDigits 10 whole : Int)
    · right
      rw [if_pos habove]
      exact ⟨⟨_, rfl⟩, fun h => by have := h.2.2.2; omega⟩
    · by_cases hbelow : (ofDigits 10 whole : Int) < range.least
      · right
        rw [if_neg habove, if_pos hbelow]
        exact ⟨⟨_, rfl⟩, fun h => by have := h.2.2.1; omega⟩
      · left
        rw [if_neg habove, if_neg hbelow]
        exact ⟨rfl, htest.1, htest.2, by omega, by omega⟩
  · right
    obtain ⟨finding, hrefused, -⟩ := floatAsInt_of_far type htext htest
    exact ⟨⟨finding, hrefused⟩, fun h => htest ⟨h.1, h.2.1⟩⟩

end Verdict

namespace Pass

/-- The node that is read is an integer literal of the type. Its value is the number that the digits
write, and the range has it. -/
def ReadsInteger (p : Pass) (type : PrimType) (range : IntRange) (whole : List Char) : Prop :=
  ∃ number : Numeric,
    (p.readExpression (some type)).2.arena.get? (p.readExpression (some type)).1 =
        some (.literal (.int number)) ∧
      number.type = type ∧
      (Literal.int number).intValue? = some (ofDigits 10 whole : Int) ∧
      range.contains (ofDigits 10 whole) = true

/-- Nothing is lost: a node is read only for a literal without a fraction, and it has the value of
the literal. -/
def ReadsExactly (p : Pass) (type : PrimType) (range : IntRange) (whole fraction : List Char) :
    Prop :=
  (p.readExpression (some type)).1 ≠ .void →
    (∀ c ∈ fraction, c = '0') ∧ p.ReadsInteger type range whole

variable {p : Pass} {token : Token} {type : PrimType} {range : IntRange}
  {whole fraction : List Char}

/-- When a floating-point literal becomes an integer, what the integer is, and when the two are
equal: the literals that pass with a fraction that is not zero are those that lose it. -/
theorem readExpression_point (hcurrent : p.reader.current? = some token)
    (hkind : token.kind = .floatingLiteral) (htext : PointText token.text whole fraction)
    (hrange : type.range? = some range) :
    ((p.readExpression (some type)).1 ≠ .void ↔ PassesAsInteger whole fraction range) ∧
    ((p.readExpression (some type)).1 ≠ .void → p.ReadsInteger type range whole) ∧
    (p.ReadsExactly type range whole fraction ↔
      (∀ c ∈ fraction, c = '0') ∨ ¬PassesAsInteger whole fraction range) := by
  have hread := readExpression_of_current hcurrent (some type)
  rw [Verdict.ofToken_of_float p.scope hkind hrange] at hread
  have hnode : (p.readExpression (some type)).1 ≠ .void ↔
      PassesAsInteger whole fraction range := by
    obtain ⟨hverdict, hpasses⟩ | ⟨⟨finding, hverdict⟩, hpasses⟩ :=
      Verdict.floatAsInt_of_pointText htext hrange
    · rw [hread, hverdict]
      exact ⟨fun _ => hpasses, fun _ => nofun⟩
    · rw [hread, hverdict]
      exact ⟨fun h => absurd rfl h, fun h => absurd h hpasses⟩
  have hkept : (p.readExpression (some type)).1 ≠ .void → p.ReadsInteger type range whole := by
    intro h
    obtain ⟨hverdict, -, -, hleast, hgreatest⟩ | ⟨-, hpasses⟩ :=
      Verdict.floatAsInt_of_pointText htext hrange
    · refine ⟨⟨token, type, some type, some (String.ofList whole)⟩, ?_, rfl, ?_, ?_⟩
      · rw [hread, hverdict]
        exact Arena.get?_insert_self _ _
      · exact readInteger?_ofList_digits htext.whole_ne htext.whole_digits
      · rw [IntRange.contains, decide_eq_true hleast, decide_eq_true hgreatest]
        rfl
    · exact absurd (hnode.mp h) hpasses
  refine ⟨hnode, hkept, ?_⟩
  rw [ReadsExactly, hnode]
  refine ⟨?_, ?_⟩
  · intro h
    by_cases hpasses : PassesAsInteger whole fraction range
    · exact .inl (h hpasses).1
    · exact .inr hpasses
  · rintro (hzero | hpasses) h
    · exact ⟨hzero, hkept (hnode.mpr h)⟩
    · exact absurd h hpasses

/-- A literal with a fraction of zero that is the greatest value of its type. -/
theorem readExpression_point_greatest :
    (ofTokens [⟨.floatingLiteral, "255.00f", ⟨1, 1⟩⟩] "a.lang").ReadsExactly (.unsigned .w8)
      (.unsigned 8) ['2', '5', '5'] ['0', '0'] :=
  (readExpression_point rfl rfl
    ⟨by simp, by simp, by simp, by simp, .inr (by decide +kernel)⟩
    rfl).2.2.mpr (.inl (by simp))

/-- A fraction that is lost without a report. The number that was tested for a fraction is 2, and
the value that is kept is 1. -/
theorem not_readsExactly_of_tokenize :
    Lexer.tokenize {} "1.99999999999999999999" =
        .ok [⟨.floatingLiteral, "1.99999999999999999999", ⟨1, 1⟩⟩] ∧
      readFloat? "1.99999999999999999999" = some (.ofInt 2) ∧
      ¬(ofTokens [⟨.floatingLiteral, "1.99999999999999999999", ⟨1, 1⟩⟩] "a.lang").ReadsExactly
        (.signed .w32) (.signed 32) ['1'] (List.replicate 20 '9') := by
  refine ⟨by decide +kernel, by decide +kernel, ?_⟩
  intro h
  have hzero := (h (by decide +kernel)).1
  exact absurd hzero (by simp)

end Pass

end TypedLiterals
