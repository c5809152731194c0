import TypedLiterals.Proofs.Coercion.Accounting
import Mathlib.Tactic.SplitIfs

/-!
An integer literal is a value of an integer type just where it lies in the two's complement range of
the type. Otherwise the issue says on which side it lies.
-/

namespace TypedLiterals

-- Every integer type has zero.
theorem PrimType.least_nonpos {type : PrimType} {range : IntRange}
    (h : type.range? = some range) : range.least ≤ 0 := by
  cases type with
  | bool => cases h
  | float width => cases h
  | signed width =>
    cases h
    have hbits : (0 : Int) < 2 ^ (width.bits - 1) := Int.pow_pos (by decide)
    show -2 ^ (width.bits - 1) ≤ 0
    omega
  | unsigned width =>
    cases h
    exact Int.le_refl 0

namespace Verdict

variable {token : Token} {text : String} {value : Int} {type : PrimType}
  {range : IntRange}

theorem rangeFault?_of_range (hvalue : readInteger? text = some value)
    (hrange : type.range? = some range) : rangeFault? type text =
      if range.greatest < value then some (.tooLarge text type range.greatest)
      else if value < range.least then some (.tooSmall text type range.least)
      else none := by
  simp only [rangeFault?, hvalue, hrange]

theorem ofToken_of_range (scope : Scope) (hkind : token.kind = .integerLiteral)
    (hvalue : readInteger? token.text = some value) (hrange : type.range? = some range) :
    ofToken scope token (some type) = intAsInt token value type := by
  cases type with
  | bool => cases hrange
  | float width => cases hrange
  | signed width => simp only [ofToken, hkind, ofInt, hvalue]
  | unsigned width => simp only [ofToken, hkind, ofInt, hvalue]

-- The test of the sign that unsigned types have before the test of the bounds is decisive just
-- below the least value.
theorem intAsInt_of_range (hvalue : readInteger? token.text = some value)
    (hrange : type.range? = some range) : intAsInt token value type =
      if range.greatest < value then refused (.tooLarge token.text type range.greatest)
      else if value < range.least then
        refused (if type.isUnsigned then .negative token.text
          else .tooSmall token.text type range.least)
      else accepted (.literal (.castInt token type)) := by
  have hfault := rangeFault?_of_range hvalue hrange
  cases type with
  | bool => cases hrange
  | float width => cases hrange
  | signed width =>
    have hsign : ¬((PrimType.signed width).isUnsigned = true ∧ value < 0) := nofun
    rw [intAsInt, if_neg hsign, hfault]
    split_ifs <;> first | rfl | contradiction
  | unsigned width =>
    have hbits : (0 : Int) < 2 ^ width.bits := Int.pow_pos (by decide)
    obtain rfl : IntRange.unsigned width.bits = range := Option.some.inj hrange
    have habove : ¬((IntRange.unsigned width.bits).greatest < value ∧ value < 0) := by
      show ¬(2 ^ width.bits - 1 < value ∧ value < 0)
      omega
    by_cases hnegative : value < 0
    · have hsign : (PrimType.unsigned width).isUnsigned = true ∧ value < 0 := ⟨rfl, hnegative⟩
      have hleast : value < (IntRange.unsigned width.bits).least := hnegative
      rw [intAsInt, if_pos hsign, if_neg (fun h => habove ⟨h, hnegative⟩), if_pos hleast]
      rfl
    · have hsign : ¬((PrimType.unsigned width).isUnsigned = true ∧ value < 0) :=
        fun h => hnegative h.2
      have hleast : ¬value < (IntRange.unsigned width.bits).least := hnegative
      rw [intAsInt, if_neg hsign, hfault, if_neg hleast, if_neg hleast]
      split_ifs <;> rfl

end Verdict

namespace Pass

/-- What the reading of an integer literal comes to where a type is expected that has the values
from `least` to `greatest`. A value below them is reported as `below`. -/
structure IntegerOutcome (p : Pass) (token : Token) (value : Int) (type : PrimType)
    (least greatest : Int) (below : IssueKind) : Prop where
  node_iff : (p.readExpression (some type)).1 ≠ .void ↔ least ≤ value ∧ value ≤ greatest
  /-- The node has the type, keeps the text of its token and so has the value of the literal. -/
  accepted : least ≤ value → value ≤ greatest →
    (p.readExpression (some type)).2.log = p.log ∧
      (p.readExpression (some type)).2.arena.get? (p.readExpression (some type)).1 =
        some (.literal (.int ⟨token, type, some type, none⟩)) ∧
      (Literal.int ⟨token, type, some type, none⟩).intValue? = some value
  tooLarge : greatest < value → ∃ issue,
    (p.readExpression (some type)).2.log.issues = p.log.issues.push issue ∧
      issue.kind = .integerOverflow ∧ issue.location = { token.place with file := p.file }
  tooSmall : value < least → ∃ issue,
    (p.readExpression (some type)).2.log.issues = p.log.issues.push issue ∧
      issue.kind = below ∧ issue.location = { token.place with file := p.file }

variable {p : Pass} {token : Token} {value : Int} {type : PrimType} {least greatest : Int}
  {below : IssueKind}

-- The order of the three outcomes does not matter as long as the range is not empty.
theorem integerOutcome_of_verdict {range : IntRange} {fault : Finding}
    (hcurrent : p.reader.current? = some token) (hvalue : readInteger? token.text = some value)
    (hrange : range.least ≤ range.greatest)
    (hverdict : Verdict.ofToken p.scope token (some type) =
      if range.greatest < value then .refused (.tooLarge token.text type range.greatest)
      else if value < range.least then .refused fault
      else .accepted (.literal (.castInt token type))) :
    IntegerOutcome p token value type range.least range.greatest fault.kind := by
  have hread := readExpression_of_current hcurrent (some type)
  rw [hverdict] at hread
  by_cases habove : range.greatest < value
  · rw [if_pos habove] at hread
    have hbelow : ¬value < range.least := by omega
    refine ⟨?_, ?_, ?_, ?_⟩
    · rw [hread]
      exact ⟨fun h => absurd rfl h, fun h => by omega⟩
    · intro _ h
      omega
    · intro _
      rw [hread]
      exact ⟨_, rfl, rfl, rfl⟩
    · intro h
      omega
  · rw [if_neg habove] at hread
    by_cases hbelow : value < range.least
    · rw [if_pos hbelow] at hread
      refine ⟨?_, ?_, ?_, ?_⟩
      · rw [hread]
        exact ⟨fun h => absurd rfl h, fun h => by omega⟩
      · intro h
        omega
      · intro h
        omega
      · intro _
        rw [hread]
        exact ⟨_, rfl, rfl, rfl⟩
    · rw [if_neg hbelow] at hread
      refine ⟨?_, ?_, ?_, ?_⟩
      · rw [hread]
        exact ⟨fun _ => by omega, fun _ => nofun⟩
      · intro _ _
        rw [hread]
        exact ⟨rfl, Arena.get?_insert_self _ _, hvalue⟩
      · intro h
        omega
      · intro h
        omega

/-- Two's complement decides, whatever the size of the literal, its base, its sign and its leading
zeros. -/
theorem readExpression_integer (hcurrent : p.reader.current? = some token)
    (hkind : token.kind = .integerLiteral) (hvalue : readInteger? token.text = some value) :
    (∀ width : IntWidth, IntegerOutcome p token value (.signed width)
      (-2 ^ (width.bits - 1)) (2 ^ (width.bits - 1) - 1) .integerUnderflow) ∧
    (∀ width : IntWidth, IntegerOutcome p token value (.unsigned width)
      0 (2 ^ width.bits - 1) .invalidTypeConversion) := by
  refine ⟨?_, ?_⟩
  · intro width
    have hbits : (0 : Int) < 2 ^ (width.bits - 1) := Int.pow_pos (by decide)
    have hleast : (IntRange.signed width.bits).least ≤ (IntRange.signed width.bits).greatest := by
      show -2 ^ (width.bits - 1) ≤ 2 ^ (width.bits - 1) - 1
      omega
    have hrange : (PrimType.signed width).range? = some (.signed width.bits) := rfl
    have hverdict := Verdict.ofToken_of_range p.scope hkind hvalue hrange
    rw [Verdict.intAsInt_of_range hvalue hrange] at hverdict
    exact integerOutcome_of_verdict hcurrent hvalue hleast hverdict
  · intro width
    have hbits : (0 : Int) < 2 ^ width.bits := Int.pow_pos (by decide)
    have hleast :
        (IntRange.unsigned width.bits).least ≤ (IntRange.unsigned width.bits).greatest := by
      show 0 ≤ 2 ^ width.bits - 1
      omega
    have hrange : (PrimType.unsigned width).range? = some (.unsigned width.bits) := rfl
    have hverdict := Verdict.ofToken_of_range p.scope hkind hvalue hrange
    rw [Verdict.intAsInt_of_range hvalue hrange] at hverdict
    exact integerOutcome_of_verdict hcurrent hvalue hleast hverdict

/-- The least value of `int8` in the hexadecimal form. -/
theorem readExpression_integer_hex :
    IntegerOutcome (ofTokens [⟨.integerLiteral, "-0x080", ⟨2, 7⟩⟩] "a.lang")
      ⟨.integerLiteral, "-0x080", ⟨2, 7⟩⟩ (-128) (.signed .w8) (-128) 127 .integerUnderflow :=
  (readExpression_integer (by decide) rfl (by decide)).1 .w8

end Pass

end TypedLiterals
