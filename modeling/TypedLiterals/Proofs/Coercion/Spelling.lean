import TypedLiterals.Proofs.Coercion.Locality
import TypedLiterals.Proofs.Number.IntegerForm

/-!
Two ways to write one integer are read alike, whatever type is expected: both are refused for the
same kind of reason, or both become numbers of the same type and value. Where a floating-point
number is expected the text of its node is decimal, for a hexadecimal text is written anew.
-/

namespace TypedLiterals

/-- The text is decimal, and it is read as the integer. -/
structure WritesDecimal (text : String) (value : Int) : Prop extends PlainDecimal text where
  value : readInteger? text = some value

/-- Two literals that stand for the same integer, as integers of one type or as floating-point
numbers of one type. -/
inductive SameNumber (value : Int) : Node → Node → Prop where
  | int {m n : Numeric} (type : m.type = n.type) (expected : m.expected = n.expected)
      (first : (Literal.int m).intValue? = some value)
      (second : (Literal.int n).intValue? = some value) :
      SameNumber value (.literal (.int m)) (.literal (.int n))
  | float {m n : Numeric} (type : m.type = n.type) (expected : m.expected = n.expected)
      (first : WritesDecimal m.text value) (second : WritesDecimal n.text value) :
      SameNumber value (.literal (.float m)) (.literal (.float n))

namespace Verdict

/-- Two verdicts that differ at most in how the integer is written. -/
structure Alike (value : Int) (v w : Verdict) : Prop where
  nodes : Option.Rel (SameNumber value) v.node? w.node?
  kinds : v.finding?.map Finding.kind = w.finding?.map Finding.kind

variable {token other : Token} {text text' : String} {value : Int}

theorem map_kind_issuesAt (location : Location) (v : Verdict) :
    (v.issuesAt location).map (·.kind) = (v.finding?.map Finding.kind).toList := by
  rw [issuesAt]
  cases v.finding? <;> rfl

theorem rangeFault?_kind (type : PrimType) (h : readInteger? text = some value)
    (h' : readInteger? text' = some value) :
    (rangeFault? type text).map Finding.kind = (rangeFault? type text').map Finding.kind := by
  cases hrange : type.range? with
  | none => simp only [rangeFault?, h, h', hrange, Option.map_some, Finding.kind]
  | some range =>
    simp only [rangeFault?, h, h', hrange]
    split
    · rfl
    · split <;> rfl

theorem intAsInt_alike (type : PrimType) (h : readInteger? token.text = some value)
    (h' : readInteger? other.text = some value) :
    Alike value (intAsInt token value type) (intAsInt other value type) := by
  have hkind := rangeFault?_kind type h h'
  rw [intAsInt, intAsInt]
  split
  · exact ⟨.none, rfl⟩
  · cases hfault : rangeFault? type token.text with
    | none =>
      rw [hfault, Option.map_none, eq_comm, Option.map_eq_none_iff] at hkind
      rw [hkind]
      exact ⟨.some (.int rfl rfl h h'), rfl⟩
    | some finding =>
      rw [hfault, Option.map_some, eq_comm, Option.map_eq_some_iff] at hkind
      obtain ⟨finding', hfault', hkind⟩ := hkind
      rw [hfault']
      exact ⟨.none, congrArg some hkind.symm⟩

-- The two forms of an integer take different routes: a decimal text is kept, and in place of a
-- hexadecimal one stands the value.
theorem writesDecimal_of_readInteger? (h : readInteger? text = some value) :
    WritesDecimal ((if isHexText text then some (writeInteger value) else none).getD text)
      value := by
  rcases plainDecimal_or_isHexText h with hdecimal | hhex
  · rw [isHexText_of_plainDecimal hdecimal]
    exact ⟨hdecimal, h⟩
  · rw [hhex]
    exact ⟨plainDecimal_writeInteger value, readInteger?_writeInteger value⟩

theorem ofInt_alike (expected : Option PrimType) (h : readInteger? token.text = some value)
    (h' : readInteger? other.text = some value) :
    Alike value (ofInt token expected) (ofInt other expected) := by
  simp only [ofInt, h, h']
  match expected with
  | none => exact ⟨.some (.int rfl rfl h h'), rfl⟩
  | some .bool => exact ⟨.some (.int rfl rfl h h'), rfl⟩
  | some (.float width) =>
    refine ⟨.some (.float rfl rfl ?_ ?_), rfl⟩
    · exact writesDecimal_of_readInteger? h
    · exact writesDecimal_of_readInteger? h'
  | some (.signed width) => exact intAsInt_alike _ h h'
  | some (.unsigned width) => exact intAsInt_alike _ h h'

end Verdict

namespace Pass

variable {p q : Pass} {token other : Token} {value : Int}

/-- How an integer is written has no part in what is read: neither the base, nor the case of its
digits, nor leading zeros, nor a sign in front of it. -/
theorem readExpression_spelling (hp : p.reader.current? = some token)
    (hq : q.reader.current? = some other) (hkind : token.kind = .integerLiteral)
    (hkind' : other.kind = .integerLiteral) (hvalue : readInteger? token.text = some value)
    (hvalue' : readInteger? other.text = some value) (expected : Option PrimType) :
    ∃ node? node?' issues issues', Adds p node? issues (p.readExpression expected) ∧
      Adds q node?' issues' (q.readExpression expected) ∧
      Option.Rel (SameNumber value) node? node?' ∧
      issues.map (·.kind) = issues'.map (·.kind) := by
  have hadds := readExpression_adds hp expected
  have hadds' := readExpression_adds hq expected
  rw [Verdict.ofToken_of_integer p.scope hkind] at hadds
  rw [Verdict.ofToken_of_integer q.scope hkind'] at hadds'
  have halike := Verdict.ofInt_alike expected hvalue hvalue'
  refine ⟨_, _, _, _, hadds, hadds', halike.nodes, ?_⟩
  rw [Verdict.map_kind_issuesAt, Verdict.map_kind_issuesAt, halike.kinds]

/-- A hexadecimal and a decimal text of -255, where a floating-point number is expected. -/
theorem readExpression_spelling_hex :
    ∃ node? node?' issues issues',
      Adds (ofTokens [⟨.integerLiteral, "-0X00fF", ⟨1, 1⟩⟩] "a.lang") node? issues
        ((ofTokens [⟨.integerLiteral, "-0X00fF", ⟨1, 1⟩⟩] "a.lang").readExpression
          (some (.float .single))) ∧
      Adds ((ofTokens [⟨.plus, "+", ⟨1, 1⟩⟩, ⟨.integerLiteral, "-0255", ⟨2, 3⟩⟩] "b.lang").skip)
        node?' issues'
        ((ofTokens [⟨.plus, "+", ⟨1, 1⟩⟩, ⟨.integerLiteral, "-0255", ⟨2, 3⟩⟩]
          "b.lang").skip.readExpression (some (.float .single))) ∧
      Option.Rel (SameNumber (-255)) node? node?' ∧
      issues.map (·.kind) = issues'.map (·.kind) :=
  readExpression_spelling rfl rfl rfl rfl (by decide +kernel) (by decide +kernel) _

end Pass

end TypedLiterals
