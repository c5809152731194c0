import TypedLiterals.Proofs.Coercion.LexedLiterals

/-!
The integers of an arena. However they came about, each of them has a value, and a type that was
asked for has this value. A type that was inferred is `int32` for its values and `int64` for all
others, so a literal above the range of `int64` is an `int64` as well.
-/

namespace TypedLiterals

namespace Numeric

/-- The text of the number is an integer, and the type of the number has it. -/
def InRange (n : Numeric) : Prop :=
  ∃ value range, (Literal.int n).intValue? = some value ∧ n.type.range? = some range ∧
    range.contains value = true

/-- What an integer of an arena has to be, if this is its value. -/
structure IsInteger (n : Numeric) (value : Int) : Prop where
  intValue : (Literal.int n).intValue? = some value
  /-- An inferred type has 32 bits where they are enough, and 64 bits otherwise. -/
  inferred : n.expected = none →
    if (IntRange.signed 32).contains value then n.type = .signed .w32 else n.type = .signed .w64
  asked : ∀ type, n.expected = some type → n.type = type
  inRange_iff : n.InRange ↔ n.expected ≠ none ∨ (IntRange.signed 64).contains value = true

theorem inRange_iff {n : Numeric} {value : Int} {range : IntRange}
    (hvalue : (Literal.int n).intValue? = some value) (hrange : n.type.range? = some range) :
    n.InRange ↔ range.contains value = true := by
  simp [InRange, hvalue, hrange]

end Numeric

namespace Verdict

variable {token : Token} {text : String} {type : PrimType} {expected : Option PrimType}
  {value : Int} {n : Numeric}

-- The test of the range lets through just the texts of the values of the type.
theorem rangeFault?_eq_none_iff : rangeFault? type text = none ↔
    ∃ value range, readInteger? text = some value ∧ type.range? = some range ∧
      range.contains value = true := by
  cases hvalue : readInteger? text with
  | none => simp [rangeFault?, hvalue]
  | some value =>
    cases hrange : type.range? with
    | none => simp [rangeFault?, hvalue, hrange]
    | some range =>
      rw [rangeFault?_of_range hvalue hrange]
      split_ifs <;> simp [IntRange.contains_iff] <;> omega

theorem castInt_isInteger {replacement : Option String}
    (h : rangeFault? type (replacement.getD token.text) = none) :
    ∃ value, Numeric.IsInteger ⟨token, type, some type, replacement⟩ value := by
  obtain ⟨value, range, hvalue, hrange, hcontains⟩ := rangeFault?_eq_none_iff.mp h
  refine ⟨value, ?_⟩
  exact {
    intValue := hvalue
    inferred := nofun
    asked := fun _ h => Option.some.inj h
    inRange_iff := iff_of_true ⟨value, range, hvalue, hrange, hcontains⟩ (.inl nofun) }

theorem inferInt_inRange_iff (h : readInteger? token.text = some value) :
    Numeric.InRange { token := token, type := inferInt value } ↔
      (IntRange.signed 64).contains value = true := by
  by_cases hsmall : (IntRange.signed 32).contains value = true
  · have hrange : (inferInt value).range? = some (.signed 32) := by
      rw [inferInt, if_pos hsmall]
      rfl
    have hlarge : (IntRange.signed 64).contains value = true :=
      IntRange.contains_of_le (by decide +kernel) (by decide +kernel) hsmall
    exact iff_of_true ⟨value, _, h, hrange, hsmall⟩ hlarge
  -- 64 bits are taken where 32 are not enough, whether or not they are enough themselves.
  · have hrange : (inferInt value).range? = some (.signed 64) := by
      rw [inferInt, if_neg hsmall]
      rfl
    exact Numeric.inRange_iff h hrange

theorem inferInt_isInteger (h : readInteger? token.text = some value) :
    Numeric.IsInteger { token := token, type := inferInt value } value where
  intValue := h
  inferred _ := by
    unfold inferInt
    split_ifs <;> rfl
  asked := nofun
  inRange_iff := by
    rw [inferInt_inRange_iff h]
    exact ⟨.inr, fun h => h.resolve_left fun hne => hne rfl⟩

theorem floatAsInt_isInteger (h : (floatAsInt token type).node? = some (.literal (.int n))) :
    ∃ value, n.IsInteger value := by
  unfold floatAsInt at h
  split at h
  · cases h
  · split_ifs at h
    · dsimp only at h
      split at h
      · cases h
      · rename_i hfault
        cases h
        exact castInt_isInteger hfault
    · cases h
    · cases h

theorem intAsInt_isInteger (h : (intAsInt token value type).node? = some (.literal (.int n))) :
    ∃ value, n.IsInteger value := by
  unfold intAsInt at h
  split_ifs at h
  · cases h
  · split at h
    · cases h
    · rename_i hfault
      cases h
      exact castInt_isInteger hfault

theorem floatAsFloat_node?_ne (token : Token) (type : PrimType) (n : Numeric) :
    (floatAsFloat token type).node? ≠ some (.literal (.int n)) := by
  unfold floatAsFloat
  split_ifs
  · nofun
  · split
    · nofun
    · dsimp only
      split_ifs <;> nofun

theorem ofFloat_isInteger (h : (ofFloat token expected).node? = some (.literal (.int n))) :
    ∃ value, n.IsInteger value := by
  unfold ofFloat at h
  dsimp only at h
  split at h
  · cases h
  · cases h
  · exact absurd h (floatAsFloat_node?_ne token _ n)
  · exact floatAsInt_isInteger h

theorem ofInt_isInteger (h : (ofInt token expected).node? = some (.literal (.int n))) :
    ∃ value, n.IsInteger value := by
  unfold ofInt at h
  split at h
  · cases h
  · rename_i value hvalue
    dsimp only at h
    split at h
    · cases h
      exact ⟨value, inferInt_isInteger hvalue⟩
    · cases h
      exact ⟨value, inferInt_isInteger hvalue⟩
    · cases h
    · exact intAsInt_isInteger h

-- Only numbers become integers.
theorem ofToken_isInteger {scope : Scope}
    (h : (ofToken scope token expected).node? = some (.literal (.int n))) :
    ∃ value, n.IsInteger value := by
  unfold ofToken at h
  split at h
  · exact ofFloat_isInteger h
  · exact ofInt_isInteger h
  · cases h
  · split at h <;> cases h
  · cases h

end Verdict

/-- All integers of the arena are what they have to be. -/
def Arena.HasIntegers (a : Arena) : Prop :=
  ∀ n, .literal (.int n) ∈ a.nodes.toList → ∃ value, n.IsInteger value

namespace Pass

variable {p : Pass} {n : Numeric}

theorem readExpression_hasIntegers (h : p.arena.HasIntegers) (expected : Option PrimType) :
    (p.readExpression expected).2.arena.HasIntegers := by
  cases hcurrent : p.reader.current? with
  | none =>
    rw [readExpression_of_end hcurrent]
    exact h
  | some token =>
    intro n hn
    rw [(readExpression_adds hcurrent expected).nodes, List.mem_append, Option.mem_toList] at hn
    rcases hn with hold | hnew
    · exact h n hold
    · exact Verdict.ofToken_isInteger hnew

theorem act_hasIntegers (h : p.arena.HasIntegers) (action : Action) :
    (p.act action).arena.HasIntegers := by
  cases action with
  | read expected => exact readExpression_hasIntegers h expected
  | skip => exact h
  | restore s => exact h

theorem run_hasIntegers (h : p.arena.HasIntegers) (actions : List Action) :
    (p.run actions).arena.HasIntegers := by
  induction actions generalizing p with
  | nil => exact h
  | cons action actions ih => exact ih (act_hasIntegers h action)

/-- The integers that come of any run over a fresh arena, whatever the tokens are, the types that
are expected, and the order in which the tokens are read. -/
theorem run_integers (hfresh : p.arena = {}) (actions : List Action)
    (hnode : .literal (.int n) ∈ (p.run actions).arena.nodes.toList) :
    ∃ value, n.IsInteger value := by
  have hempty : p.arena.HasIntegers := by
    rw [hfresh]
    exact fun _ hn => absurd hn List.not_mem_nil
  exact run_hasIntegers hempty actions n hnode

/-- A fraction that becomes an integer, in a run that goes back and reads an integer as a truth
value. -/
theorem run_integers_whole :
    .literal (.int ⟨⟨.floatingLiteral, "200.0f", ⟨1, 1⟩⟩, .unsigned .w8, some (.unsigned .w8),
        some "200"⟩) ∈
      ((ofTokens [⟨.floatingLiteral, "200.0f", ⟨1, 1⟩⟩, ⟨.integerLiteral, "-0x80", ⟨2, 1⟩⟩]
        "a.lang").run [.skip, .read (some .bool), .restore ⟨0⟩,
          .read (some (.unsigned .w8))]).arena.nodes.toList ∧
    ∃ value, Numeric.IsInteger ⟨⟨.floatingLiteral, "200.0f", ⟨1, 1⟩⟩, .unsigned .w8,
      some (.unsigned .w8), some "200"⟩ value := by
  have hnode : .literal (.int ⟨⟨.floatingLiteral, "200.0f", ⟨1, 1⟩⟩, .unsigned .w8,
      some (.unsigned .w8), some "200"⟩) ∈
      ((ofTokens [⟨.floatingLiteral, "200.0f", ⟨1, 1⟩⟩, ⟨.integerLiteral, "-0x80", ⟨2, 1⟩⟩]
        "a.lang").run [.skip, .read (some .bool), .restore ⟨0⟩,
          .read (some (.unsigned .w8))]).arena.nodes.toList := by
    decide +kernel
  exact ⟨hnode, run_integers rfl _ hnode⟩

/-- The least integer above the range of `int64` is an `int64`, and nothing is reported. -/
theorem not_inRange_of_tokenize :
    Lexer.tokenize {} "9223372036854775808" =
        .ok [⟨.integerLiteral, "9223372036854775808", ⟨1, 1⟩⟩] ∧
      ((ofTokens [⟨.integerLiteral, "9223372036854775808", ⟨1, 1⟩⟩] "a.lang").run
        [.read none]).log = {} ∧
      ¬∀ n, .literal (.int n) ∈ ((ofTokens [⟨.integerLiteral, "9223372036854775808", ⟨1, 1⟩⟩]
        "a.lang").run [.read none]).arena.nodes.toList → n.InRange := by
  refine ⟨by decide +kernel, by decide +kernel, ?_⟩
  intro h
  have hrange := h ⟨⟨.integerLiteral, "9223372036854775808", ⟨1, 1⟩⟩, .signed .w64, none, none⟩
    (by decide +kernel)
  have hvalue : (Literal.int ⟨⟨.integerLiteral, "9223372036854775808", ⟨1, 1⟩⟩, .signed .w64,
      none, none⟩).intValue? = some 9223372036854775808 := by
    decide +kernel
  exact absurd ((Numeric.inRange_iff hvalue rfl).mp hrange) (by decide +kernel)

end Pass

end TypedLiterals
