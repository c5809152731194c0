import TypedLiterals.Proofs.Coercion.FloatAsFloat
import TypedLiterals.Proofs.Coercion.FloatAsInt

/-!
Which literals are refused as malformed. For integer literals these are the ones that cannot be
read. A floating-point literal is only read where its value is needed: elsewhere it becomes a node
whatever its text is. Where an integer is expected, a literal that can be read is refused as
malformed if its value is whole and there is no integer in front of its point.
-/

namespace TypedLiterals

namespace Token

/-- Whether the value of a floating-point literal is needed where this type is expected. -/
def NeedsValue (t : Token) (expected : Option PrimType) : Prop :=
  expected.any PrimType.isInteger = true ∨ expected = some (.float .single) ∧ ¬t.IsMarked

/-- The text up to the first point, or all of it. -/
def beforePoint (t : Token) : String :=
  String.ofList (t.text.toList.takeWhile (· ≠ '.'))

/-- The literal has a whole value, but what stands in front of its point is no integer. -/
def CutFails (t : Token) : Prop :=
  (∃ x, readFloat? t.text = some x ∧ x.equals (.ofInt x.toInt64) = true) ∧
    readInteger? t.beforePoint = none

/-- A floating-point literal that is judged wrongly: it cannot be read and becomes a node, or it can
be read and is refused because it cannot be cut. -/
def Misjudged (t : Token) (expected : Option PrimType) : Prop :=
  (readFloat? t.text = none ∧ ¬t.NeedsValue expected) ∨
    (expected.any PrimType.isInteger = true ∧ t.CutFails)

-- Leaving the misjudged literals aside, the two judgements are one.
theorem not_misjudged_iff {t : Token} {expected : Option PrimType} :
    (((readFloat? t.text = none ∧ t.NeedsValue expected) ∨
        (expected.any PrimType.isInteger = true ∧ t.CutFails)) ↔ readFloat? t.text = none) ↔
      ¬t.Misjudged expected := by
  have hcut : t.CutFails → readFloat? t.text ≠ none := by
    rintro ⟨⟨x, hx, -⟩, -⟩ hnone
    rw [hnone] at hx
    cases hx
  refine ⟨?_, ?_⟩
  · rintro h (⟨hnone, hneeds⟩ | hfails)
    · rcases h.mpr hnone with ⟨-, hneeded⟩ | ⟨-, hfails⟩
      · exact hneeds hneeded
      · exact hcut hfails hnone
    · exact hcut hfails.2 (h.mp (.inr hfails))
  · intro hjudged
    refine ⟨?_, ?_⟩
    · rintro (⟨hnone, -⟩ | hfails)
      · exact hnone
      · exact absurd (.inr hfails) hjudged
    · intro hnone
      by_cases hneeds : t.NeedsValue expected
      · exact .inl ⟨hnone, hneeds⟩
      · exact absurd (.inl ⟨hnone, hneeds⟩) hjudged

end Token

namespace Verdict

/-- There is no node, and the literal is reported as malformed. -/
def Malformed (v : Verdict) : Prop :=
  ∃ finding, v = refused finding ∧ finding.kind = .malformedLiteral

variable {token : Token} {expected : Option PrimType} {node : Node} {finding : Finding}

@[simp] theorem malformed_accepted : ¬(accepted node).Malformed := by
  rintro ⟨finding, hrefused, -⟩
  cases hrefused

@[simp] theorem malformed_reported : ¬(reported node finding).Malformed := by
  rintro ⟨finding, hrefused, -⟩
  cases hrefused

@[simp] theorem malformed_refused :
    (refused finding).Malformed ↔ finding.kind = .malformedLiteral := by
  simp [Malformed]

section Integers

theorem rangeFault?_malformed_iff (type : PrimType) (text : String) :
    (rangeFault? type text).any (·.kind = .malformedLiteral) = true ↔ readInteger? text = none := by
  cases hvalue : readInteger? text with
  | none => simp [rangeFault?, hvalue, Finding.kind]
  | some value =>
    cases hrange : type.range? with
    | none => simp [rangeFault?, hvalue, hrange, Finding.kind]
    | some range =>
      rw [rangeFault?_of_range hvalue hrange]
      split_ifs <;> simp [Finding.kind]

theorem intAsInt_not_malformed {value : Int} (type : PrimType)
    (hvalue : readInteger? token.text = some value) : ¬(intAsInt token value type).Malformed := by
  have hfault := rangeFault?_malformed_iff type token.text
  rw [intAsInt]
  split
  · rw [malformed_refused]
    intro hkind
    cases hkind
  · cases h : rangeFault? type token.text with
    | none => exact malformed_accepted
    | some finding =>
      rw [h, hvalue] at hfault
      simpa using hfault

theorem ofInt_malformed_iff :
    (ofInt token expected).Malformed ↔ readInteger? token.text = none := by
  cases hvalue : readInteger? token.text with
  | none => simp [ofInt, hvalue, Finding.kind]
  | some value =>
    refine iff_of_false ?_ (Option.some_ne_none value)
    simp only [ofInt, hvalue]
    cases expected with
    | none => exact malformed_accepted
    | some type =>
      cases type with
      | bool => exact malformed_reported
      | float width => exact malformed_accepted
      | signed width => exact intAsInt_not_malformed _ hvalue
      | unsigned width => exact intAsInt_not_malformed _ hvalue

end Integers

section Floats

theorem floatAsFloat_malformed_iff (type : PrimType) : (floatAsFloat token type).Malformed ↔
    readFloat? token.text = none ∧ ¬(inferFloat token).fitsInto type = true := by
  rw [floatAsFloat]
  split
  · rename_i hfits
    exact iff_of_false malformed_accepted fun h => h.2 hfits
  · rename_i hfits
    cases readFloat? token.text with
    | none => simp [Finding.kind, hfits]
    | some x =>
      refine iff_of_false ?_ fun h => Option.some_ne_none x h.1
      dsimp only
      split
      · exact malformed_accepted
      · exact malformed_reported

-- What does not fit is a literal without the mark where single precision is expected.
theorem fitsInto_float_iff (width : FloatWidth) :
    (inferFloat token).fitsInto (.float width) = true ↔ ¬(width = .single ∧ ¬token.IsMarked) := by
  rw [inferFloat_eq]
  by_cases hmark : token.IsMarked
  · simp only [hmark, if_true]
    cases width <;> simp [PrimType.fitsInto, FloatWidth.bits]
  · simp only [hmark, if_false]
    cases width <;> simp [PrimType.fitsInto, FloatWidth.bits]

theorem floatAsInt_malformed_iff (type : PrimType) : (floatAsInt token type).Malformed ↔
    readFloat? token.text = none ∨ token.CutFails := by
  have hfault := rangeFault?_malformed_iff type token.beforePoint
  rw [Token.CutFails, ← hfault, floatAsInt]
  cases readFloat? token.text with
  | none => simp [Finding.kind]
  | some x =>
    dsimp only
    split
    · rename_i hwhole
      rw [show String.ofList (token.text.toList.takeWhile (· ≠ '.')) = token.beforePoint from rfl]
      cases rangeFault? type token.beforePoint with
      | none => simp
      | some finding => simp [hwhole]
    · rename_i hfraction
      split <;> simp [hfraction, Finding.kind]

theorem ofFloat_malformed_iff : (ofFloat token expected).Malformed ↔
    (readFloat? token.text = none ∧ token.NeedsValue expected) ∨
      (expected.any PrimType.isInteger = true ∧ token.CutFails) := by
  match expected with
  | none => exact iff_of_false malformed_accepted (by simp [Token.NeedsValue])
  | some .bool =>
    exact iff_of_false malformed_reported (by simp [Token.NeedsValue, PrimType.isInteger])
  | some (.float width) =>
    show (floatAsFloat token (.float width)).Malformed ↔ _
    rw [floatAsFloat_malformed_iff, fitsInto_float_iff]
    simp [Token.NeedsValue, PrimType.isInteger]
  | some (.signed width) =>
    show (floatAsInt token (.signed width)).Malformed ↔ _
    rw [floatAsInt_malformed_iff]
    simp [Token.NeedsValue, PrimType.isInteger]
  | some (.unsigned width) =>
    show (floatAsInt token (.unsigned width)).Malformed ↔ _
    rw [floatAsInt_malformed_iff]
    simp [Token.NeedsValue, PrimType.isInteger]

-- Where its value is not needed every literal becomes a node.
theorem ofFloat_node?_of_not_needsValue (h : ¬token.NeedsValue expected) :
    (ofFloat token expected).node?.isSome = true := by
  match expected with
  | none => rfl
  | some .bool => rfl
  | some (.float width) =>
    have hfits : (inferFloat token).fitsInto (.float width) = true := by
      rw [fitsInto_float_iff]
      simpa [Token.NeedsValue, PrimType.isInteger] using h
    show (floatAsFloat token (.float width)).node?.isSome = true
    rw [floatAsFloat, if_pos hfits]
    rfl
  | some (.signed width) => exact absurd (.inl rfl) h
  | some (.unsigned width) => exact absurd (.inl rfl) h

end Floats

end Verdict

namespace Pass

/-- Reading answers without a node and reports a malformed literal. -/
def RefusesMalformed (p : Pass) (expected : Option PrimType) : Prop :=
  (p.readExpression expected).1 = .void ∧ ∃ issue,
    (p.readExpression expected).2.log.issues = p.log.issues.push issue ∧
      issue.kind = .malformedLiteral

variable {p : Pass} {token : Token}

theorem refusesMalformed_iff (hcurrent : p.reader.current? = some token)
    (expected : Option PrimType) : p.RefusesMalformed expected ↔
      (Verdict.ofToken p.scope token expected).Malformed := by
  rw [RefusesMalformed, readExpression_of_current hcurrent]
  cases Verdict.ofToken p.scope token expected with
  | accepted node => exact iff_of_false (fun h => nomatch h.1) Verdict.malformed_accepted
  | reported node finding => exact iff_of_false (fun h => nomatch h.1) Verdict.malformed_reported
  | refused finding =>
    rw [Verdict.malformed_refused]
    refine ⟨?_, fun hkind => ⟨rfl, _, rfl, hkind⟩⟩
    rintro ⟨-, issue, hpush, hkind⟩
    obtain ⟨rfl, -⟩ := Array.push_eq_push.mp hpush
    exact hkind

/-- An integer literal is refused as malformed exactly if it cannot be read. So is a floating-point
literal, if it is not misjudged: those that cannot be read become nodes where their value is not
needed, and those that cannot be cut at their point are refused where an integer is expected. -/
theorem readExpression_malformed (hcurrent : p.reader.current? = some token)
    (expected : Option PrimType) :
    (token.kind = .integerLiteral →
      (p.RefusesMalformed expected ↔ readInteger? token.text = none)) ∧
    (token.kind = .floatingLiteral →
      ((p.RefusesMalformed expected ↔ readFloat? token.text = none) ↔
        ¬token.Misjudged expected) ∧
      (¬token.NeedsValue expected → (p.readExpression expected).1 ≠ .void) ∧
      (expected.any PrimType.isInteger = true → token.CutFails →
        p.RefusesMalformed expected)) := by
  refine ⟨?_, ?_⟩
  · intro hkind
    rw [refusesMalformed_iff hcurrent, Verdict.ofToken_of_integer p.scope hkind]
    exact Verdict.ofInt_malformed_iff
  · intro hkind
    have hverdict := Verdict.ofToken_of_floating p.scope hkind expected
    have hrefuses := refusesMalformed_iff hcurrent expected
    rw [hverdict, Verdict.ofFloat_malformed_iff] at hrefuses
    refine ⟨?_, ?_, ?_⟩
    · rw [hrefuses]
      exact Token.not_misjudged_iff
    · intro hneeds
      have hhandle := (readExpression_adds hcurrent expected).handle
      rw [hverdict, Verdict.ofFloat_node?_of_not_needsValue hneeds] at hhandle
      rw [hhandle]
      exact nofun
    · intro hinteger hcut
      exact hrefuses.mpr (.inr ⟨hinteger, hcut⟩)

/-- An integer literal with two signs cannot be read, and a floating-point literal with an exponent
behind its point can be cut. -/
theorem readExpression_malformed_sign :
    (ofTokens [⟨.integerLiteral, "-+1", ⟨1, 1⟩⟩] "a.lang").RefusesMalformed none ∧
      ¬(ofTokens [⟨.floatingLiteral, "2.0e0", ⟨1, 1⟩⟩] "a.lang").RefusesMalformed
        (some (.signed .w8)) := by
  refine ⟨((readExpression_malformed rfl none).1 rfl).mpr (by decide +kernel), ?_⟩
  have hjudged : ¬(Token.mk .floatingLiteral "2.0e0" ⟨1, 1⟩).Misjudged (some (.signed .w8)) := by
    rintro (⟨hnone, -⟩ | ⟨-, -, hnone⟩)
    · exact absurd hnone (by decide +kernel)
    · exact absurd hnone (by decide +kernel)
  rw [((readExpression_malformed rfl (some (.signed .w8))).2 rfl).1.mpr hjudged]
  decide +kernel

/-- A text without a number in it becomes a floating-point literal where no type is expected, and a
number with an exponent and without a point is refused as malformed where an integer is. -/
theorem not_refusesMalformed_of_unreadable :
    readFloat? "abc" = none ∧
      ¬(ofTokens [⟨.floatingLiteral, "abc", ⟨1, 1⟩⟩] "a.lang").RefusesMalformed none ∧
      readFloat? "1e3" = some (.ofInt 1000) ∧
      (ofTokens [⟨.floatingLiteral, "1e3", ⟨1, 1⟩⟩] "a.lang").RefusesMalformed
        (some (.signed .w32)) := by
  refine ⟨by decide +kernel, ?_, by decide +kernel, ?_⟩
  · rintro ⟨hvoid, -⟩
    exact absurd hvoid (by decide +kernel)
  · exact ⟨by decide +kernel, (Finding.notInteger "1e3").issueAt ⟨⟨1, 1⟩, "a.lang"⟩,
      by decide +kernel, rfl⟩

end Pass

end TypedLiterals
