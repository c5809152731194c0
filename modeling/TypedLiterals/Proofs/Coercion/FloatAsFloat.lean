import TypedLiterals.Proofs.Coercion.Locality
import TypedLiterals.Proofs.Number.ShortestText
import TypedLiterals.Token.Lexer

/-!
A floating-point literal where a floating-point number is expected. All that the lexer reads of them
have digits around a point (`Lexer.pointText_of_tokenize`). Single precision stores the nearest
number that it has, with a warning if that is not the written one, unless a mark asks for it. What
is stored is a text, though, and the text of an infinite number is not read again. Where double
precision is expected the mark has no effect, and the value is not the one that the literal has by
itself.
-/

namespace TypedLiterals

/-- The number of double precision nearest to the one that has these digits around its point. -/
def pointValue (whole fraction : List Char) : Binary64 :=
  .ofUnits .double false
    ((ofDigits 10 whole * 10 ^ fraction.length + ofDigits 10 fraction) * 2 ^ unitShift)
    (10 ^ fraction.length)

theorem pointValue_ne_nan (whole fraction : List Char) : pointValue whole fraction ≠ .nan := by
  unfold pointValue
  rw [Binary64.ofUnits_eq]
  split <;> simp

/-- Whether a literal bears the mark of single precision. -/
def Token.IsMarked (t : Token) : Prop :=
  t.text.toList.getLast? = some 'f'
deriving Decidable

section Values

variable {token : Token} {whole fraction : List Char}

theorem floatValue?_float (htext : PointText token.text whole fraction) (type : PrimType)
    (expected : Option PrimType) : (Literal.float ⟨token, type, expected, none⟩).floatValue? =
      some (if type = .float .single then (pointValue whole fraction).toSingle
        else pointValue whole fraction) := by
  show (readFloat? token.text).map _ = _
  rw [htext.readFloat?_eq]
  rfl

-- The text of what is stored is read once more when the value is asked for.
theorem floatValue?_stored (token : Token) {x : Binary64} (h : x.InFormat .single) :
    (Literal.castFloat token (.float .single) (some x.text)).floatValue? =
      if x.isInfinite then none else some x := by
  show (readFloat? x.text).map _ = _
  rw [Binary64.readFloat?_text h.double]
  cases hinfinite : x.isInfinite with
  | true => rfl
  | false =>
    show some x.toSingle = some x
    rw [Binary64.toSingle_of_inFormat h]

end Values

namespace Verdict

variable {token : Token} {whole fraction : List Char}

theorem inferFloat_eq (token : Token) :
    inferFloat token = .float (if token.IsMarked then .single else .double) :=
  rfl

theorem floatAsFloat_double (token : Token) : floatAsFloat token (.float .double) =
    accepted (.literal (.castFloat token (.float .double))) := by
  have hfits : (inferFloat token).fitsInto (.float .double) = true := by
    rw [inferFloat_eq]
    split <;> rfl
  rw [floatAsFloat, if_pos hfits]

theorem floatAsFloat_single_of_mark (hmark : token.IsMarked) :
    floatAsFloat token (.float .single) =
      accepted (.literal (.castFloat token (.float .single))) := by
  have hfits : (inferFloat token).fitsInto (.float .single) = true := by
    rw [inferFloat_eq, if_pos hmark]
    rfl
  rw [floatAsFloat, if_pos hfits]

theorem floatAsFloat_single_of_no_mark (htext : PointText token.text whole fraction)
    (hmark : ¬token.IsMarked) : floatAsFloat token (.float .single) =
      if (pointValue whole fraction).toSingle = pointValue whole fraction then
        accepted (.literal (.castFloat token (.float .single)))
      else
        reported
          (.literal (.castFloat token (.float .single)
            (some (pointValue whole fraction).toSingle.text)))
          (.rounded token.text (pointValue whole fraction).toSingle) := by
  have hfits : ¬(inferFloat token).fitsInto (.float .single) = true := by
    rw [inferFloat_eq, if_neg hmark]
    decide
  have hread : readFloat? token.text = some (pointValue whole fraction) := htext.readFloat?_eq
  have hequals := Binary64.equals_toSingle_iff (pointValue_ne_nan whole fraction)
  rw [floatAsFloat, if_neg hfits, hread]
  simp only [hequals]

theorem ofToken_of_float_type (scope : Scope) (hkind : token.kind = .floatingLiteral)
    (width : FloatWidth) :
    ofToken scope token (some (.float width)) = floatAsFloat token (.float width) := by
  simp only [ofToken, hkind, ofFloat]

theorem floatValue?_inferred (htext : PointText token.text whole fraction) :
    (Literal.float { token := token, type := inferFloat token }).floatValue? =
      some (if token.IsMarked then (pointValue whole fraction).toSingle
        else pointValue whole fraction) := by
  rw [floatValue?_float htext, inferFloat_eq]
  by_cases hmark : token.IsMarked
  · rw [if_pos hmark, if_pos hmark, if_pos rfl]
  · rw [if_neg hmark, if_neg hmark, if_neg (by decide)]

theorem ofToken_of_no_type (scope : Scope) (hkind : token.kind = .floatingLiteral) :
    ofToken scope token none =
      accepted (.literal (.float { token := token, type := inferFloat token })) := by
  simp only [ofToken, hkind, ofFloat]

end Verdict

namespace Pass

variable {p q : Pass} {token : Token} {expected : Option PrimType} {whole fraction : List Char}

/-- The literal that is read, if it is one. -/
def literalRead? (p : Pass) (expected : Option PrimType) : Option Literal :=
  (p.readExpression expected).2.arena.literal? (p.readExpression expected).1

theorem literal?_insert (p : Pass) (literal : Literal) :
    (p.insert (.literal literal)).2.arena.literal? (p.insert (.literal literal)).1 =
      some literal := by
  show ((p.arena.insert (.literal literal)).2.get? (p.arena.insert (.literal literal)).1).bind
    Node.literal? = _
  rw [Arena.get?_insert_self]
  rfl

theorem literalRead?_of_accepted {literal : Literal} (hcurrent : p.reader.current? = some token)
    (hverdict : Verdict.ofToken p.scope token expected = .accepted (.literal literal)) :
    p.literalRead? expected = some literal ∧ (p.readExpression expected).2.log = p.log := by
  unfold literalRead?
  rw [readExpression_of_current hcurrent, hverdict]
  exact ⟨literal?_insert p.skip literal, rfl⟩

theorem literalRead?_of_reported {literal : Literal} {finding : Finding}
    (hcurrent : p.reader.current? = some token)
    (hverdict : Verdict.ofToken p.scope token expected = .reported (.literal literal) finding) :
    p.literalRead? expected = some literal ∧
      (p.readExpression expected).2.log = p.log.push (finding.issueAt (p.locationOf token)) := by
  unfold literalRead?
  rw [readExpression_of_current hcurrent, hverdict]
  exact ⟨literal?_insert (p.skip.report _) literal, rfl⟩

/-- The literal that is read is one of single precision, with this value or with none. -/
def ReadsSingle (p : Pass) (value? : Option Binary64) : Prop :=
  ∃ literal : Literal, p.literalRead? (some (.float .single)) = some literal ∧
    literal.type = .float .single ∧ literal.floatValue? = value?

/-- There is a warning if the number is not one of single precision, except that a mark speaks for
itself. -/
def WarnsOfRounding (p : Pass) (token : Token) (value : Binary64) : Prop :=
  if token.IsMarked ∨ value.toSingle = value then
    (p.readExpression (some (.float .single))).2.log = p.log
  else
    ∃ issue, (p.readExpression (some (.float .single))).2.log = p.log.push issue ∧
      issue.kind = .lossOfPrecision

/-- The number of single precision that is nearest to a value is stored. -/
def StoresNearest (p : Pass) (token : Token) (value : Binary64) : Prop :=
  p.ReadsSingle (some value.toSingle) ∧ p.WarnsOfRounding token value

theorem ReadsSingle.unique {value? other? : Option Binary64} (h : p.ReadsSingle value?)
    (h' : p.ReadsSingle other?) : value? = other? := by
  rcases h with ⟨literal, hliteral, -, hvalue⟩
  rcases h' with ⟨other, hother, -, hvalue'⟩
  cases hliteral.symm.trans hother
  exact hvalue.symm.trans hvalue'

theorem readsSingle_of_mark (hcurrent : p.reader.current? = some token)
    (hkind : token.kind = .floatingLiteral) (htext : PointText token.text whole fraction)
    (hmark : token.IsMarked) :
    p.ReadsSingle (some (pointValue whole fraction).toSingle) ∧
      p.WarnsOfRounding token (pointValue whole fraction) := by
  have hverdict := Verdict.ofToken_of_float_type p.scope hkind .single
  rw [Verdict.floatAsFloat_single_of_mark hmark] at hverdict
  have hvalue := floatValue?_float htext (.float .single) (some (.float .single))
  rw [if_pos rfl] at hvalue
  rcases literalRead?_of_accepted hcurrent hverdict with ⟨hread, hlog⟩
  unfold WarnsOfRounding
  rw [if_pos (.inl hmark)]
  exact ⟨⟨_, hread, rfl, hvalue⟩, hlog⟩

theorem readsSingle_of_no_mark (hcurrent : p.reader.current? = some token)
    (hkind : token.kind = .floatingLiteral) (htext : PointText token.text whole fraction)
    (hmark : ¬token.IsMarked) :
    p.ReadsSingle (if (pointValue whole fraction).beyondSingle then none
      else some (pointValue whole fraction).toSingle) ∧
      p.WarnsOfRounding token (pointValue whole fraction) := by
  have hverdict := Verdict.ofToken_of_float_type p.scope hkind .single
  rw [Verdict.floatAsFloat_single_of_no_mark htext hmark] at hverdict
  have hvalue := floatValue?_float htext (.float .single) (some (.float .single))
  rw [if_pos rfl] at hvalue
  generalize pointValue whole fraction = value at *
  unfold WarnsOfRounding
  by_cases hsame : value.toSingle = value
  · rw [if_pos hsame] at hverdict
    rcases literalRead?_of_accepted hcurrent hverdict with ⟨hread, hlog⟩
    rw [Binary64.beyondSingle_of_toSingle_eq hsame, if_pos (Or.inr hsame)]
    exact ⟨⟨_, hread, rfl, hvalue⟩, hlog⟩
  · rw [if_neg hsame] at hverdict
    rcases literalRead?_of_reported hcurrent hverdict with ⟨hread, hlog⟩
    have hfinite : value.isInfinite = false :=
      eq_false_of_ne_true fun h => hsame (Binary64.toSingle_of_isInfinite h)
    have hstored := floatValue?_stored token value.toSingle_inFormat
    rw [Binary64.isInfinite_toSingle, hfinite, Bool.false_or] at hstored
    rw [if_neg (not_or.mpr ⟨hmark, hsame⟩)]
    exact ⟨⟨_, hread, rfl, hstored⟩, _, hlog, rfl⟩

/-- What is stored of a literal where single precision is expected. It is the nearest number, except
that a finite number that is infinite in single precision, and does not bear the mark, is lost. -/
theorem readExpression_single (hcurrent : p.reader.current? = some token)
    (hkind : token.kind = .floatingLiteral) (htext : PointText token.text whole fraction) :
    p.ReadsSingle (if ¬token.IsMarked ∧ (pointValue whole fraction).beyondSingle then none
      else some (pointValue whole fraction).toSingle) ∧
    p.WarnsOfRounding token (pointValue whole fraction) ∧
    (p.StoresNearest token (pointValue whole fraction) ↔
      token.IsMarked ∨ (pointValue whole fraction).beyondSingle = false) := by
  have hreads : p.ReadsSingle
      (if ¬token.IsMarked ∧ (pointValue whole fraction).beyondSingle then none
        else some (pointValue whole fraction).toSingle) ∧
      p.WarnsOfRounding token (pointValue whole fraction) := by
    by_cases hmark : token.IsMarked
    · rw [if_neg fun h => h.1 hmark]
      exact readsSingle_of_mark hcurrent hkind htext hmark
    · simp only [hmark, not_false_eq_true, true_and]
      exact readsSingle_of_no_mark hcurrent hkind htext hmark
  refine ⟨hreads.1, hreads.2, ?_⟩
  unfold StoresNearest
  by_cases hlost : ¬token.IsMarked ∧ (pointValue whole fraction).beyondSingle
  · rw [if_pos hlost] at hreads
    constructor
    · intro h
      cases h.1.unique hreads.1
    · simp [hlost]
  · rw [if_neg hlost] at hreads
    constructor
    · intro _
      simpa [or_iff_not_imp_left] using hlost
    · intro _
      exact hreads

/-- A literal that is rounded down to the greatest number of single precision. -/
theorem readExpression_single_greatest :
    (ofTokens [⟨.floatingLiteral, "340282350000000000000000000000000000000.5", ⟨1, 1⟩⟩]
      "a.lang").StoresNearest
      ⟨.floatingLiteral, "340282350000000000000000000000000000000.5", ⟨1, 1⟩⟩
      (pointValue "340282350000000000000000000000000000000".toList ['5']) :=
  (readExpression_single rfl rfl
    ⟨by simp, by simp, by simp, by simp, .inl (by decide +kernel)⟩).2.2.mpr
    (.inr (by decide +kernel))

/-- A literal that is infinite in single precision has no value at all, although there is nothing
more to report of it than a loss of precision. -/
theorem not_storesNearest_of_tokenize :
    Lexer.tokenize {} "1000000000000000000000000000000000000000.0" =
        .ok [⟨.floatingLiteral, "1000000000000000000000000000000000000000.0", ⟨1, 1⟩⟩] ∧
      readFloat? "1000000000000000000000000000000000000000.0" =
        some (pointValue "1000000000000000000000000000000000000000".toList ['0']) ∧
      (pointValue "1000000000000000000000000000000000000000".toList ['0']).toSingle =
        .infinity false ∧
      ¬(ofTokens [⟨.floatingLiteral, "1000000000000000000000000000000000000000.0", ⟨1, 1⟩⟩]
        "a.lang").StoresNearest
        ⟨.floatingLiteral, "1000000000000000000000000000000000000000.0", ⟨1, 1⟩⟩
        (pointValue "1000000000000000000000000000000000000000".toList ['0']) := by
  refine ⟨by decide +kernel, by decide +kernel, by decide +kernel, ?_⟩
  intro h
  rcases h.1 with ⟨literal, hread, -, hvalue⟩
  have hnone : (literalRead? (ofTokens [⟨.floatingLiteral,
      "1000000000000000000000000000000000000000.0", ⟨1, 1⟩⟩] "a.lang")
      (some (.float .single))).bind Literal.floatValue? = none := by
    decide +kernel
  rw [hread, Option.bind_some, hvalue] at hnone
  cases hnone

/-- A literal that is read without a report against a floating-point type has the value that it has
by itself. -/
def KeepsValue (p q : Pass) (width : FloatWidth) : Prop :=
  (p.readExpression (some (.float width))).2.log = p.log →
    ∃ kept inferred, p.literalRead? (some (.float width)) = some kept ∧
      q.literalRead? none = some inferred ∧ kept.floatValue? = inferred.floatValue?

theorem literalRead?_double (hcurrent : p.reader.current? = some token)
    (hkind : token.kind = .floatingLiteral) (htext : PointText token.text whole fraction) :
    ∃ literal, p.literalRead? (some (.float .double)) = some literal ∧
      literal.floatValue? = some (pointValue whole fraction) := by
  have hverdict := Verdict.ofToken_of_float_type p.scope hkind .double
  rw [Verdict.floatAsFloat_double] at hverdict
  have hvalue := floatValue?_float htext (.float .double) (some (.float .double))
  rw [if_neg (by decide)] at hvalue
  exact ⟨_, (literalRead?_of_accepted hcurrent hverdict).1, hvalue⟩

theorem literalRead?_inferred (hcurrent : p.reader.current? = some token)
    (hkind : token.kind = .floatingLiteral) (htext : PointText token.text whole fraction) :
    ∃ literal, p.literalRead? none = some literal ∧
      literal.floatValue? = some (if token.IsMarked then (pointValue whole fraction).toSingle
        else pointValue whole fraction) :=
  ⟨_, (literalRead?_of_accepted hcurrent (Verdict.ofToken_of_no_type p.scope hkind)).1,
    Verdict.floatValue?_inferred htext⟩

theorem WarnsOfRounding.of_silent {value : Binary64} (h : p.WarnsOfRounding token value)
    (hsilent : (p.readExpression (some (.float .single))).2.log = p.log) :
    token.IsMarked ∨ value.toSingle = value := by
  by_contra hchange
  rw [WarnsOfRounding, if_neg hchange] at h
  rcases h with ⟨issue, hlog, -⟩
  exact issues_ne_push p.log issue (congrArg IssueLog.issues (hsilent.symm.trans hlog))

theorem literalRead?_single (hcurrent : p.reader.current? = some token)
    (hkind : token.kind = .floatingLiteral) (htext : PointText token.text whole fraction)
    (hsilent : (p.readExpression (some (.float .single))).2.log = p.log) :
    ∃ literal, p.literalRead? (some (.float .single)) = some literal ∧
      literal.floatValue? = some (if token.IsMarked then (pointValue whole fraction).toSingle
        else pointValue whole fraction) := by
  by_cases hmark : token.IsMarked
  · rw [if_pos hmark]
    rcases readsSingle_of_mark hcurrent hkind htext hmark with ⟨⟨literal, hread, -, hvalue⟩, -⟩
    exact ⟨literal, hread, hvalue⟩
  -- A number that is changed is not silent.
  · rw [if_neg hmark]
    rcases readsSingle_of_no_mark hcurrent hkind htext hmark with
      ⟨⟨literal, hread, -, hvalue⟩, hwarns⟩
    have hsame := (hwarns.of_silent hsilent).resolve_left hmark
    rw [Binary64.beyondSingle_of_toSingle_eq hsame, hsame] at hvalue
    exact ⟨literal, hread, hvalue⟩

/-- What a literal that is read without a report has for a value. It is the value that the literal
has by itself, except that a mark is ignored where double precision is expected. -/
theorem readExpression_silent (hp : p.reader.current? = some token)
    (hq : q.reader.current? = some token) (hkind : token.kind = .floatingLiteral)
    (htext : PointText token.text whole fraction) (width : FloatWidth)
    (hsilent : (p.readExpression (some (.float width))).2.log = p.log) :
    ∃ kept inferred, p.literalRead? (some (.float width)) = some kept ∧
      q.literalRead? none = some inferred ∧
      if token.IsMarked ∧ width = .double then
        kept.floatValue? = some (pointValue whole fraction) ∧
          inferred.floatValue? = some (pointValue whole fraction).toSingle
      else ∃ value, kept.floatValue? = some value ∧ inferred.floatValue? = some value := by
  rcases literalRead?_inferred hq hkind htext with ⟨inferred, hinferred, hself⟩
  cases width with
  | double =>
    rcases literalRead?_double hp hkind htext with ⟨kept, hkept, hvalue⟩
    refine ⟨kept, inferred, hkept, hinferred, ?_⟩
    by_cases hmark : token.IsMarked
    · rw [if_pos hmark] at hself
      rw [if_pos ⟨hmark, rfl⟩]
      exact ⟨hvalue, hself⟩
    · rw [if_neg hmark] at hself
      rw [if_neg fun h => hmark h.1]
      exact ⟨_, hvalue, hself⟩
  | single =>
    rcases literalRead?_single hp hkind htext hsilent with ⟨kept, hkept, hvalue⟩
    refine ⟨kept, inferred, hkept, hinferred, ?_⟩
    rw [if_neg (by simp)]
    exact ⟨_, hvalue, hself⟩

/-- A marked literal that double precision has exactly and single precision has not. -/
theorem readExpression_silent_mark :
    ∃ kept inferred,
      (ofTokens [⟨.floatingLiteral, "16777217.0f", ⟨1, 1⟩⟩] "a.lang").literalRead?
        (some (.float .double)) = some kept ∧
      (ofTokens [⟨.semicolon, ";", ⟨1, 1⟩⟩, ⟨.floatingLiteral, "16777217.0f", ⟨1, 1⟩⟩]
        "b.lang").skip.literalRead? none = some inferred ∧
      kept.floatValue? = some (.ofInt 16777217) ∧ inferred.floatValue? = some (.ofInt 16777216) := by
  have htext : PointText "16777217.0f" "16777217".toList ['0'] :=
    ⟨by simp, by simp, by simp, by simp, .inr (by decide +kernel)⟩
  rcases readExpression_silent
      (p := ofTokens [⟨.floatingLiteral, "16777217.0f", ⟨1, 1⟩⟩] "a.lang")
      (q := (ofTokens [⟨.semicolon, ";", ⟨1, 1⟩⟩, ⟨.floatingLiteral, "16777217.0f", ⟨1, 1⟩⟩]
        "b.lang").skip) rfl rfl rfl htext .double rfl with
    ⟨kept, inferred, hkept, hinferred, hvalues⟩
  have hmark : Token.IsMarked ⟨.floatingLiteral, "16777217.0f", ⟨1, 1⟩⟩ := by decide +kernel
  have hvalue : pointValue "16777217".toList ['0'] = .ofInt 16777217 := by decide +kernel
  have hsingle : (Binary64.ofInt 16777217).toSingle = .ofInt 16777216 := by decide +kernel
  rw [if_pos ⟨hmark, rfl⟩, hvalue, hsingle] at hvalues
  exact ⟨kept, inferred, hkept, hinferred, hvalues.1, hvalues.2⟩

/-- The mark of a literal is lost without a report where double precision is expected. -/
theorem not_keepsValue_of_tokenize :
    Lexer.tokenize {} "0.1f" = .ok [⟨.floatingLiteral, "0.1f", ⟨1, 1⟩⟩] ∧
      ¬KeepsValue (ofTokens [⟨.floatingLiteral, "0.1f", ⟨1, 1⟩⟩] "a.lang")
        (ofTokens [⟨.floatingLiteral, "0.1f", ⟨1, 1⟩⟩] "a.lang") .double := by
  refine ⟨by decide +kernel, ?_⟩
  intro h
  rcases h (by decide +kernel) with ⟨kept, inferred, hkept, hinferred, hvalue⟩
  have hdiffer : ((ofTokens [⟨.floatingLiteral, "0.1f", ⟨1, 1⟩⟩] "a.lang").literalRead?
      (some (.float .double))).bind Literal.floatValue? ≠
      ((ofTokens [⟨.floatingLiteral, "0.1f", ⟨1, 1⟩⟩] "a.lang").literalRead?
        none).bind Literal.floatValue? := by
    decide +kernel
  rw [hkept, hinferred] at hdiffer
  exact hdiffer hvalue

end Pass

end TypedLiterals
