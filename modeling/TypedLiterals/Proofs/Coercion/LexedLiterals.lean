import TypedLiterals.Proofs.Coercion.IntegerRange
import TypedLiterals.Proofs.Coercion.Locality
import TypedLiterals.Proofs.Token.NumberTokens

/-!
What the lexer calls a number can always be read as one, and it is never negative. So no literal of
a source is ever reported as malformed or as too small, and only a literal with a point can be
refused for what it is, which takes an integer type to be expected.
-/

namespace TypedLiterals

namespace Verdict

variable {token : Token} {expected : Option PrimType} {type : PrimType} {finding : Finding}

/-- A finding that the form of a literal leaves open: one that does not speak against the form
itself, or that refuses a literal with a point where an integer is expected. -/
structure Open (token : Token) (expected : Option PrimType) (finding : Finding) : Prop where
  readable : finding.kind ≠ .malformedLiteral
  notSmall : finding.kind ≠ .integerUnderflow
  convertible : finding.kind = .invalidTypeConversion →
    token.kind = .floatingLiteral ∧ ∃ type, expected = some type ∧ type.isInteger = true

theorem Open.of_kind (h : finding.kind = .integerOverflow ∨ finding.kind = .lossOfPrecision ∨
    finding.kind = .unexpectedToken ∨ finding.kind = .unknownVariable) :
    Open token expected finding := by
  rcases h with h | h | h | h <;> exact ⟨by rw [h]; decide, by rw [h]; decide, by rw [h]; nofun⟩

theorem Open.of_conversion (hkind : finding.kind = .invalidTypeConversion)
    (htoken : token.kind = .floatingLiteral) (htype : type.isInteger = true) :
    Open token (some type) finding :=
  ⟨by rw [hkind]; decide, by rw [hkind]; decide, fun _ => ⟨htoken, type, rfl, htype⟩⟩

theorem exists_range_of_isInteger (h : type.isInteger = true) :
    ∃ range, type.range? = some range ∧ range.least ≤ 0 := by
  obtain ⟨range, hrange⟩ : ∃ range, type.range? = some range := by
    cases type with
    | bool => cases h
    | float width => cases h
    | signed width => exact ⟨_, rfl⟩
    | unsigned width => exact ⟨_, rfl⟩
  exact ⟨range, hrange, PrimType.least_nonpos hrange⟩

-- A natural number is at most too large for an integer type.
theorem rangeFault?_of_natural {text : String} {n : Nat}
    (hvalue : readInteger? text = some (n : Int)) (htype : type.isInteger = true)
    (h : rangeFault? type text = some finding) :
    finding.kind = .integerOverflow := by
  obtain ⟨range, hrange, hleast⟩ := exists_range_of_isInteger htype
  rw [rangeFault?_of_range hvalue hrange] at h
  split_ifs at h with habove hbelow
  · cases h
    rfl
  · omega

theorem floatAsFloat_open {whole fraction : List Char} (htext : PointText token.text whole fraction)
    (h : (floatAsFloat token type).finding? = some finding) : Open token expected finding := by
  unfold floatAsFloat at h
  simp only [htext.readFloat?_eq] at h
  split_ifs at h
  · cases h
  · cases h
  · cases h
    exact .of_kind (.inr (.inl rfl))

theorem floatAsInt_open {whole fraction : List Char} (htext : PointText token.text whole fraction)
    (htoken : token.kind = .floatingLiteral) (htype : type.isInteger = true)
    (h : (floatAsInt token type).finding? = some finding) : Open token (some type) finding := by
  have hvalue : readInteger? (String.ofList whole) = some (ofDigits 10 whole : Int) :=
    readInteger?_ofList_digits htext.whole_ne htext.whole_digits
  unfold floatAsInt at h
  simp only [htext.readFloat?_eq, htext.takeWhile_eq] at h
  split_ifs at h
  · split at h
    · rename_i hfault
      cases h
      exact .of_kind (.inl (rangeFault?_of_natural hvalue htype hfault))
    · cases h
  · cases h
    exact .of_conversion rfl htoken htype
  · cases h
    exact .of_conversion rfl htoken htype

theorem ofFloat_open (htext : NumberText token.kind token.text.toList)
    (htoken : token.kind = .floatingLiteral)
    (h : (ofFloat token expected).finding? = some finding) : Open token expected finding := by
  obtain ⟨whole, fraction, hpoint⟩ := htext.point htoken
  rw [String.ofList_toList] at hpoint
  cases expected with
  | none => cases h
  | some type =>
    cases type with
    | bool =>
      cases h
      exact .of_kind (.inr (.inr (.inl rfl)))
    | float width => exact floatAsFloat_open hpoint h
    | signed width => exact floatAsInt_open hpoint htoken rfl h
    | unsigned width => exact floatAsInt_open hpoint htoken rfl h

theorem intAsInt_open {n : Nat} (hvalue : readInteger? token.text = some (n : Int))
    (htype : type.isInteger = true) (h : (intAsInt token n type).finding? = some finding) :
    Open token expected finding := by
  have hsign : ¬(type.isUnsigned = true ∧ (n : Int) < 0) := by omega
  rw [intAsInt, if_neg hsign] at h
  split at h
  · rename_i hfault
    cases h
    exact .of_kind (.inl (rangeFault?_of_natural hvalue htype hfault))
  · cases h

theorem ofInt_open (htext : NumberText token.kind token.text.toList)
    (htoken : token.kind = .integerLiteral)
    (h : (ofInt token expected).finding? = some finding) : Open token expected finding := by
  obtain ⟨n, hvalue⟩ := (htext.natural htoken).readInteger?_eq
  rw [ofInt] at h
  simp only [hvalue] at h
  cases expected with
  | none => cases h
  | some type =>
    cases type with
    | bool =>
      cases h
      exact .of_kind (.inr (.inr (.inl rfl)))
    | float width => cases h
    | signed width => exact intAsInt_open hvalue rfl h
    | unsigned width => exact intAsInt_open hvalue rfl h

theorem ofToken_open {scope : Scope} (htext : NumberText token.kind token.text.toList)
    (h : (ofToken scope token expected).finding? = some finding) : Open token expected finding := by
  unfold ofToken at h
  split at h
  · rename_i htoken
    exact ofFloat_open htext htoken h
  · rename_i htoken
    exact ofInt_open htext htoken h
  · cases h
  · split at h
    · cases h
    · cases h
      exact .of_kind (.inr (.inr (.inr rfl)))
  · cases h
    exact .of_kind (.inr (.inr (.inl rfl)))

end Verdict

namespace Pass

/-- What a parser does with a pass: it reads an expression, passes over a token, or goes to a saved
position. -/
inductive Action where
  | read (expected : Option PrimType)
  | skip
  | restore (s : Snapshot)

def act (p : Pass) : Action → Pass
  | .read expected => (p.readExpression expected).2
  | .skip => p.skip
  | .restore s => p.restore s

def run (p : Pass) (actions : List Action) : Pass :=
  actions.foldl act p

/-- Among the actions there is a reading that expects an integer, finds a floating-point literal and
collects the issue. -/
def RefusesFloat (p : Pass) (actions : List Action) (issue : Issue) : Prop :=
  ∃ before type after token, actions = before ++ .read (some type) :: after ∧
    type.isInteger = true ∧ (p.run before).reader.current? = some token ∧
    token.kind = .floatingLiteral ∧
    (p.run (before ++ [.read (some type)])).log.issues.toList =
      (p.run before).log.issues.toList ++ [issue]

/-- The issue says nothing against the form of a literal. -/
structure Collects (p : Pass) (actions : List Action) (issue : Issue) : Prop where
  readable : issue.kind ≠ .malformedLiteral
  notSmall : issue.kind ≠ .integerUnderflow
  convertible : issue.kind = .invalidTypeConversion → p.RefusesFloat actions issue

variable {p : Pass} {action : Action} {actions : List Action} {issue : Issue}

theorem Collects.cons (h : (p.act action).Collects actions issue) :
    p.Collects (action :: actions) issue where
  readable := h.readable
  notSmall := h.notSmall
  convertible hkind := by
    obtain ⟨before, type, after, token, rfl, hrest⟩ := h.convertible hkind
    exact ⟨action :: before, type, after, token, rfl, hrest⟩

theorem act_tokens (p : Pass) (action : Action) :
    (p.act action).reader.tokens = p.reader.tokens := by
  cases action with
  | read expected =>
    show (p.readExpression expected).2.reader.tokens = p.reader.tokens
    rw [(readExpression_step p expected).reader]
  | skip => exact p.reader.skip_tokens
  | restore s => rfl

theorem read_collects (hlexed : ∀ token ∈ p.reader.tokens, NumberText token.kind token.text.toList)
    (expected : Option PrimType) (actions : List Action) :
    ∃ issues, (p.act (.read expected)).log.issues.toList = p.log.issues.toList ++ issues ∧
      ∀ issue ∈ issues, p.Collects (.read expected :: actions) issue := by
  cases hcurrent : p.reader.current? with
  | none =>
    have hread := readExpression_of_end hcurrent expected
    refine ⟨[Finding.endOfInput.issueAt p.endLocation], ?_, ?_⟩
    · show (p.readExpression expected).2.log.issues.toList = _
      rw [hread]
      exact Array.toList_push
    · intro issue hissue
      rw [List.mem_singleton] at hissue
      subst hissue
      exact ⟨nofun, nofun, nofun⟩
  | some token =>
    have hadds := (readExpression_adds hcurrent expected).issues
    have hmem : token ∈ p.reader.tokens := List.mem_of_getElem? hcurrent
    refine ⟨_, hadds, ?_⟩
    intro issue hissue
    cases hfinding : (Verdict.ofToken p.scope token expected).finding? with
    | none =>
      rw [Verdict.issuesAt, hfinding] at hissue
      cases hissue
    | some finding =>
      have hopen := Verdict.ofToken_open (hlexed token hmem) hfinding
      rw [Verdict.issuesAt, hfinding] at hissue hadds
      obtain rfl : issue = finding.issueAt (p.locationOf token) := List.mem_singleton.mp hissue
      refine ⟨hopen.readable, hopen.notSmall, ?_⟩
      intro hkind
      obtain ⟨htoken, type, rfl, htype⟩ := hopen.convertible hkind
      exact ⟨[], type, actions, token, rfl, htype, hcurrent, htoken, hadds⟩

theorem act_collects (hlexed : ∀ token ∈ p.reader.tokens, NumberText token.kind token.text.toList)
    (action : Action) (actions : List Action) :
    ∃ issues, (p.act action).log.issues.toList = p.log.issues.toList ++ issues ∧
      ∀ issue ∈ issues, p.Collects (action :: actions) issue := by
  cases action with
  | read expected => exact read_collects hlexed expected actions
  | skip => exact ⟨[], (List.append_nil _).symm, nofun⟩
  | restore s => exact ⟨[], (List.append_nil _).symm, nofun⟩

theorem run_collects (hlexed : ∀ token ∈ p.reader.tokens, NumberText token.kind token.text.toList)
    (actions : List Action) :
    ∃ issues, (p.run actions).log.issues.toList = p.log.issues.toList ++ issues ∧
      ∀ issue ∈ issues, p.Collects actions issue := by
  induction actions generalizing p with
  | nil => exact ⟨[], (List.append_nil _).symm, nofun⟩
  | cons action actions ih =>
    obtain ⟨first, hfirst, hcollects⟩ := act_collects hlexed action actions
    rw [← act_tokens p action] at hlexed
    obtain ⟨later, hlater, hmore⟩ := ih hlexed
    refine ⟨first ++ later, ?_, ?_⟩
    · show ((p.act action).run actions).log.issues.toList = _
      rw [hlater, hfirst, List.append_assoc]
    · intro issue hissue
      rcases List.mem_append.mp hissue with hissue | hissue
      · exact hcollects issue hissue
      · exact (hmore issue hissue).cons

/-- The lexer and the readers of numbers agree on what a number is. Whatever is read of the tokens
of a source, in whatever order and against whatever types, no literal is malformed or too small. -/
theorem run_lexed {lexer : Lexer} {source : String} {tokens : List Token}
    (hrules : lexer.rules = .language) (h : lexer.tokenize source = .ok tokens) :
    (∀ token ∈ tokens, token.kind = .integerLiteral →
      ∃ n : Nat, readInteger? token.text = some (n : Int)) ∧
    (∀ token ∈ tokens, token.kind = .floatingLiteral → (readFloat? token.text).isSome) ∧
    ∀ (p : Pass) (actions : List Action), p.reader.tokens = tokens →
      ∃ issues, (p.run actions).log.issues.toList = p.log.issues.toList ++ issues ∧
        ∀ issue ∈ issues, p.Collects actions issue := by
  have hlexed := Lexer.numberText_of_tokenize hrules h
  refine ⟨?_, ?_, ?_⟩
  · intro token hmem hkind
    exact ((hlexed token hmem).natural hkind).readInteger?_eq
  · intro token hmem hkind
    obtain ⟨whole, fraction, hpoint⟩ := Lexer.pointText_of_tokenize hrules h hmem hkind
    rw [hpoint.readFloat?_eq, Option.isSome_some]
  · rintro p actions rfl
    exact run_collects hlexed actions

/-- A fraction that is refused as an integer twice, once after going back from behind the end. -/
theorem run_lexed_fraction :
    ({} : Lexer).tokenize "1.5 0x1F" =
        .ok [⟨.floatingLiteral, "1.5", ⟨1, 1⟩⟩, ⟨.integerLiteral, "0x1F", ⟨1, 5⟩⟩] ∧
      ∃ issues,
        ((ofTokens [⟨.floatingLiteral, "1.5", ⟨1, 1⟩⟩, ⟨.integerLiteral, "0x1F", ⟨1, 5⟩⟩]
          "a.lang").run [.read (some (.signed .w32)), .restore ⟨9⟩, .skip, .restore ⟨0⟩,
            .read (some (.unsigned .w8)), .read (some (.signed .w8))]).log.issues.toList =
          [] ++ issues ∧
        ∀ issue ∈ issues,
          (ofTokens [⟨.floatingLiteral, "1.5", ⟨1, 1⟩⟩, ⟨.integerLiteral, "0x1F", ⟨1, 5⟩⟩]
            "a.lang").Collects [.read (some (.signed .w32)), .restore ⟨9⟩, .skip, .restore ⟨0⟩,
              .read (some (.unsigned .w8)), .read (some (.signed .w8))] issue := by
  have h : ({} : Lexer).tokenize "1.5 0x1F" =
      .ok [⟨.floatingLiteral, "1.5", ⟨1, 1⟩⟩, ⟨.integerLiteral, "0x1F", ⟨1, 5⟩⟩] := by
    decide +kernel
  exact ⟨h, (run_lexed rfl h).2.2 _ _ rfl⟩

end Pass

end TypedLiterals
