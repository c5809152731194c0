import Mathlib.Tactic.SplitIfs
import TypedLiterals.Coercion.Pass

/-!
What reading expressions adds to a pass: for every reading one node or one error, perhaps one report
beside a node, and nothing else.
-/

namespace TypedLiterals

namespace Verdict

/-- Beside a node a verdict reports a loss of precision or a literal of the wrong kind. In place of
a node it reports an error. -/
def Proper : Verdict → Prop
  | accepted _ => True
  | reported _ finding => finding.kind = .lossOfPrecision ∨ finding.kind = .unexpectedToken
  | refused finding => finding.kind.severity = .error

theorem rangeFault?_severity {type : PrimType} {text : String} {finding : Finding}
    (h : rangeFault? type text = some finding) : finding.kind.severity = .error := by
  unfold rangeFault? at h
  split at h
  · cases h
    rfl
  · cases h
    rfl
  · split_ifs at h
    · cases h
      rfl
    · cases h
      rfl

theorem floatAsFloat_proper (token : Token) (type : PrimType) :
    (floatAsFloat token type).Proper := by
  unfold floatAsFloat
  split_ifs
  · trivial
  · split
    · rfl
    · dsimp only
      split_ifs
      · trivial
      · exact .inl rfl

theorem floatAsInt_proper (token : Token) (type : PrimType) : (floatAsInt token type).Proper := by
  unfold floatAsInt
  split
  · rfl
  · split_ifs
    · dsimp only
      split
      · rename_i hfault
        exact rangeFault?_severity hfault
      · trivial
    · rfl
    · rfl

theorem ofFloat_proper (token : Token) (expected : Option PrimType) :
    (ofFloat token expected).Proper := by
  unfold ofFloat
  split
  · trivial
  · exact .inr rfl
  · exact floatAsFloat_proper token _
  · exact floatAsInt_proper token _

theorem intAsInt_proper (token : Token) (value : Int) (type : PrimType) :
    (intAsInt token value type).Proper := by
  unfold intAsInt
  split_ifs
  · rfl
  · split
    · rename_i hfault
      exact rangeFault?_severity hfault
    · trivial

theorem ofInt_proper (token : Token) (expected : Option PrimType) :
    (ofInt token expected).Proper := by
  unfold ofInt
  split
  · rfl
  · split
    · trivial
    · exact .inr rfl
    · trivial
    · exact intAsInt_proper token _ _

theorem ofToken_proper (scope : Scope) (token : Token) (expected : Option PrimType) :
    (ofToken scope token expected).Proper := by
  unfold ofToken
  split
  · exact ofFloat_proper token expected
  · exact ofInt_proper token expected
  · trivial
  · split
    · trivial
    · rfl
  · rfl

end Verdict

namespace Pass

theorem readExpression_of_current {p : Pass} {token : Token}
    (h : p.reader.current? = some token) (expected : Option PrimType) :
    p.readExpression expected =
      p.skip.settle token (Verdict.ofToken p.scope token expected) := by
  simp only [readExpression, readWith, h]

theorem readExpression_of_end {p : Pass} (h : p.reader.current? = none)
    (expected : Option PrimType) : p.readExpression expected = p.missingExpression := by
  simp only [readExpression, readWith, h]

/-- The books of one reading, which began with `p`, answered with `handle` and left `q`. -/
structure Accounted (p : Pass) (handle : Handle) (q : Pass) : Prop where
  /-- A token is taken if there is one. -/
  reader : q.reader = { p.reader with
    position := p.reader.position + if p.reader.current?.isSome then 1 else 0 }
  /-- The handle is that of one new node, or there is none. -/
  node : (∃ node, handle = .node p.arena.size ∧ q.arena.nodes = p.arena.nodes.push node) ∨
    (handle = .void ∧ q.arena = p.arena)
  /-- Where there is no node there is an error. -/
  refused : handle = .void →
    ∃ issue, q.log.issues = p.log.issues.push issue ∧ issue.severity = .error
  /-- Beside a node there is at most one issue. -/
  reported : handle ≠ .void → q.log = p.log ∨
    ∃ issue, q.log.issues = p.log.issues.push issue ∧
      (issue.kind = .lossOfPrecision ∧ issue.severity = .warning ∨
        issue.kind = .unexpectedToken ∧ issue.severity = .error)
  /-- What is reported is reported at the token. -/
  location : ∀ token, p.reader.current? = some token →
    ∀ issue, q.log.issues = p.log.issues.push issue →
      issue.location = { token.place with file := p.file }
  scope : q.scope = p.scope
  file : q.file = p.file

-- A log that one more issue was pushed to is not the log it was.
theorem issues_ne_push (log : IssueLog) (issue : Issue) : log.issues ≠ log.issues.push issue := by
  intro h
  have hsize := congrArg Array.size h
  rw [Array.size_push] at hsize
  omega

theorem settle_reader_eq {p : Pass} {token : Token} (h : p.reader.current? = some token)
    (verdict : Verdict) : (p.skip.settle token verdict).2.reader = { p.reader with
      position := p.reader.position + if p.reader.current?.isSome then 1 else 0 } := by
  rw [settle_reader, h]
  exact TokenReader.skip_of_current? h

-- Whatever is pushed to the log for a token is reported there.
theorem location_of_push {p : Pass} {token found : Token} {finding : Finding} {issue : Issue}
    (h : p.reader.current? = some token) (hfound : p.reader.current? = some found)
    (hpush : p.log.issues.push (finding.issueAt (p.locationOf token)) =
      p.log.issues.push issue) : issue.location = { found.place with file := p.file } := by
  obtain rfl : token = found := Option.some.inj (h.symm.trans hfound)
  rcases Array.push_eq_push.mp hpush with ⟨rfl, -⟩
  rfl

theorem settle_accounted {p : Pass} {token : Token} {verdict : Verdict}
    (h : p.reader.current? = some token) (hproper : verdict.Proper) :
    Accounted p (p.skip.settle token verdict).1 (p.skip.settle token verdict).2 := by
  cases verdict with
  | accepted node =>
    exact {
      reader := settle_reader_eq h _
      node := .inl ⟨node, rfl, rfl⟩
      refused := nofun
      reported := fun _ => .inl rfl
      location := fun _ _ issue hpush => absurd hpush (issues_ne_push p.log issue)
      scope := rfl
      file := rfl }
  | reported node finding =>
    refine {
      reader := settle_reader_eq h _
      node := .inl ⟨node, rfl, rfl⟩
      refused := nofun
      reported := fun _ => .inr ⟨_, rfl, ?_⟩
      location := fun _ hfound _ hpush => location_of_push h hfound hpush
      scope := rfl
      file := rfl }
    rcases hproper with hkind | hkind
    · exact .inl ⟨hkind, congrArg IssueKind.severity hkind⟩
    · exact .inr ⟨hkind, congrArg IssueKind.severity hkind⟩
  | refused finding =>
    exact {
      reader := settle_reader_eq h _
      node := .inr ⟨rfl, rfl⟩
      refused := fun _ => ⟨_, rfl, hproper⟩
      reported := fun hvoid => absurd rfl hvoid
      location := fun _ hfound _ hpush => location_of_push h hfound hpush
      scope := rfl
      file := rfl }

theorem missingExpression_accounted {p : Pass} (h : p.reader.current? = none) :
    Accounted p p.missingExpression.1 p.missingExpression.2 where
  reader := by
    rw [h]
    rfl
  node := .inr ⟨rfl, rfl⟩
  refused _ := ⟨_, rfl, rfl⟩
  reported hvoid := absurd rfl hvoid
  location token hfound := by
    rw [h] at hfound
    cases hfound
  scope := rfl
  file := rfl

theorem readExpression_step (p : Pass) (expected : Option PrimType) :
    Accounted p (p.readExpression expected).1 (p.readExpression expected).2 := by
  cases h : p.reader.current? with
  | none =>
    rw [readExpression_of_end h]
    exact missingExpression_accounted h
  | some token =>
    rw [readExpression_of_current h]
    exact settle_accounted h (Verdict.ofToken_proper _ _ _)

/-- Reads as many expressions as there are types, each against its own. -/
def readAll : List (Option PrimType) → Pass → List Handle × Pass
  | [], p => ([], p)
  | expected :: others, p =>
    let read := p.readExpression expected
    let rest := readAll others read.2
    (read.1 :: rest.1, rest.2)

/-- The books of a run that began with `p`, answered with `handles` and left `q`. -/
structure RunAccounted (p : Pass) (handles : List Handle) (q : Pass) : Prop where
  /-- Every reading is a new node or none. -/
  nodes : p.arena.size + handles.length = q.arena.size + handles.countP Handle.isVoid
  /-- There are errors just where there were some, a node is missing or a literal was of the wrong
  kind. -/
  hasErrors : ∃ issues : Array Issue, q.log.issues = p.log.issues ++ issues ∧
    (q.log.hasErrors = true ↔ p.log.hasErrors = true ∨ .void ∈ handles ∨
      ∃ issue ∈ issues, issue.kind = .unexpectedToken)

theorem hasErrors_of_push {log before : IssueLog} {issue : Issue}
    (h : log.issues = before.issues.push issue) :
    log.hasErrors = (before.hasErrors || decide (issue.severity = .error)) := by
  have hlog : log = before.push issue := congrArg IssueLog.mk h
  rw [hlog, IssueLog.hasErrors_push]

-- The errors after one reading.
theorem Accounted.hasErrors {p q : Pass} {handle : Handle} (h : Accounted p handle q) :
    ∃ issues : Array Issue, q.log.issues = p.log.issues ++ issues ∧
      (q.log.hasErrors = true ↔ p.log.hasErrors = true ∨ handle = .void ∨
        ∃ issue ∈ issues, issue.kind = .unexpectedToken) := by
  by_cases hvoid : handle = .void
  · rcases h.refused hvoid with ⟨issue, hpush, hseverity⟩
    refine ⟨#[issue], hpush, ?_⟩
    simp [hasErrors_of_push hpush, hseverity, hvoid]
  · rcases h.reported hvoid with hlog | ⟨issue, hpush, ⟨hkind, hseverity⟩ | ⟨hkind, hseverity⟩⟩
    · refine ⟨#[], by simp [hlog], ?_⟩
      simp [hlog, hvoid]
    · refine ⟨#[issue], hpush, ?_⟩
      simp [hasErrors_of_push hpush, hseverity, hkind, hvoid]
    · refine ⟨#[issue], hpush, ?_⟩
      simp [hasErrors_of_push hpush, hseverity, hkind]

-- One reading and a run behind it are a run.
theorem RunAccounted.cons {p q r : Pass} {handle : Handle} {handles : List Handle}
    (hstep : Accounted p handle q) (hrun : RunAccounted q handles r) :
    RunAccounted p (handle :: handles) r where
  nodes := by
    have hnodes := hrun.nodes
    rcases hstep.node with ⟨node, rfl, hpush⟩ | ⟨rfl, harena⟩
    · have hsize : q.arena.size = p.arena.size + 1 := by
        rw [Arena.size, hpush, Array.size_push]
        rfl
      rw [List.countP_cons_of_neg (by simp [Handle.isVoid]), List.length_cons]
      omega
    · rw [harena] at hnodes
      rw [List.countP_cons_of_pos (by rfl), List.length_cons]
      omega
  hasErrors := by
    rcases hstep.hasErrors with ⟨first, hfirst, herrors⟩
    rcases hrun.hasErrors with ⟨later, hlater, hmore⟩
    refine ⟨first ++ later, by rw [hlater, hfirst, Array.append_assoc], ?_⟩
    rw [hmore, herrors]
    simp only [List.mem_cons, Array.mem_append, or_and_right, exists_or]
    refine ⟨?_, ?_⟩
    · rintro ((h | h | h) | h | h)
      · exact .inl h
      · exact .inr (.inl (.inl h.symm))
      · exact .inr (.inr (.inl h))
      · exact .inr (.inl (.inr h))
      · exact .inr (.inr (.inr h))
    · rintro (h | (h | h) | h | h)
      · exact .inl (.inl h)
      · exact .inl (.inr (.inl h.symm))
      · exact .inr (.inl h)
      · exact .inl (.inr (.inr h))
      · exact .inr (.inr h)

theorem readAll_accounted (expected : List (Option PrimType)) (p : Pass) :
    RunAccounted p (readAll expected p).1 (readAll expected p).2 := by
  induction expected generalizing p with
  | nil => exact ⟨rfl, #[], by simp [readAll], by simp [readAll]⟩
  | cons type others ih => exact .cons (readExpression_step p type) (ih _)

theorem length_readAll (expected : List (Option PrimType)) (p : Pass) :
    (readAll expected p).1.length = expected.length := by
  induction expected generalizing p with
  | nil => rfl
  | cons type others ih => exact congrArg (· + 1) (ih _)

/-- The books of every reading and of every run of readings. -/
theorem readExpression_accounted :
    (∀ (p : Pass) (expected : Option PrimType),
      Accounted p (p.readExpression expected).1 (p.readExpression expected).2) ∧
    ∀ (p : Pass) (expected : List (Option PrimType)),
      (readAll expected p).1.length = expected.length ∧
        RunAccounted p (readAll expected p).1 (readAll expected p).2 :=
  ⟨readExpression_step, fun p expected => ⟨length_readAll expected p, readAll_accounted expected p⟩⟩

end Pass

end TypedLiterals
