import Mathlib.Logic.Function.Iterate
import TypedLiterals.Proofs.Coercion.Accounting

/-!
What is read hangs on the current token, the expected type and the variable of that name, and on
nothing else in a pass. So the sweep over a list of tokens is a map: it takes one step for each
token, and each literal adds what it adds to a fresh pass over this token alone.
-/

namespace TypedLiterals

namespace TokenKind

/-- The literals that have a value type: numbers and truth values. -/
def isTyped : TokenKind → Bool
  | .integerLiteral | .floatingLiteral | .boolLiteral => true
  | _ => false

theorem isTyped_iff {kind : TokenKind} : kind.isTyped = true ↔
    kind = .integerLiteral ∨ kind = .floatingLiteral ∨ kind = .boolLiteral := by
  cases kind <;> decide

-- They are the literals that are no strings.
theorem isTyped_iff_isLiteral {kind : TokenKind} :
    kind.isTyped = true ↔ kind.isLiteral = true ∧ kind ≠ .stringLiteral := by
  cases kind <;> decide

end TokenKind

namespace Verdict

def node? : Verdict → Option Node
  | accepted node => some node
  | reported node _ => some node
  | refused _ => none

def finding? : Verdict → Option Finding
  | accepted _ => none
  | reported _ finding => some finding
  | refused finding => some finding

def issuesAt (location : Location) (verdict : Verdict) : List Issue :=
  (verdict.finding?.map (·.issueAt location)).toList

theorem ofToken_congr {scope other : Scope} {token : Token}
    (h : scope.find? token.text = other.find? token.text) (expected : Option PrimType) :
    ofToken scope token expected = ofToken other token expected := by
  unfold ofToken
  rw [h]

theorem ofToken_of_integer (scope : Scope) {token : Token} (h : token.kind = .integerLiteral)
    (expected : Option PrimType) : ofToken scope token expected = ofInt token expected := by
  simp only [ofToken, h]

theorem ofToken_of_floating (scope : Scope) {token : Token} (h : token.kind = .floatingLiteral)
    (expected : Option PrimType) : ofToken scope token expected = ofFloat token expected := by
  simp only [ofToken, h]

end Verdict

namespace TokenReader

/-- The current token and those behind it. -/
def unread (r : TokenReader) : List Token :=
  r.tokens.drop r.position

theorem current?_of_unread_nil {r : TokenReader} (h : r.unread = []) : r.current? = none := by
  rw [current?, ← List.head?_drop]
  exact congrArg List.head? h

theorem current?_of_unread_cons {r : TokenReader} {token : Token} {rest : List Token}
    (h : r.unread = token :: rest) : r.current? = some token := by
  rw [current?, ← List.head?_drop]
  exact congrArg List.head? h

@[simp] theorem skip_tokens (r : TokenReader) : r.skip.tokens = r.tokens := by
  unfold skip
  split <;> rfl

theorem unread_skip {r : TokenReader} {token : Token} {rest : List Token}
    (h : r.unread = token :: rest) : r.skip.unread = rest := by
  rw [skip_of_current? (current?_of_unread_cons h), unread, ← List.tail_drop]
  exact congrArg List.tail h

end TokenReader

namespace Pass

variable {p q : Pass} {token : Token} {expected : Option PrimType}

/-- The second pass has what the first one has, and behind it these nodes and issues. -/
structure Extends (p : Pass) (nodes : List Node) (issues : List Issue) (q : Pass) : Prop where
  nodes : q.arena.nodes.toList = p.arena.nodes.toList ++ nodes
  issues : q.log.issues.toList = p.log.issues.toList ++ issues

theorem Extends.refl (p : Pass) : Extends p [] [] p :=
  ⟨(List.append_nil _).symm, (List.append_nil _).symm⟩

theorem Extends.trans {r : Pass} {nodes nodes' : List Node} {issues issues' : List Issue}
    (h : Extends p nodes issues q) (h' : Extends q nodes' issues' r) :
    Extends p (nodes ++ nodes') (issues ++ issues') r where
  nodes := by rw [h'.nodes, h.nodes, List.append_assoc]
  issues := by rw [h'.issues, h.issues, List.append_assoc]

/-- A reading that began with `p` added this node, if any, and these issues. The handle that it
answers with is that of the node. -/
structure Adds (p : Pass) (node? : Option Node) (issues : List Issue) (read : Handle × Pass) :
    Prop extends Extends p node?.toList issues read.2 where
  handle : read.1 = if node?.isSome then .node p.arena.size else .void

theorem settle_adds (p : Pass) (token : Token) (verdict : Verdict) :
    Adds p verdict.node? (verdict.issuesAt (p.locationOf token)) (p.skip.settle token verdict) := by
  cases verdict with
  | accepted node => exact ⟨⟨Array.toList_push, (List.append_nil _).symm⟩, rfl⟩
  | reported node finding => exact ⟨⟨Array.toList_push, Array.toList_push⟩, rfl⟩
  | refused finding => exact ⟨⟨(List.append_nil _).symm, Array.toList_push⟩, rfl⟩

theorem readExpression_adds (h : p.reader.current? = some token) (expected : Option PrimType) :
    Adds p (Verdict.ofToken p.scope token expected).node?
      ((Verdict.ofToken p.scope token expected).issuesAt (p.locationOf token))
      (p.readExpression expected) := by
  rw [readExpression_of_current h]
  exact settle_adds p token _

theorem locationOf_congr (h : p.file = q.file) (token : Token) :
    p.locationOf token = q.locationOf token := by
  rw [locationOf, locationOf, h]

-- Two passes that agree on the file, the token and the variable of its name.
theorem readExpression_adds_both (hfile : p.file = q.file) (hp : p.reader.current? = some token)
    (hq : q.reader.current? = some token)
    (hscope : p.scope.find? token.text = q.scope.find? token.text) (expected : Option PrimType) :
    ∃ node? issues, Adds p node? issues (p.readExpression expected) ∧
      Adds q node? issues (q.readExpression expected) := by
  refine ⟨_, _, readExpression_adds hp expected, ?_⟩
  rw [Verdict.ofToken_congr hscope, locationOf_congr hfile]
  exact readExpression_adds hq expected

/-- One step of the sweep: a typed literal is read, and any other token is passed over. -/
def sweepStep (expected : Option PrimType) (p : Pass) : Pass :=
  if p.reader.current?.any (·.kind.isTyped) then (p.readExpression expected).2 else p.skip

/-- What reading a token alone leaves, in a fresh pass. -/
def readAlone (file : String) (expected : Option PrimType) (token : Token) : Pass :=
  ((ofTokens [token] file).readExpression expected).2

theorem sweepStep_of_current (h : p.reader.current? = some token) (expected : Option PrimType) :
    sweepStep expected p =
      if token.kind.isTyped then (p.readExpression expected).2 else p.skip := by
  rw [sweepStep, h, Option.any_some]

-- Each step of the sweep takes one token.
theorem sweepStep_reader (h : p.reader.current? = some token) (expected : Option PrimType) :
    (sweepStep expected p).reader = p.reader.skip := by
  rw [sweepStep_of_current h]
  split
  · exact readWith_reader h _
  · rfl

theorem readLiterals_of_current (h : p.reader.current? = some token)
    (expected : Option PrimType) :
    p.readLiterals expected =
      let others := (sweepStep expected p).readLiterals expected
      ((if token.kind.isTyped then [(token, (p.readExpression expected).1)] else []) ++ others.1,
        others.2) := by
  rw [sweepStep_of_current h, readLiterals.eq_def]
  split
  · rename_i hnone
    rw [h] at hnone
    cases hnone
  · rename_i found hfound
    rw [h] at hfound
    cases hfound
    simp only [← TokenKind.isTyped_iff_isLiteral]
    split <;> rfl

theorem readLiterals_of_end (h : p.reader.current? = none) (expected : Option PrimType) :
    p.readLiterals expected = ([], p) := by
  rw [readLiterals.eq_def]
  split
  · rfl
  · rename_i hfound
    rw [h] at hfound
    cases hfound

-- What the sweep leaves is what its steps leave, one for each token that is left.
theorem readLiterals_eq_iterate (expected : Option PrimType) (p : Pass) :
    (p.readLiterals expected).2 = (sweepStep expected)^[p.reader.unread.length] p := by
  generalize hunread : p.reader.unread = unread
  induction unread generalizing p with
  | nil =>
    rw [readLiterals_of_end (TokenReader.current?_of_unread_nil hunread)]
    rfl
  | cons token rest ih =>
    have hcurrent := TokenReader.current?_of_unread_cons hunread
    rw [readLiterals_of_current hcurrent, List.length_cons, Function.iterate_succ_apply]
    apply ih
    rw [sweepStep_reader hcurrent]
    exact TokenReader.unread_skip hunread

-- A token adds what it adds alone. There are no variables in either pass.
theorem readExpression_adds_alone (hscope : p.scope = {}) (h : p.reader.current? = some token)
    (expected : Option PrimType) :
    ∃ node? issues, Adds p node? issues (p.readExpression expected) ∧
      Adds (ofTokens [token] p.file) node? issues
        ((ofTokens [token] p.file).readExpression expected) := by
  have hlookup : p.scope.find? token.text = (ofTokens [token] p.file).scope.find? token.text := by
    rw [hscope]
    rfl
  have hfile : p.file = (ofTokens [token] p.file).file := rfl
  have hcurrent : (ofTokens [token] p.file).reader.current? = some token := rfl
  exact readExpression_adds_both hfile h hcurrent hlookup expected

theorem sweepStep_extends_typed (hscope : p.scope = {}) (h : p.reader.current? = some token)
    (htyped : token.kind.isTyped = true) (expected : Option PrimType) :
    Extends p (readAlone p.file expected token).arena.nodes.toList
      (readAlone p.file expected token).log.issues.toList (sweepStep expected p) := by
  obtain ⟨node?, issues, hadds, halone⟩ := readExpression_adds_alone hscope h expected
  have hnodes : (readAlone p.file expected token).arena.nodes.toList = node?.toList :=
    halone.nodes
  have hissues : (readAlone p.file expected token).log.issues.toList = issues :=
    halone.issues
  rw [sweepStep_of_current h, if_pos htyped, hnodes, hissues]
  exact hadds.toExtends

theorem sweepStep_eq_skip (h : p.reader.current? = some token)
    (htyped : ¬token.kind.isTyped = true) (expected : Option PrimType) :
    sweepStep expected p = p.skip := by
  rw [sweepStep_of_current h, if_neg htyped]

theorem sweepStep_file_scope (h : p.reader.current? = some token) (expected : Option PrimType) :
    (sweepStep expected p).file = p.file ∧ (sweepStep expected p).scope = p.scope := by
  rw [sweepStep_of_current h]
  split
  · have haccounted := readExpression_step p expected
    exact ⟨haccounted.file, haccounted.scope⟩
  · exact ⟨rfl, rfl⟩

theorem readLiterals_extends (hscope : p.scope = {}) (expected : Option PrimType) :
    Extends p
      ((p.reader.unread.filter (·.kind.isTyped)).flatMap fun token =>
        (readAlone p.file expected token).arena.nodes.toList)
      ((p.reader.unread.filter (·.kind.isTyped)).flatMap fun token =>
        (readAlone p.file expected token).log.issues.toList)
      (p.readLiterals expected).2 := by
  generalize hunread : p.reader.unread = unread
  induction unread generalizing p with
  | nil =>
    rw [readLiterals_of_end (TokenReader.current?_of_unread_nil hunread)]
    exact .refl p
  | cons token rest ih =>
    have hcurrent := TokenReader.current?_of_unread_cons hunread
    obtain ⟨hfile, hscope'⟩ := sweepStep_file_scope hcurrent expected
    have hrest : (sweepStep expected p).reader.unread = rest := by
      rw [sweepStep_reader hcurrent]
      exact TokenReader.unread_skip hunread
    have hothers := ih (hscope'.trans hscope) hrest
    rw [hfile] at hothers
    rw [readLiterals_of_current hcurrent]
    by_cases htyped : token.kind.isTyped = true
    · rw [List.filter_cons, if_pos htyped, List.flatMap_cons, List.flatMap_cons]
      exact (sweepStep_extends_typed hscope hcurrent htyped expected).trans hothers
    · rw [List.filter_cons, if_neg htyped]
      rw [sweepStep_eq_skip hcurrent htyped] at hothers ⊢
      exact ⟨hothers.nodes, hothers.issues⟩

theorem sweepStep_iterate_reader (tokens : List Token) (file : String)
    (expected : Option PrimType) {n : Nat} (hn : n ≤ tokens.length) :
    ((sweepStep expected)^[n] (ofTokens tokens file)).reader = ⟨tokens, n⟩ := by
  induction n with
  | zero => rfl
  | succ n ih =>
    have hreader := ih (Nat.le_of_succ_le hn)
    have hcurrent : ((sweepStep expected)^[n] (ofTokens tokens file)).reader.current? =
        some tokens[n] := by
      rw [hreader]
      exact List.getElem?_eq_getElem hn
    rw [Function.iterate_succ_apply', sweepStep_reader hcurrent,
      TokenReader.skip_of_current? hcurrent, hreader]

/-- The sweep over a list of tokens as a map over its typed literals. -/
structure SweptAlone (tokens : List Token) (file : String) (expected : Option PrimType)
    (q : Pass) : Prop where
  /-- There is one step for each token, and each of them takes one token. -/
  steps : q = (sweepStep expected)^[tokens.length] (ofTokens tokens file)
  position : ∀ n ≤ tokens.length,
    ((sweepStep expected)^[n] (ofTokens tokens file)).reader = ⟨tokens, n⟩
  nodes : q.arena.nodes.toList = (tokens.filter (·.kind.isTyped)).flatMap fun token =>
    (readAlone file expected token).arena.nodes.toList
  issues : q.log.issues.toList = (tokens.filter (·.kind.isTyped)).flatMap fun token =>
    (readAlone file expected token).log.issues.toList

/-- Two passes that agree on the current token and the variable of its name add the same node, or
none, and the same issues. The sweep adds what its literals add alone. -/
theorem readExpression_local :
    (∀ (p q : Pass) (token : Token) (expected : Option PrimType), p.file = q.file →
      p.reader.current? = some token → q.reader.current? = some token →
      p.scope.find? token.text = q.scope.find? token.text →
      ∃ node? issues, Adds p node? issues (p.readExpression expected) ∧
        Adds q node? issues (q.readExpression expected)) ∧
    ∀ (tokens : List Token) (file : String) (expected : Option PrimType),
      SweptAlone tokens file expected ((ofTokens tokens file).readLiterals expected).2 := by
  refine ⟨?_, ?_⟩
  · intro p q token expected hfile hp hq hscope
    exact readExpression_adds_both hfile hp hq hscope expected
  · intro tokens file expected
    have hextends := readLiterals_extends (p := ofTokens tokens file) rfl expected
    exact {
      steps := readLiterals_eq_iterate expected (ofTokens tokens file)
      position := fun n hn => sweepStep_iterate_reader tokens file expected hn
      nodes := hextends.nodes
      issues := hextends.issues }

/-- A variable alone, and the same variable behind another token and below another declaration. -/
theorem readExpression_local_variable :
    ∃ node? issues,
      Adds ((ofTokens [⟨.identifier, "x", ⟨1, 6⟩⟩] "a.lang").declare "x" (.signed .w8)) node? issues
        (((ofTokens [⟨.identifier, "x", ⟨1, 6⟩⟩] "a.lang").declare "x" (.signed .w8)).readExpression
          none) ∧
      Adds
        (((ofTokens [⟨.boolLiteral, "true", ⟨1, 1⟩⟩, ⟨.identifier, "x", ⟨1, 6⟩⟩] "a.lang").declare
          "x" (.signed .w8)).skip.declare "y" .bool) node? issues
        ((((ofTokens [⟨.boolLiteral, "true", ⟨1, 1⟩⟩, ⟨.identifier, "x", ⟨1, 6⟩⟩] "a.lang").declare
          "x" (.signed .w8)).skip.declare "y" .bool).readExpression none) :=
  readExpression_local.1 _ _ _ none rfl rfl rfl (by decide)

end Pass

end TypedLiterals
