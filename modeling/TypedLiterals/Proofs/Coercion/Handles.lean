import TypedLiterals.Proofs.Coercion.Locality

/-!
Handles keep their meaning. Whatever is done with a pass, a handle denotes for good the node that it
denoted when it was answered, each node has a handle of its own, and issues are only added. Where a
literal is read once more it is read as before.
-/

namespace TypedLiterals

theorem Arena.get?_size (a : Arena) : a.get? (.node a.size) = none :=
  Array.getElem?_size

-- Variables are of no account for a literal, even one that a variable is named after.
theorem Verdict.ofToken_of_isTyped {token : Token} (h : token.kind.isTyped = true)
    (scope other : Scope) (expected : Option PrimType) :
    ofToken scope token expected = ofToken other token expected := by
  cases hkind : token.kind with
  | integerLiteral | floatingLiteral | boolLiteral => simp only [ofToken, hkind]
  | _ =>
    rw [hkind] at h
    cases h

namespace Pass

/-- What can be done with a pass. -/
inductive Operation where
  | read (expected : Option PrimType)
  | skip
  | snapshot
  | restore (s : Snapshot)
  | declare (name : String) (type : PrimType)
  | report (issue : Issue)
  | insert (node : Node)

/-- A handle that an operation answers with, and the node that it denotes at that time. -/
structure Answer where
  handle : Handle
  node? : Option Node

/-- The one answer, with the pass that it comes with. -/
def answered (result : Handle × Pass) : List Answer × Pass :=
  ([⟨result.1, result.2.arena.get? result.1⟩], result.2)

/-- Carries out an operation. Reading and inserting answer with a handle, and a saved position
leaves the pass as it is. -/
def perform (p : Pass) : Operation → List Answer × Pass
  | .read expected => answered (p.readExpression expected)
  | .skip => ([], p.skip)
  | .snapshot => ([], p)
  | .restore s => ([], p.restore s)
  | .declare name type => ([], p.declare name type)
  | .report issue => ([], p.report issue)
  | .insert node => answered (p.insert node)

/-- Carries out one operation after the other. -/
def performAll (p : Pass) : List Operation → List Answer × Pass
  | [] => ([], p)
  | operation :: others =>
    let first := p.perform operation
    let rest := first.2.performAll others
    (first.1 ++ rest.1, rest.2)

/-- What a run keeps that began with `p`, gave these answers and left `q`. -/
structure Keeps (p : Pass) (answers : List Answer) (q : Pass) : Prop where
  denotes : ∀ handle node, p.arena.get? handle = some node → q.arena.get? handle = some node
  /-- An answer is a new handle, and it denotes at the end what it denoted when it was given. -/
  given : ∀ answer ∈ answers, answer.handle ≠ .void → p.arena.get? answer.handle = none ∧
    ∃ node, answer.node? = some node ∧ q.arena.get? answer.handle = some node
  distinct : answers.Pairwise fun earlier later =>
    earlier.handle = later.handle → earlier.handle = .void
  issues : p.log.issues.toList <+: q.log.issues.toList
  tokens : q.reader.tokens = p.reader.tokens
  file : q.file = p.file

variable {p q r : Pass} {answers others : List Answer} {handle : Handle}

theorem Keeps.fresh (h : Keeps p answers q) (hfresh : q.arena.get? handle = none) :
    p.arena.get? handle = none := by
  cases hold : p.arena.get? handle with
  | none => rfl
  | some node =>
    rw [h.denotes handle node hold] at hfresh
    cases hfresh

theorem Keeps.trans (h : Keeps p answers q) (h' : Keeps q others r) :
    Keeps p (answers ++ others) r where
  denotes handle node hold := h'.denotes handle node (h.denotes handle node hold)
  given := by
    intro answer hmem hvoid
    rcases List.mem_append.mp hmem with hmem | hmem
    · obtain ⟨hfresh, node, hdenoted, hnode⟩ := h.given answer hmem hvoid
      exact ⟨hfresh, node, hdenoted, h'.denotes _ node hnode⟩
    · obtain ⟨hfresh, hnode⟩ := h'.given answer hmem hvoid
      exact ⟨h.fresh hfresh, hnode⟩
  distinct := by
    apply List.pairwise_append.mpr
    refine ⟨h.distinct, h'.distinct, ?_⟩
    intro earlier hearlier later hlater heq
    by_contra hvoid
    -- What the earlier handle denotes by then cannot be new later.
    obtain ⟨-, node, -, hnode⟩ := h.given earlier hearlier hvoid
    rw [heq] at hvoid hnode
    rw [(h'.given later hlater hvoid).1] at hnode
    cases hnode
  issues := h.issues.trans h'.issues
  tokens := h'.tokens.trans h.tokens
  file := h'.file.trans h.file

theorem Keeps.of_arena_eq (harena : q.arena = p.arena)
    (hvoid : ∀ answer ∈ answers, answer.handle = .void)
    (hissues : p.log.issues.toList <+: q.log.issues.toList)
    (htokens : q.reader.tokens = p.reader.tokens) (hfile : q.file = p.file) :
    Keeps p answers q where
  denotes handle node hold := by rwa [harena]
  given answer hmem hne := absurd (hvoid answer hmem) hne
  distinct := List.pairwise_of_forall_mem_list fun answer hmem _ _ _ => hvoid answer hmem
  issues := hissues
  tokens := htokens
  file := hfile

theorem Keeps.of_insert (node : Node) (harena : q.arena = (p.arena.insert node).2)
    (hissues : p.log.issues.toList <+: q.log.issues.toList)
    (htokens : q.reader.tokens = p.reader.tokens) (hfile : q.file = p.file) :
    Keeps p (answered (.node p.arena.size, q)).1 q where
  denotes handle old hold := by
    rw [harena]
    exact Arena.get?_insert_of_eq_some hold node
  given := by
    intro answer hmem _
    have hnode : q.arena.get? (.node p.arena.size) = some node := by
      rw [harena]
      exact p.arena.get?_insert_self node
    rw [List.mem_singleton.mp hmem]
    exact ⟨p.arena.get?_size, node, hnode, hnode⟩
  distinct := List.pairwise_singleton _ _
  issues := hissues
  tokens := htokens
  file := hfile

theorem Accounted.keeps (h : Accounted p handle q) : Keeps p (answered (handle, q)).1 q := by
  have htokens : q.reader.tokens = p.reader.tokens := by rw [h.reader]
  have hissues : p.log.issues.toList <+: q.log.issues.toList := by
    obtain ⟨issues, happend, -⟩ := h.hasErrors
    rw [happend, Array.toList_append]
    exact List.prefix_append _ _
  rcases h.node with ⟨node, rfl, hnodes⟩ | ⟨rfl, harena⟩
  · exact .of_insert node (congrArg Arena.mk hnodes) hissues htokens h.file
  · exact .of_arena_eq harena (List.forall_mem_singleton.mpr rfl) hissues htokens h.file

theorem perform_keeps (p : Pass) (operation : Operation) :
    Keeps p (p.perform operation).1 (p.perform operation).2 := by
  have hnone : ∀ answer ∈ ([] : List Answer), answer.handle = .void := List.forall_mem_nil _
  have hsame : p.log.issues.toList <+: p.log.issues.toList := List.prefix_rfl
  cases operation with
  | read expected => exact (readExpression_step p expected).keeps
  | skip => exact .of_arena_eq rfl hnone hsame p.reader.skip_tokens rfl
  | snapshot => exact .of_arena_eq rfl hnone hsame rfl rfl
  | restore s => exact .of_arena_eq rfl hnone hsame rfl rfl
  | declare name type => exact .of_arena_eq rfl hnone hsame rfl rfl
  | report issue =>
    have hissues : p.log.issues.toList <+: (p.report issue).log.issues.toList := by
      show _ <+: (p.log.issues.push issue).toList
      rw [Array.toList_push]
      exact List.prefix_append _ _
    exact .of_arena_eq rfl hnone hissues rfl rfl
  | insert node => exact .of_insert node rfl hsame rfl rfl

theorem performAll_keeps (p : Pass) (operations : List Operation) :
    Keeps p (p.performAll operations).1 (p.performAll operations).2 := by
  induction operations generalizing p with
  | nil => exact .of_arena_eq rfl (List.forall_mem_nil _) List.prefix_rfl rfl rfl
  | cons operation operations ih => exact (perform_keeps p operation).trans (ih _)

/-- A reading that began with `q` did what the first one did, which began with `p`. A node that it
read has another handle, and it equals the first one. -/
structure Repeats (p : Pass) (first : Handle × Pass) (q : Pass) (again : Handle × Pass) : Prop where
  void : again.1 = .void ↔ first.1 = .void
  node : first.1 ≠ .void → again.1 ≠ first.1 ∧ ∃ node, first.2.arena.get? first.1 = some node ∧
    again.2.arena.get? first.1 = some node ∧ again.2.arena.get? again.1 = some node
  issues : ∃ issues, first.2.log.issues.toList = p.log.issues.toList ++ issues ∧
    again.2.log.issues.toList = q.log.issues.toList ++ issues

section Repetition

variable {token : Token} {expected : Option PrimType} {node? : Option Node} {issues : List Issue}
  {read first again : Handle × Pass}

theorem Adds.eq_void_iff (h : Adds p node? issues read) : read.1 = .void ↔ node? = none := by
  rw [h.handle]
  cases node? with
  | none => exact iff_of_true rfl rfl
  | some node => exact iff_of_false nofun nofun

theorem Adds.get?_eq (h : Adds p node? issues read) : read.2.arena.get? read.1 = node? := by
  rw [h.handle]
  cases node? with
  | none => rfl
  | some node =>
    show read.2.arena.nodes[p.arena.nodes.size]? = some node
    rw [← Array.getElem?_toList, h.nodes, ← Array.length_toList]
    exact List.getElem?_concat_length

theorem Adds.repeats (hfirst : Adds p node? issues first) (hagain : Adds q node? issues again)
    (hkept : Keeps first.2 answers q) (hread : Keeps q (answered again).1 again.2) :
    Repeats p first q again where
  void := hagain.eq_void_iff.trans hfirst.eq_void_iff.symm
  node hvoid := by
    obtain ⟨node, rfl⟩ := Option.ne_none_iff_exists'.mp (mt hfirst.eq_void_iff.mpr hvoid)
    have hnode : q.arena.get? first.1 = some node := hkept.denotes _ node hfirst.get?_eq
    refine ⟨?_, node, hfirst.get?_eq, hread.denotes _ node hnode, hagain.get?_eq⟩
    intro heq
    obtain ⟨hfresh, -⟩ := hread.given _ List.mem_cons_self (heq ▸ hvoid)
    rw [← heq] at hnode
    cases hfresh.symm.trans hnode
  issues := ⟨issues, hfirst.issues, hagain.issues⟩

theorem readExpression_repeats (hcurrent : p.reader.current? = some token)
    (htyped : token.kind.isTyped = true)
    (hkept : Keeps (p.readExpression expected).2 answers q)
    (hposition : q.reader.position = p.reader.position) :
    Repeats p (p.readExpression expected) q (q.readExpression expected) := by
  have haccounted := readExpression_step p expected
  have hsame : q.reader.current? = some token := by
    rw [TokenReader.current?, hposition, hkept.tokens, haccounted.reader]
    exact hcurrent
  have hfirst := readExpression_adds hcurrent expected
  have hagain := readExpression_adds hsame expected
  rw [Verdict.ofToken_of_isTyped htyped q.scope p.scope,
    locationOf_congr (hkept.file.trans haccounted.file)] at hagain
  exact hfirst.repeats hagain hkept (readExpression_step q expected).keeps

end Repetition

/-- Every run keeps what handles denote. After any run that comes back to where a literal was read,
reading it again against the same type does the same again. -/
theorem performAll_stable :
    (∀ (p : Pass) (operations : List Operation),
      Keeps p (p.performAll operations).1 (p.performAll operations).2) ∧
    ∀ (p q : Pass) (token : Token) (expected : Option PrimType) (operations : List Operation),
      p.reader.current? = some token → token.kind.isTyped = true →
      ((p.readExpression expected).2.performAll operations).2 = q →
      q.reader.position = p.reader.position →
      Repeats p (p.readExpression expected) q (q.readExpression expected) := by
  refine ⟨performAll_keeps, ?_⟩
  rintro p q token expected operations hcurrent htyped rfl hposition
  exact readExpression_repeats hcurrent htyped (performAll_keeps _ operations) hposition

/-- An integer behind a variable that is declared. -/
def variableAndInteger : Pass :=
  ((ofTokens [⟨.identifier, "x", ⟨1, 1⟩⟩, ⟨.integerLiteral, "1", ⟨1, 3⟩⟩] "a.lang").declare "x"
    (.signed .w8)).skip

/-- Reads the variable, declares it anew, reads behind the end and goes back to the integer. -/
def detour : List Operation :=
  [.snapshot, .restore ⟨0⟩, .read none, .declare "x" .bool, .restore ⟨9⟩, .read none, .skip,
    .restore ⟨1⟩]

/-- An integer where a truth value is expected, which is a node and an issue. -/
theorem performAll_stable_detour :
    (variableAndInteger.readExpression (some .bool)).1 = .node 0 ∧
      Keeps (variableAndInteger.readExpression (some .bool)).2
        ((variableAndInteger.readExpression (some .bool)).2.performAll detour).1
        ((variableAndInteger.readExpression (some .bool)).2.performAll detour).2 ∧
      Repeats variableAndInteger (variableAndInteger.readExpression (some .bool))
        ((variableAndInteger.readExpression (some .bool)).2.performAll detour).2
        (((variableAndInteger.readExpression (some .bool)).2.performAll detour).2.readExpression
          (some .bool)) :=
  ⟨rfl, performAll_stable.1 _ detour, performAll_stable.2 _ _ _ _ detour rfl rfl rfl rfl⟩

end Pass

end TypedLiterals
