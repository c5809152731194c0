import TypedLiterals.Proofs.Lexicon.Separation
import TypedLiterals.Proofs.Token.Run

/-!
The order in which the recognizers are tried changes nothing about how a source is read.
-/

namespace TypedLiterals

theorem Recognizer.mem_inOrder (recognizer : Recognizer) : recognizer ∈ inOrder := by
  cases recognizer <;> decide

namespace Lexer

variable {order order' : List Recognizer} {lexer : Lexer} {recognizer : Recognizer} {c : Cursor}

theorem responsible_of_attempt {file : String}
    (h : attempt .language file recognizer c ≠ .ok none) :
    Recognizer.responsible c.rest = recognizer := by
  cases hscan : recognizer.scan? .language c.rest with
  | some found => exact Recognizer.responsible_of_scan? hscan
  | none =>
    rw [attempt, hscan] at h
    exact absurd rfl h

theorem firstStep_congr (horder : ∀ recognizer, recognizer ∈ order)
    (horder' : ∀ recognizer, recognizer ∈ order') (hrules : lexer.rules = .language) (c : Cursor) :
    firstStep order lexer c = firstStep order' lexer c := by
  rw [firstStep, firstStep, hrules, Recognizer.firstScan?_eq horder,
    Recognizer.firstScan?_eq horder']

-- The first step is the same for both orders, and it leaves less to be read.
theorem tokensFrom_congr (horder : ∀ recognizer, recognizer ∈ order)
    (horder' : ∀ recognizer, recognizer ∈ order') (hrules : lexer.rules = .language) (c : Cursor) :
    lexer.tokensFrom order c = lexer.tokensFrom order' c := by
  induction hlength : c.rest.length using Nat.strong_induction_on generalizing c with
  | _ n ih =>
    rw [tokensFrom_eq order, tokensFrom_eq order', ← firstStep_congr horder horder' hrules]
    by_cases hend : c.skipBlanks.rest = []
    · rw [if_pos hend, if_pos hend]
    · rw [if_neg hend, if_neg hend]
      cases hstep : firstStep order lexer c.skipBlanks with
      | error e => rfl
      | ok step =>
        have hless : step.cursor.rest.length < n := by
          have hstep_lt := length_lt_of_firstStep hend hstep
          have hblanks := c.skipBlanks_rest_length_le
          omega
        show Except.map _ _ = Except.map _ _
        rw [ih _ hless step.cursor rfl]

/-- At most one recognizer applies at a cursor. So however they are ordered, a source is read into
the same tokens, or is refused with the same error at the same place. -/
theorem tokenize_anyOrder :
    (∀ (file : String) (c : Cursor) (first second : Recognizer),
      attempt .language file first c ≠ .ok none → attempt .language file second c ≠ .ok none →
        first = second) ∧
    ∀ (order : List Recognizer) (lexer : Lexer), order.Perm Recognizer.inOrder →
      lexer.rules = .language →
        ∀ source : String,
          lexer.tokensFrom order (.ofSource source.toList) = lexer.tokenize source := by
  refine ⟨?_, ?_⟩
  · intro file c first second hfirst hsecond
    rw [← responsible_of_attempt hfirst, responsible_of_attempt hsecond]
  · intro order lexer horder hrules source
    have hall : ∀ recognizer, recognizer ∈ order := fun recognizer =>
      horder.mem_iff.mpr recognizer.mem_inOrder
    exact tokensFrom_congr hall Recognizer.mem_inOrder hrules _

theorem tokenize_anyOrder_reversed :
    attempt .language "shell" .pattern (.ofSource ['0', 'x', '1', 'f']) = .ok none ∧
      Lexer.tokensFrom Recognizer.inOrder.reverse {} (.ofSource "a += 0x1f // b".toList) =
        Lexer.tokenize {} "a += 0x1f // b" := by
  refine ⟨?_, ?_⟩
  · by_contra h
    have hhex : attempt .language "shell" .hex (.ofSource ['0', 'x', '1', 'f']) ≠ .ok none := nofun
    have heq := tokenize_anyOrder.1 "shell" _ .pattern .hex h hhex
    cases heq
  · exact tokenize_anyOrder.2 _ {} (List.reverse_perm _) rfl _

end Lexer

end TypedLiterals
