import TypedLiterals.Proofs.Token.Passage

/-!
What the lexer of the language makes of a text that begins with a decimal digit. How far the number
goes, and whether it is one at all, is told by what stands behind its first digits.
-/

namespace TypedLiterals

/-- The longest row of digits behind a point, if there is any, and what stands behind the row. -/
def fractionDigits? : List Char → Option (List Char × List Char)
  | '.' :: rest =>
    if rest.takeWhile Char.isDigit = [] then none
    else some (rest.takeWhile Char.isDigit, rest.dropWhile Char.isDigit)
  | _ => none

/-- The mark of a hexadecimal number and the longest row of its digits, if there is any. -/
def hexTail? : List Char → Option (List Char)
  | x :: rest =>
    if (x = 'x' ∨ x = 'X') ∧ rest.takeWhile isHexDigit ≠ [] then
      some (x :: rest.takeWhile isHexDigit)
    else none
  | [] => none

/-- The number that decimal digits begin where `rest` stands behind all of them: its kind and its
text. -/
def leadingNumber? (digits rest : List Char) : Option (TokenKind × List Char) :=
  match fractionDigits? rest with
  | some (fraction, after) =>
    if EndsWord after then some (.floatingLiteral, digits ++ '.' :: fraction)
    else if after.head? = some 'f' ∧ EndsWord after.tail then
      some (.floatingLiteral, digits ++ '.' :: (fraction ++ ['f']))
    -- The point is left for another token.
    else some (.integerLiteral, digits)
  | none =>
    if EndsWord rest then some (.integerLiteral, digits)
    else if digits = ['0'] then (hexTail? rest).map fun tail => (.integerLiteral, '0' :: tail)
    else none

section Parts

variable {cs row rest fraction after tail : List Char}

theorem head?_any_isBlank_of_digit (h : cs.head?.any Char.isDigit = true) :
    cs.head?.any isBlank = false := by
  obtain ⟨c, tail, rfl, hc⟩ := exists_cons_of_head?_any h
  show isBlank c = false
  rw [Bool.eq_false_iff]
  intro hblank
  have hdigit : c.isDigit = false := eq_false_of_isBlank (by decide) hblank
  exact absurd (hc.symm.trans hdigit) nofun

theorem fractionDigits?_eq_some (h : fractionDigits? cs = some (fraction, after)) :
    cs = '.' :: (fraction ++ after) ∧ fraction ≠ [] ∧ (∀ c ∈ fraction, c.isDigit = true) ∧
      after.head?.any Char.isDigit = false := by
  unfold fractionDigits? at h
  split at h
  · rename_i rest
    split at h
    · cases h
    · rename_i hne
      cases h
      refine ⟨?_, hne, fun c hc => List.mem_takeWhile_imp hc, head?_dropWhile_any _ _⟩
      rw [List.takeWhile_append_dropWhile]
  · cases h

theorem fractionDigits?_of_row (hne : row ≠ []) (hrow : ∀ c ∈ row, c.isDigit = true)
    (hend : rest.head?.any Char.isDigit = false) :
    fractionDigits? ('.' :: (row ++ rest)) = some (row, rest) := by
  rw [fractionDigits?, takeWhile_row hrow hend, if_neg hne, dropWhile_row hrow hend]

theorem hexTail?_eq_some (h : hexTail? cs = some tail) :
    ∃ x row rest, cs = x :: (row ++ rest) ∧ tail = x :: row ∧ (x = 'x' ∨ x = 'X') ∧ row ≠ [] ∧
      (∀ d ∈ row, isHexDigit d = true) ∧ rest.head?.any isHexDigit = false := by
  cases cs with
  | nil => cases h
  | cons x rest =>
    rw [hexTail?] at h
    split at h
    · rename_i hx
      cases h
      refine ⟨x, rest.takeWhile isHexDigit, rest.dropWhile isHexDigit, ?_, rfl, hx.1, hx.2,
        fun d hd => List.mem_takeWhile_imp hd, head?_dropWhile_any _ _⟩
      rw [List.takeWhile_append_dropWhile]
    · cases h

theorem hexTail?_eq_none {x : Char} (h : hexTail? (x :: rest) = none) (hx : x = 'x' ∨ x = 'X') :
    rest.head?.any isHexDigit = false := by
  rw [hexTail?, ite_eq_right_iff] at h
  rw [Bool.eq_false_iff]
  intro hhead
  exact Option.some_ne_none _ (h ⟨hx, takeWhile_ne_nil hhead⟩)

end Parts

section Reading

variable {digits rest text fraction after : List Char} {kind : TokenKind}

-- The mark of single precision is no digit, so the digits behind the point are found again.
theorem PointFollows.exists_fraction (h : PointFollows rest) :
    ∃ fraction after, fractionDigits? rest = some (fraction, after) ∧
      (EndsWord after ∨ after.head? = some 'f' ∧ EndsWord after.tail) := by
  cases h with
  | @intro digits mark after ne isDigit isMark ends =>
    rcases isMark with rfl | rfl
    · have hend := ends.head?_any isWordChar_of_isDigit
      exact ⟨digits, after, fractionDigits?_of_row ne isDigit hend, .inl ends⟩
    · exact ⟨digits, 'f' :: after, fractionDigits?_of_row ne isDigit rfl, .inr ⟨rfl, ends⟩⟩

/-- The number is a token where it stands. -/
theorem lexeme_of_leadingNumber? (hne : digits ≠ []) (hdigits : ∀ c ∈ digits, c.isDigit = true)
    (h : leadingNumber? digits rest = some (kind, text)) :
    ∃ after, digits ++ rest = text ++ after ∧ Lexeme after kind text := by
  unfold leadingNumber? at h
  split at h
  · rename_i fraction after hpoint
    obtain ⟨rfl, hfraction_ne, hfraction, -⟩ := fractionDigits?_eq_some hpoint
    split_ifs at h with hends hmark
    · cases h
      have hpoint : PointText (String.ofList (digits ++ '.' :: fraction)) digits fraction :=
        ⟨hne, hdigits, hfraction_ne, hfraction, .inl String.toList_ofList⟩
      exact ⟨after, by rw [List.append_assoc, List.cons_append], .fraction hpoint hends⟩
    · cases h
      obtain ⟨hhead, hends⟩ := hmark
      obtain ⟨tail, rfl⟩ := List.head?_eq_some_iff.mp hhead
      have hpoint : PointText (String.ofList (digits ++ '.' :: (fraction ++ ['f']))) digits
          fraction :=
        ⟨hne, hdigits, hfraction_ne, hfraction, .inr (by simp)⟩
      exact ⟨tail, by simp, .fraction hpoint hends⟩
    · cases h
      refine ⟨_, rfl, .integer hne hdigits rfl ?_⟩
      intro hfollows
      obtain ⟨fraction', after', hpoint', hends'⟩ := hfollows.exists_fraction
      cases hpoint.symm.trans hpoint'
      exact hends'.elim hends hmark
  · rename_i hnone
    split_ifs at h with hends hzero
    · cases h
      refine ⟨rest, rfl, .integer hne hdigits hends ?_⟩
      intro hfollows
      obtain ⟨fraction, after, hpoint, -⟩ := hfollows.exists_fraction
      cases hnone.symm.trans hpoint
    · obtain ⟨tail, htail, hpair⟩ := Option.map_eq_some_iff.mp h
      cases hpair
      obtain ⟨x, row, after, rfl, rfl, hx, hrow_ne, hrow, hends⟩ := hexTail?_eq_some htail
      rw [hzero]
      exact ⟨after, rfl, .hex hx hrow_ne hrow hends⟩

/-- Where there is no number, nothing stands that the language knows. -/
theorem unknown_of_leadingNumber? (hne : digits ≠ []) (hdigits : ∀ c ∈ digits, c.isDigit = true)
    (hstop : rest.head?.any Char.isDigit = false) (h : leadingNumber? digits rest = none) :
    Unknown (digits ++ rest) := by
  unfold leadingNumber? at h
  split at h
  · split_ifs at h
  · split_ifs at h with hends hzero
    · cases rest with
      | nil => exact absurd rfl hends
      | cons w rest =>
        have hword : isWordChar w = true := Bool.not_eq_false _ ▸ hends
        refine .number hne hdigits hword hstop fun _ hmark => ?_
        exact hexTail?_eq_none (Option.map_eq_none_iff.mp h) hmark
    · cases rest with
      | nil => exact absurd rfl hends
      | cons w rest =>
        have hword : isWordChar w = true := Bool.not_eq_false _ ▸ hends
        exact .number hne hdigits hword hstop fun hrow => absurd hrow hzero

end Reading

namespace Lexer

open Recognizer

variable {lexer : Lexer} {c : Cursor}

/-- The lexer goes on from a digit as the characters behind the first row of digits say: it reads
the number and then what stands behind it, or it fails there because of an unknown token. The error
shows how the line goes on. -/
theorem tokensFrom_digit (hrules : lexer.rules = .language)
    (hdigit : c.rest.head?.any Char.isDigit = true) :
    (∀ kind text,
      leadingNumber? (c.rest.takeWhile Char.isDigit) (c.rest.dropWhile Char.isDigit) =
          some (kind, text) →
        lexer.tokensFrom inOrder c = (lexer.tokensFrom inOrder (c.skip text.length)).map
          (⟨kind, String.ofList text, c.place⟩ :: ·)) ∧
    (leadingNumber? (c.rest.takeWhile Char.isDigit) (c.rest.dropWhile Char.isDigit) = none →
      lexer.tokensFrom inOrder c = .error
        { fault := .unknownToken
          snippet := String.ofList ((c.rest.takeWhile (· ≠ '\n')).take 16)
          location := ⟨c.place, lexer.file⟩ }) := by
  have hne := takeWhile_ne_nil hdigit
  have hdigits : ∀ d ∈ c.rest.takeWhile Char.isDigit, d.isDigit = true :=
    fun d hd => List.mem_takeWhile_imp hd
  have hsplit := List.takeWhile_append_dropWhile (p := Char.isDigit) (l := c.rest)
  refine ⟨?_, ?_⟩
  · intro kind text hnumber
    obtain ⟨after, hrest, hlexeme⟩ := lexeme_of_leadingNumber? hne hdigits hnumber
    exact tokensFrom_of_lexeme hrules (hsplit.symm.trans hrest) hlexeme
  · intro hnone
    have hunknown := unknown_of_leadingNumber? hne hdigits (head?_dropWhile_any _ _) hnone
    rw [hsplit] at hunknown
    exact tokensFrom_of_stuck hrules (.unknown hunknown (head?_any_isBlank_of_digit hdigit))

/-- A word goes on behind what would be the mark of a fraction, so the point and what follows it are
left. A word that goes on behind digits alone leaves nothing to read. -/
theorem tokensFrom_digit_word :
    ({} : Lexer).tokensFrom inOrder (.ofSource ['0', '7', '.', '2', '5', 'f', 'é', '+']) =
        (({} : Lexer).tokensFrom inOrder ⟨['.', '2', '5', 'f', 'é', '+'], ⟨1, 3⟩, 2⟩).map
          (⟨.integerLiteral, "07", ⟨1, 1⟩⟩ :: ·) ∧
      ({} : Lexer).tokensFrom inOrder ⟨['1', '2', 'a', 'b', '\n', 'c'], ⟨3, 5⟩, 40⟩ =
        .error ⟨.unknownToken, "12ab", ⟨⟨3, 5⟩, "shell"⟩⟩ := by
  have hnumber : leadingNumber? ['0', '7'] ['.', '2', '5', 'f', 'é', '+'] =
      some (.integerLiteral, ['0', '7']) := by
    decide +kernel
  have hnone : leadingNumber? ['1', '2'] ['a', 'b', '\n', 'c'] = none := by decide +kernel
  refine ⟨?_, ?_⟩
  · exact (@tokensFrom_digit {} (.ofSource ['0', '7', '.', '2', '5', 'f', 'é', '+']) rfl rfl).1
      _ _ hnumber
  · exact (@tokensFrom_digit {} ⟨['1', '2', 'a', 'b', '\n', 'c'], ⟨3, 5⟩, 40⟩ rfl rfl).2 hnone

-- Behind a hexadecimal number a word may go on.
example : leadingNumber? ['0'] ['x', '1', 'F', 'g'] =
    some (.integerLiteral, ['0', 'x', '1', 'F']) := by
  decide +kernel

end Lexer

end TypedLiterals
