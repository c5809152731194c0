import Mathlib.Data.List.DropRight
import Mathlib.Data.List.Induction
import TypedLiterals.Source.Cursor

/-!
Where a run of characters ends, said by counting: a line for every line feed, and a column for every
character behind the last one. The place and the offset that a cursor carries are those of the text
behind it.
-/

namespace TypedLiterals

/-- What a text has behind its last line feed. -/
def lastLine (before : List Char) : List Char :=
  before.rtakeWhile (· ≠ '\n')

namespace Place

/-- The place behind a text that starts a source. -/
def behind (before : List Char) : Place where
  line := 1 + before.count '\n'
  column := 1 + (before.reverse.takeWhile (· ≠ '\n')).length

theorem column_behind (before : List Char) :
    (behind before).column = (lastLine before).length + 1 := by
  show 1 + (before.reverse.takeWhile (· ≠ '\n')).length = _
  rw [Nat.add_comm, lastLine, List.rtakeWhile, List.length_reverse]

theorem behind_concat (before : List Char) (c : Char) :
    behind (before ++ [c]) = (behind before).step c := by
  by_cases hc : c = '\n'
  · subst hc
    simp [behind, step, Nat.add_assoc]
  · simp [behind, step, hc]
    omega

-- Counting step by step is counting all at once.
theorem start_after (before : List Char) : start.after before = behind before := by
  induction before using List.reverseRecOn with
  | nil => rfl
  | append_singleton before c ih =>
    rw [after_append, ih, behind_concat]
    rfl

theorem line_after (p : Place) (cs : List Char) : (p.after cs).line = p.line + cs.count '\n' := by
  induction cs generalizing p with
  | nil => rfl
  | cons c cs ih =>
    rw [after_cons, ih, step, List.count_cons]
    split
    · rename_i hc
      rw [if_pos (beq_iff_eq.mpr hc)]
      exact Nat.add_right_comm p.line 1 _
    · rename_i hc
      rw [if_neg (mt beq_iff_eq.mp hc)]
      rfl

theorem after_of_not_mem (p : Place) {cs : List Char} (h : '\n' ∉ cs) :
    p.after cs = ⟨p.line, p.column + cs.length⟩ := by
  induction cs generalizing p with
  | nil => rfl
  | cons c cs ih =>
    rw [List.mem_cons, not_or] at h
    rw [after_cons, ih _ h.2, step, if_neg (Ne.symm h.1), List.length_cons]
    exact congrArg (Place.mk p.line) (Nat.add_right_comm ..)

/-- As many columns further on stands what is behind a run of characters, unless the run goes on to
another line. -/
theorem after_eq_iff (p : Place) (cs : List Char) :
    ⟨p.line, p.column + cs.length⟩ = p.after cs ↔ '\n' ∉ cs := by
  refine ⟨?_, fun h => (p.after_of_not_mem h).symm⟩
  intro h hmem
  have hline : p.line = p.line + cs.count '\n' := (congrArg line h).trans (p.line_after cs)
  have hcount : 0 < cs.count '\n' := List.count_pos_iff.mpr hmem
  omega

end Place

theorem size_utf8Encode (cs : List Char) : cs.utf8Encode.size = utf8Length cs := by
  induction cs with
  | nil => rfl
  | cons c cs ih =>
    rw [List.utf8Encode_cons, ByteArray.size_append, ih, List.utf8Encode_singleton,
      List.size_toByteArray, String.length_utf8EncodeChar]
    simp [utf8Length]

namespace Cursor

/-- The cursor stands behind the text `before`. -/
structure Behind (before : List Char) (c : Cursor) : Prop where
  place : c.place = Place.behind before
  offset : c.offset = utf8Length before

theorem ofSource_behind (source : List Char) : (ofSource source).Behind [] :=
  ⟨rfl, rfl⟩

-- Every move keeps the books.
theorem Behind.skip {before : List Char} {c : Cursor} (h : c.Behind before) (n : Nat) :
    (c.skip n).Behind (before ++ c.rest.take n) where
  place := by
    show c.place.after (c.rest.take n) = _
    rw [h.place, ← Place.start_after, ← Place.start_after, Place.after_append]
  offset := by
    show c.offset + utf8Length (c.rest.take n) = _
    rw [h.offset, utf8Length_append]

theorem Behind.skip_prefix {before lexeme : List Char} {c : Cursor} (h : c.Behind before)
    (hl : lexeme <+: c.rest) : (c.skip lexeme.length).Behind (before ++ lexeme) := by
  have hskip := h.skip lexeme.length
  rwa [← List.prefix_iff_eq_take.mp hl] at hskip

-- Behind the text that it moves over, a cursor has the rest to read.
theorem skip_length_rest {c : Cursor} {lexeme rest : List Char} (h : c.rest = lexeme ++ rest) :
    (c.skip lexeme.length).rest = rest := by
  rw [skip_rest, h, List.drop_left]

theorem Behind.skipBlanks {before : List Char} {c : Cursor} (h : c.Behind before) :
    c.skipBlanks.Behind (before ++ c.rest.takeWhile isBlank) :=
  h.skip_prefix (List.takeWhile_prefix isBlank)

end Cursor

end TypedLiterals
