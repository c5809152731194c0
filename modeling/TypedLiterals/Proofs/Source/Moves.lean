import TypedLiterals.Proofs.Source.Place
import TypedLiterals.Proofs.Text.Rows

/-!
Runs of a cursor over a source. Whatever moves are made, the cursor stands between two characters of
the source, and its offset and place are those of the text behind it; it can move on step by step or
at once; it stops where the characters end that it reads over; and no two places of a source that it
can stand at have the same line and column.
-/

namespace TypedLiterals

-- A place is passed only once, for each character goes on to another column or line.
theorem Place.eq_nil_of_after_eq {p : Place} {cs : List Char} (h : p.after cs = p) : cs = [] := by
  have hline := p.line_after cs
  rw [h] at hline
  have hnone : '\n' ∉ cs := List.count_eq_zero.mp (by omega)
  rw [p.after_of_not_mem hnone] at h
  have hcolumn : p.column + cs.length = p.column := congrArg Place.column h
  exact List.eq_nil_of_length_eq_zero (by omega)

theorem Place.eq_of_behind_eq {source before other : List Char} (hbefore : before <+: source)
    (hother : other <+: source) (h : behind before = behind other) : before = other := by
  rw [← start_after, ← start_after] at h
  rcases List.prefix_or_prefix_of_prefix hbefore hother with ⟨cs, rfl⟩ | ⟨cs, rfl⟩
  · rw [after_append] at h
    rw [eq_nil_of_after_eq h.symm, List.append_nil]
  · rw [after_append] at h
    rw [eq_nil_of_after_eq h, List.append_nil]

theorem utf8ByteSize_ofList (cs : List Char) :
    (String.ofList cs).utf8ByteSize = utf8Length cs := by
  show (String.ofList cs).toByteArray.size = utf8Length cs
  rw [String.toByteArray_ofList, size_utf8Encode]

namespace Cursor

inductive Move where
  | skip (n : Nat)
  | skipBlanks
  | skipUntil (stop : Char)

def move (c : Cursor) : Move → Cursor
  | .skip n => c.skip n
  | .skipBlanks => c.skipBlanks
  | .skipUntil stop => c.skipUntil stop

/-- Makes one move after the other. -/
def moveAll (c : Cursor) (moves : List Move) : Cursor :=
  moves.foldl move c

/-- The cursor stands in the source behind `before`, and what it says of its place is true. -/
structure StandsBehind (source : String) (before : List Char) (c : Cursor) : Prop where
  text : source.toList = before ++ c.rest
  offset : c.offset = (String.ofList before).utf8ByteSize
  /-- The offset is not behind the end and not inside of a character. -/
  boundary : String.Pos.Raw.IsValid source ⟨c.offset⟩
  line : c.place.line = 1 + before.count '\n'
  column : c.place.column = 1 + (lastLine before).length

/-- The cursor was moved over characters without the property, up to one that has it or to the
end. -/
structure StopsAt (stop : Char → Prop) (c moved : Cursor) : Prop where
  passes : ∃ passed, c.rest = passed ++ moved.rest ∧ moved = c.skip passed.length ∧
    ∀ ch ∈ passed, ¬stop ch
  stops : ∀ ch ∈ moved.rest.head?, stop ch

variable {source : String} {before : List Char} {c d : Cursor}

theorem move_eq_skip (c : Cursor) (m : Move) : ∃ n, c.move m = c.skip n := by
  cases m with
  | skip n => exact ⟨n, rfl⟩
  | skipBlanks => exact ⟨_, rfl⟩
  | skipUntil stop => exact ⟨_, rfl⟩

theorem Behind.standsBehind (h : c.Behind before) (hsource : source.toList = before ++ c.rest) :
    c.StandsBehind source before where
  text := hsource
  offset := by rw [h.offset, utf8ByteSize_ofList]
  boundary := by
    rw [String.Pos.Raw.isValid_iff_exists_append]
    refine ⟨String.ofList before, String.ofList c.rest, ?_, ?_⟩
    · rw [← String.ofList_append, ← hsource, String.ofList_toList]
    · rw [String.rawEndPos, utf8ByteSize_ofList, h.offset]
  line := by rw [h.place, Place.behind]
  column := by rw [h.place, Place.column_behind, Nat.add_comm]

-- One move at a time, over what it reads.
theorem moveAll_behind (hsource : source.toList = before ++ c.rest) (h : c.Behind before)
    (moves : List Move) : ∃ before', source.toList = before' ++ (c.moveAll moves).rest ∧
      (c.moveAll moves).Behind before' := by
  induction moves generalizing c before with
  | nil => exact ⟨before, hsource, h⟩
  | cons m moves ih =>
    obtain ⟨n, hn⟩ := c.move_eq_skip m
    have hmoved : source.toList = before ++ c.rest.take n ++ (c.skip n).rest := by
      rw [skip_rest, List.append_assoc, List.take_append_drop, hsource]
    show ∃ before', source.toList = before' ++ ((c.move m).moveAll moves).rest ∧
      ((c.move m).moveAll moves).Behind before'
    rw [hn]
    exact ih hmoved (h.skip n)

theorem moveAll_ofSource_behind (source : String) (moves : List Move) :
    ∃ before, source.toList = before ++ ((ofSource source.toList).moveAll moves).rest ∧
      ((ofSource source.toList).moveAll moves).Behind before :=
  moveAll_behind rfl (ofSource_behind _) moves

theorem Behind.eq_of_place_eq {other : List Char} (hc : c.Behind before) (hd : d.Behind other)
    (hbefore : source.toList = before ++ c.rest) (hother : source.toList = other ++ d.rest)
    (h : c.place = d.place) : c = d := by
  rw [hc.place, hd.place] at h
  obtain rfl : before = other :=
    Place.eq_of_behind_eq ⟨_, hbefore.symm⟩ ⟨_, hother.symm⟩ h
  have hrest : c.rest = d.rest := List.append_cancel_left (hbefore.symm.trans hother)
  have hplace : c.place = d.place := hc.place.trans hd.place.symm
  have hoffset : c.offset = d.offset := hc.offset.trans hd.offset.symm
  cases c
  cases d
  cases hrest
  cases hplace
  cases hoffset
  rfl

theorem stopsAt_takeWhile {accept : Char → Bool} {stop : Char → Prop}
    (hstop : ∀ ch, stop ch ↔ accept ch = false) (c : Cursor) :
    StopsAt stop c (c.skip (c.rest.takeWhile accept).length) where
  passes := by
    refine ⟨c.rest.takeWhile accept, ?_, rfl, ?_⟩
    · rw [skip_rest, drop_takeWhile, List.takeWhile_append_dropWhile]
    · intro ch hch
      rw [hstop, List.mem_takeWhile_imp hch]
      exact nofun
  stops := by
    intro ch hch
    rw [skip_rest, drop_takeWhile] at hch
    have hhead := List.head?_dropWhile_not accept c.rest
    rw [hch] at hhead
    exact (hstop ch).mpr hhead

theorem skipBlanks_stopsAt (c : Cursor) :
    StopsAt (fun ch => ch ∉ [' ', '\t', '\n', '\r']) c c.skipBlanks := by
  apply stopsAt_takeWhile
  intro ch
  rw [← Bool.not_eq_true]
  simp [isBlank, or_assoc]

theorem skipUntil_stopsAt (c : Cursor) (stop : Char) : StopsAt (· = stop) c (c.skipUntil stop) := by
  apply stopsAt_takeWhile
  intro ch
  rw [decide_eq_false_iff_not, not_not]

/-- After any moves over a source the cursor stands where its offset, its line and its column say.
Moving on in two steps is moving on at once, the two scans stop where they have to, and what has the
same line and column has the same offset. -/
theorem moveAll_stands (source : String) :
    (∀ moves, ∃ before, StandsBehind source before ((ofSource source.toList).moveAll moves)) ∧
    (∀ (c : Cursor) (m n : Nat), (c.skip m).skip n = c.skip (m + n)) ∧
    (∀ c : Cursor, StopsAt (fun ch => ch ∉ [' ', '\t', '\n', '\r']) c c.skipBlanks ∧
      ∀ stop, StopsAt (· = stop) c (c.skipUntil stop)) ∧
    ∀ (moves others : List Move) (c d : Cursor),
      c = (ofSource source.toList).moveAll moves → d = (ofSource source.toList).moveAll others →
      c.place.line = d.place.line → c.place.column = d.place.column → c.offset = d.offset := by
  refine ⟨?_, skip_skip, fun c => ⟨c.skipBlanks_stopsAt, c.skipUntil_stopsAt⟩, ?_⟩
  · intro moves
    obtain ⟨before, htext, hbehind⟩ := moveAll_ofSource_behind source moves
    exact ⟨before, hbehind.standsBehind htext⟩
  · rintro moves others c d rfl rfl hline hcolumn
    obtain ⟨before, htext, hbehind⟩ := moveAll_ofSource_behind source moves
    obtain ⟨other, hother, hbehind'⟩ := moveAll_ofSource_behind source others
    have hplace := congrArg₂ Place.mk hline hcolumn
    rw [hbehind.eq_of_place_eq hbehind' htext hother hplace]

/-- A character of two bytes and a line feed, passed in two ways. -/
theorem moveAll_stands_wide :
    (ofSource "é\n x".toList).moveAll [.skipUntil '\n', .skip 1] = ⟨[' ', 'x'], ⟨2, 1⟩, 3⟩ ∧
      ((ofSource "é\n x".toList).moveAll [.skipBlanks, .skip 2]).offset = 3 :=
  ⟨by decide +kernel, ((moveAll_stands "é\n x").2.2.2 [.skipBlanks, .skip 2]
    [.skipUntil '\n', .skip 1] _ _ rfl rfl (by decide +kernel) (by decide +kernel)).trans
      (by decide +kernel)⟩

end Cursor

end TypedLiterals
