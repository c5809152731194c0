import TypedLiterals.Proofs.Source.Place
import TypedLiterals.Proofs.Text.Rows
import TypedLiterals.Source.Excerpt

/-!
Excerpts of a source as diagrams. Where a character stands that is not white space, an excerpt has
four lines, and its caret is under this character in the line that is shown.
-/

namespace TypedLiterals

section Margins

variable {c : Char}

theorem idxOf?_append_cons {xs : List Char} (h : c ∉ xs) (ys : List Char) :
    (xs ++ c :: ys).idxOf? c = some xs.length := by
  induction xs with
  | nil => rw [List.nil_append, List.idxOf?_cons, if_pos (beq_self_eq_true c)]; rfl
  | cons x xs ih =>
    rw [List.mem_cons, not_or] at h
    rw [List.cons_append, List.idxOf?_cons, if_neg (by simpa using Ne.symm h.1), ih h.2]
    rfl

theorem not_mem_toDigits (hc : c.isDigit = false) (n : Nat) :
    c ∉ Nat.toDigits 10 n := by
  intro hmem
  rw [Nat.isDigit_of_mem_toDigits (by decide) (by decide) hmem] at hc
  cases hc

end Margins

section Lines

variable {before rest : List Char}

theorem lastLine_of_not_mem (h : '\n' ∉ before) : lastLine before = before := by
  apply List.rtakeWhile_eq_self_iff.mpr
  exact fun c hc => decide_eq_true (ne_of_mem_of_not_mem hc h)

theorem lastLine_append_lineFeed (first later : List Char) :
    lastLine (first ++ '\n' :: later) = lastLine later := by
  rw [lastLine, List.rtakeWhile, List.reverse_append, List.reverse_cons, List.append_assoc,
    List.singleton_append, takeWhile_append_cons (by rfl)]
  rfl

theorem not_mem_lastLine (before : List Char) : '\n' ∉ lastLine before := by
  intro h
  exact of_decide_eq_true (List.mem_rtakeWhile_imp (p := fun c => decide (c ≠ '\n')) h) rfl

theorem takeWhile_line {c : Char} (hc : c ≠ '\n') (rest : List Char) :
    (c :: rest).takeWhile (· ≠ '\n') = c :: rest.takeWhile (· ≠ '\n') :=
  List.takeWhile_cons_of_pos (decide_eq_true hc)

/-- As many lines down as a text has line feeds, its last line goes on behind it. -/
theorem lineDown?_append (before rest : List Char) :
    lineDown? (before.count '\n') (before ++ rest) =
      some (lastLine before ++ rest.takeWhile (· ≠ '\n')) := by
  generalize hcount : before.count '\n' = n
  induction n generalizing before with
  | zero =>
    have hnone : '\n' ∉ before := List.count_eq_zero.mp hcount
    have hall : ∀ c ∈ before, decide (c ≠ '\n') = true := fun c hc =>
      decide_eq_true (ne_of_mem_of_not_mem hc hnone)
    rw [lineDown?, lastLine_of_not_mem hnone, List.takeWhile_append_of_pos hall]
  | succ n ih =>
    have hsome : '\n' ∈ before := List.count_pos_iff.mp (by omega)
    obtain ⟨first, later, rfl, hfirst⟩ := List.eq_append_cons_of_mem hsome
    have hcount_later : later.count '\n' = n := by
      rw [List.count_append, List.count_cons_self, List.count_eq_zero.mpr hfirst] at hcount
      omega
    have hall : ∀ c ∈ first, decide (c ≠ '\n') = true := fun c hc =>
      decide_eq_true (ne_of_mem_of_not_mem hc hfirst)
    have hdrop : (first ++ '\n' :: (later ++ rest)).dropWhile (· ≠ '\n') =
        '\n' :: (later ++ rest) := List.dropWhile_append_of_pos hall
    rw [List.append_assoc, List.cons_append, lineDown?, hdrop, lastLine_append_lineFeed]
    exact ih later hcount_later

/-- Going down line by line is splitting the text at its line feeds. -/
theorem lineDown?_eq_getElem? (n : Nat) (cs : List Char) :
    lineDown? n cs = (cs.splitOn '\n')[n]? := by
  induction n generalizing cs with
  | zero =>
    by_cases hsome : '\n' ∈ cs
    · obtain ⟨first, later, rfl, hfirst⟩ := List.eq_append_cons_of_mem hsome
      rw [List.splitOn_append_cons_self, List.splitOn_eq_singleton hfirst, lineDown?,
        takeWhile_row (fun c hc => decide_eq_true (ne_of_mem_of_not_mem hc hfirst)) (by rfl)]
      rfl
    · have hall : ∀ c ∈ cs, decide (c ≠ '\n') = true := fun c hc =>
        decide_eq_true (ne_of_mem_of_not_mem hc hsome)
      rw [List.splitOn_eq_singleton hsome, lineDown?, List.takeWhile_eq_self_iff.mpr hall]
      rfl
  | succ n ih =>
    by_cases hsome : '\n' ∈ cs
    · obtain ⟨first, later, rfl, hfirst⟩ := List.eq_append_cons_of_mem hsome
      rw [List.splitOn_append_cons_self, List.splitOn_eq_singleton hfirst, lineDown?,
        dropWhile_row (fun c hc => decide_eq_true (ne_of_mem_of_not_mem hc hfirst)) (by rfl)]
      exact ih later
    · have hall : ∀ c ∈ cs, decide (c ≠ '\n') = true := fun c hc =>
        decide_eq_true (ne_of_mem_of_not_mem hc hsome)
      rw [List.splitOn_eq_singleton hsome, lineDown?, List.dropWhile_eq_nil_iff.mpr hall]
      rfl

end Lines

section Trimming

variable {c : Char}

theorem ne_of_isWhiteSpace (hc : isWhiteSpace c = false) {d : Char}
    (hd : isWhiteSpace d = true) : c ≠ d := by
  rintro rfl
  rw [hd] at hc
  cases hc

theorem isIndent_of_not_isWhiteSpace (hc : isWhiteSpace c = false) : isIndent c = false := by
  rw [isIndent, decide_eq_false (ne_of_isWhiteSpace hc (by decide)),
    decide_eq_false (ne_of_isWhiteSpace hc (by decide))]
  rfl

theorem trimEnd_concat (cs : List Char) (c : Char) :
    trimEnd (cs ++ [c]) = if isWhiteSpace c then trimEnd cs else cs ++ [c] :=
  List.rdropWhile_concat isWhiteSpace cs c

theorem trimEnd_append_cons (hc : isWhiteSpace c = false) (xs ys : List Char) :
    trimEnd (xs ++ c :: ys) = xs ++ c :: trimEnd ys := by
  induction ys using List.reverseRecOn with
  | nil => rw [trimEnd_concat, hc]; rfl
  | append_singleton ys d ih =>
    have hassoc : xs ++ c :: (ys ++ [d]) = xs ++ c :: ys ++ [d] := by simp
    rw [hassoc, trimEnd_concat, trimEnd_concat, ih]
    split_ifs
    · rfl
    · rw [← hassoc]

-- A carriage return at the end of a line is white space and no blank, so it is trimmed anyway.
theorem takeWhile_dropReturn (line : List Char) :
    (if line.getLast? = some '\r' then line.dropLast else line).takeWhile isIndent =
      line.takeWhile isIndent := by
  split_ifs with hreturn
  · obtain ⟨front, rfl⟩ := List.getLast?_eq_some_iff.mp hreturn
    rw [List.dropLast_concat, takeWhile_append_cons (by decide)]
  · rfl

theorem trimEnd_dropReturn (line : List Char) :
    trimEnd ((if line.getLast? = some '\r' then line.dropLast else line).dropWhile isIndent) =
      trimEnd (line.dropWhile isIndent) := by
  split_ifs with hreturn
  · obtain ⟨front, rfl⟩ := List.getLast?_eq_some_iff.mp hreturn
    rw [List.dropLast_concat, dropWhile_append_cons (by decide), trimEnd_concat,
      if_pos (by decide)]
  · rfl

end Trimming

section Fields

variable {width : Nat}

theorem alignRight_of_le (h : width ≤ 65535) (fill c : Char) :
    alignRight fill width c = .ok (List.replicate (width - 1) fill ++ [c]) :=
  if_pos h

theorem alignRight_of_not_le (h : ¬width ≤ 65535) (fill c : Char) :
    alignRight fill width c = .error .tooWide :=
  if_neg h

end Fields

/-- The line of a text with a number, counted from 1: what stands between its line feeds. -/
def textLine (source : List Char) (number : Nat) : List Char :=
  ((source.splitOn '\n')[number - 1]?).getD []

/-- The number of its line and its caret have room in the fields of an excerpt. -/
structure Location.Fits (l : Location) (source : List Char) : Prop where
  number : (Nat.toDigits 10 l.line).length + 2 ≤ 65535
  caret : l.column - ((textLine source l.line).takeWhile isIndent).length ≤ 65535

instance Location.decidableFits (l : Location) (source : List Char) : Decidable (l.Fits source) :=
  decidable_of_iff ((Nat.toDigits 10 l.line).length + 2 ≤ 65535 ∧
    l.column - ((textLine source l.line).takeWhile isIndent).length ≤ 65535)
    ⟨fun h => ⟨h.1, h.2⟩, fun h => ⟨h.number, h.caret⟩⟩

/-- The lines of an excerpt that points at something. -/
structure Diagram where
  header : List Char
  bar : List Char
  shown : List Char
  caret : List Char

namespace Diagram

def lines (d : Diagram) : List (List Char) :=
  [d.header, d.bar, d.shown, d.caret]

/-- The lines with their line feeds. -/
def text (d : Diagram) : String :=
  String.ofList (d.lines.flatMap (· ++ ['\n']))

/-- The column of the caret, counted from 0. -/
def index (d : Diagram) : Nat :=
  d.caret.length - 1

/-- The caret is where a source goes on with `rest` behind `before`. -/
structure PointsAt (d : Diagram) (l : Location) (before rest : List Char) : Prop where
  header : d.header = "-> ".toList ++ l.text.toList
  lineFeeds : ∀ line ∈ d.lines, '\n' ∉ line
  bars : ∃ i, ∀ line ∈ [d.bar, d.shown, d.caret], line.idxOf? '|' = some i
  caret : d.caret.getLast? = some '^'
  target : d.shown[d.index]? = rest.head?
  /-- In front of the caret the line has its number and what it has in the source without the
  blanks at its start. -/
  front : d.shown.take d.index =
    Nat.toDigits 10 l.line ++ " | ".toList ++ (lastLine before).dropWhile isIndent
  /-- From the caret on the line is as in the source without the white space at its end. -/
  rest : d.shown.drop d.index = trimEnd (rest.takeWhile (· ≠ '\n'))

/-- The diagram that shows a text, with the caret behind so many characters of it. -/
def showing (l : Location) (shown : List Char) (width : Nat) : Diagram :=
  let number := Nat.toDigits 10 l.line
  let bar := List.replicate (number.length + 1) ' ' ++ ['|']
  { header := "-> ".toList ++ s!"{l.file}:{l.line}:{l.column}".toList
    bar := bar
    shown := number ++ " | ".toList ++ shown
    caret := bar ++ ' ' :: (List.replicate width '-' ++ ['^']) }

/-- The diagram of a location in a source: its line without the blanks around it, and the caret in
its column. -/
def of (l : Location) (source : List Char) : Diagram :=
  let line := textLine source l.line
  showing l (trimEnd (line.dropWhile isIndent)) (l.column - (line.takeWhile isIndent).length - 1)

end Diagram

namespace Location

variable {l : Location} {before rest : List Char} {c : Char}

theorem lineDown?_behind (hplace : l.toPlace = Place.behind before) (rest : List Char) :
    l.line ≠ 0 ∧ lineDown? (l.line - 1) (before ++ rest) =
      some (lastLine before ++ rest.takeWhile (· ≠ '\n')) := by
  have hnumber : l.line = before.count '\n' + 1 := by
    rw [hplace, Place.behind, Nat.add_comm]
  rw [hnumber]
  exact ⟨Nat.succ_ne_zero _, lineDown?_append before rest⟩

theorem textLine_behind (hplace : l.toPlace = Place.behind before) (rest : List Char) :
    textLine (before ++ rest) l.line = lastLine before ++ rest.takeWhile (· ≠ '\n') := by
  rw [textLine, ← lineDown?_eq_getElem?, (lineDown?_behind hplace rest).2, Option.getD_some]

-- The column less the blanks that are not shown.
theorem width_behind (hplace : l.toPlace = Place.behind before) :
    l.column - ((lastLine before).takeWhile isIndent).length =
      ((lastLine before).dropWhile isIndent).length + 1 := by
  have hcolumn := congrArg Place.column hplace
  have hsplit := congrArg List.length ((lastLine before).takeWhile_append_dropWhile
    (p := isIndent))
  rw [Place.column_behind] at hcolumn
  rw [List.length_append] at hsplit
  omega

theorem fits_behind_iff (hplace : l.toPlace = Place.behind before) (hc : isWhiteSpace c = false)
    (rest : List Char) :
    l.Fits (before ++ c :: rest) ↔ (Nat.toDigits 10 l.line).length + 2 ≤ 65535 ∧
      ((lastLine before).dropWhile isIndent).length + 1 ≤ 65535 := by
  have hindent := takeWhile_append_cons (isIndent_of_not_isWhiteSpace hc) (lastLine before)
    (rest.takeWhile (· ≠ '\n'))
  have hline := textLine_behind hplace (c :: rest)
  rw [takeWhile_line (ne_of_isWhiteSpace hc (by decide))] at hline
  rw [← width_behind hplace, ← hindent, ← hline]
  exact ⟨fun h => ⟨h.number, h.caret⟩, fun h => ⟨h.1, h.2⟩⟩

-- Too much stands in front on the same line.
theorem not_fits_of_length (hplace : l.toPlace = Place.behind before)
    (hc : isWhiteSpace c = false) (hline : '\n' ∉ before)
    (hfirst : before.head?.any isIndent = false) (hlength : 65535 ≤ before.length)
    (rest : List Char) : ¬l.Fits (before ++ c :: rest) := by
  have hindent : before.dropWhile isIndent = before :=
    dropWhile_row (List.forall_mem_nil _) hfirst
  rw [fits_behind_iff hplace hc, lastLine_of_not_mem hline, hindent]
  omega

/-- The excerpt of a place in the source is its diagram. -/
theorem excerptLines_of_fits (hplace : l.toPlace = Place.behind before)
    (hfits : l.Fits (before ++ rest)) :
    l.excerptLines (before ++ rest) = .ok (Diagram.of l (before ++ rest)).lines := by
  obtain ⟨hnumber, hline⟩ := lineDown?_behind hplace rest
  have hcaret := hfits.caret
  rw [textLine_behind hplace] at hcaret
  rw [← takeWhile_dropReturn] at hcaret
  rw [excerptLines, alignRight_of_le hfits.number, sourceLine?, if_neg hnumber, hline,
    Option.map_some]
  simp only [bind, Except.bind]
  rw [alignRight_of_le hcaret, drop_takeWhile, trimEnd_dropReturn, takeWhile_dropReturn, Diagram.of,
    textLine_behind hplace]
  rfl

-- The bars come first and the caret last. Either one may be what has no room.
theorem excerptLines_of_not_fits (hplace : l.toPlace = Place.behind before)
    (hfits : ¬l.Fits (before ++ rest)) : l.excerptLines (before ++ rest) = .error .tooWide := by
  obtain ⟨hnumber, hline⟩ := lineDown?_behind hplace rest
  by_cases hbar : (Nat.toDigits 10 l.line).length + 2 ≤ 65535
  · have hcaret : ¬l.column - ((lastLine before ++ rest.takeWhile (· ≠ '\n')).takeWhile
        isIndent).length ≤ 65535 := by
      rw [← textLine_behind hplace]
      exact fun hcaret => hfits ⟨hbar, hcaret⟩
    rw [← takeWhile_dropReturn] at hcaret
    rw [excerptLines, alignRight_of_le hbar, sourceLine?, if_neg hnumber, hline, Option.map_some]
    simp only [bind, Except.bind]
    rw [alignRight_of_not_le hcaret]
  · rw [excerptLines, alignRight_of_not_le hbar]
    rfl

theorem excerpt_of_fits {source : String} (hplace : l.toPlace = Place.behind before)
    (hsource : source.toList = before ++ rest) (hfits : l.Fits source.toList) :
    l.excerpt source = .ok (Diagram.of l source.toList).text := by
  rw [hsource] at hfits ⊢
  rw [excerpt, hsource, excerptLines_of_fits hplace hfits]
  rfl

theorem excerpt_of_not_fits {source : String} (hplace : l.toPlace = Place.behind before)
    (hsource : source.toList = before ++ rest) (hfits : ¬l.Fits source.toList) :
    l.excerpt source = .error .tooWide := by
  rw [hsource] at hfits
  rw [excerpt, hsource, excerptLines_of_not_fits hplace hfits]
  rfl

-- A place on the first line with too much in front of it.
theorem excerpt_of_length (hc : isWhiteSpace c = false) (hline : '\n' ∉ before)
    (hfirst : before.head?.any isIndent = false) (hlength : 65535 ≤ before.length)
    (rest : List Char) (file : String) :
    excerpt ⟨⟨1, before.length + 1⟩, file⟩ (String.ofList (before ++ c :: rest)) =
      .error .tooWide := by
  have hplace : (⟨1, before.length + 1⟩ : Place) = Place.behind before := by
    rw [← Place.start_after, Place.after_of_not_mem _ hline, Place.start, Nat.add_comm 1]
  apply excerpt_of_not_fits hplace String.toList_ofList
  rw [String.toList_ofList]
  exact not_fits_of_length hplace hc hline hfirst hlength rest

/-- Where a character stands that is not white space, the caret is behind what stands in front of
the character in its line, without the blanks at the start. -/
theorem of_behind (hplace : l.toPlace = Place.behind before) (hc : isWhiteSpace c = false)
    (rest : List Char) :
    Diagram.of l (before ++ c :: rest) = Diagram.showing l
      ((lastLine before).dropWhile isIndent ++ trimEnd ((c :: rest).takeWhile (· ≠ '\n')))
      ((lastLine before).dropWhile isIndent).length := by
  have hindent := isIndent_of_not_isWhiteSpace hc
  have hshown := trimEnd_append_cons hc [] (rest.takeWhile (· ≠ '\n'))
  rw [List.nil_append, List.nil_append] at hshown
  rw [Diagram.of, textLine_behind hplace, takeWhile_line (ne_of_isWhiteSpace hc (by decide)),
    takeWhile_append_cons hindent, dropWhile_append_cons hindent, trimEnd_append_cons hc, hshown,
    width_behind hplace, Nat.add_sub_cancel]

theorem not_mem_text (hfile : '\n' ∉ l.file.toList) :
    '\n' ∉ s!"{l.file}:{l.line}:{l.column}".toList := by
  have hdigits := not_mem_toDigits (c := '\n') rfl
  simp [toString, hfile, hdigits]

end Location

namespace Diagram

variable (l : Location) (front rest : List Char)

theorem getLast?_caret : (showing l (front ++ rest) front.length).caret.getLast? = some '^' := by
  have hcaret : (showing l (front ++ rest) front.length).caret =
      (showing l (front ++ rest) front.length).bar ++ ' ' :: List.replicate front.length '-' ++
        ['^'] := by
    simp [showing]
  rw [hcaret]
  exact List.getLast?_concat

theorem index_showing : (showing l (front ++ rest) front.length).index =
    (Nat.toDigits 10 l.line ++ " | ".toList ++ front).length := by
  simp [index, showing]
  omega

theorem take_index : (showing l (front ++ rest) front.length).shown.take
    (showing l (front ++ rest) front.length).index =
      Nat.toDigits 10 l.line ++ " | ".toList ++ front := by
  rw [index_showing, showing, ← List.append_assoc]
  exact List.take_left

theorem drop_index : (showing l (front ++ rest) front.length).shown.drop
    (showing l (front ++ rest) front.length).index = rest := by
  rw [index_showing, showing, ← List.append_assoc]
  exact List.drop_left

-- The margin of each line is as wide as the number and a space.
theorem bars_showing (shown : List Char) (width : Nat) :
    ∃ i, ∀ line ∈ [(showing l shown width).bar, (showing l shown width).shown,
      (showing l shown width).caret], line.idxOf? '|' = some i := by
  have hblank : '|' ∉ List.replicate ((Nat.toDigits 10 l.line).length + 1) ' ' := by
    simp [List.mem_replicate]
  have hnumber : '|' ∉ Nat.toDigits 10 l.line ++ [' '] := by
    simp [not_mem_toDigits (c := '|') rfl]
  have hbar := idxOf?_append_cons hblank []
  have hshown := idxOf?_append_cons hnumber (' ' :: shown)
  have hcaret := idxOf?_append_cons hblank (' ' :: (List.replicate width '-' ++ ['^']))
  rw [List.length_replicate] at hbar hcaret
  rw [List.length_append] at hshown
  refine ⟨(Nat.toDigits 10 l.line).length + 1, ?_⟩
  simp only [List.forall_mem_cons, List.not_mem_nil, false_implies, implies_true, and_true]
  refine ⟨hbar, ?_, ?_⟩
  · simpa [showing] using hshown
  · simpa [showing] using hcaret

theorem lineFeeds_showing {shown : List Char} (hfile : '\n' ∉ l.file.toList)
    (hshown : '\n' ∉ shown) (width : Nat) :
    ∀ line ∈ (showing l shown width).lines, '\n' ∉ line := by
  have hdigits := not_mem_toDigits (c := '\n') rfl l.line
  have hheader := Location.not_mem_text hfile
  simp only [lines, List.forall_mem_cons, List.not_mem_nil, false_implies, implies_true, and_true]
  refine ⟨?_, ?_, ?_, ?_⟩
  · rw [showing, List.mem_append, not_or]
    exact ⟨by decide, hheader⟩
  · simp [showing, List.mem_replicate]
  · simp [showing, hdigits, hshown]
  · simp [showing, List.mem_replicate]

end Diagram

/-- Where a character stands that is not white space, the diagram points there. -/
theorem Location.diagram_pointsAt {l : Location} {before : List Char} {c : Char}
    (hfile : '\n' ∉ l.file.toList) (hplace : l.toPlace = Place.behind before)
    (hc : isWhiteSpace c = false) (rest : List Char) :
    (Diagram.of l (before ++ c :: rest)).PointsAt l before (c :: rest) := by
  have hfront : '\n' ∉ (lastLine before).dropWhile isIndent := fun h =>
    not_mem_lastLine before ((List.dropWhile_sublist _).subset h)
  have hrest : '\n' ∉ trimEnd ((c :: rest).takeWhile (· ≠ '\n')) := by
    intro h
    have hmem := (List.rdropWhile_prefix isWhiteSpace _).subset h
    exact of_decide_eq_true (List.mem_takeWhile_imp (p := fun c => decide (c ≠ '\n')) hmem) rfl
  have hshown : '\n' ∉ (lastLine before).dropWhile isIndent ++
      trimEnd ((c :: rest).takeWhile (· ≠ '\n')) := by
    rw [List.mem_append, not_or]
    exact ⟨hfront, hrest⟩
  have hhead : (trimEnd ((c :: rest).takeWhile (· ≠ '\n'))).head? = some c := by
    rw [takeWhile_line (ne_of_isWhiteSpace hc (by decide))]
    exact congrArg List.head? (trimEnd_append_cons hc [] _)
  rw [of_behind hplace hc]
  exact {
    header := rfl
    lineFeeds := Diagram.lineFeeds_showing l hfile hshown _
    bars := Diagram.bars_showing l _ _
    caret := Diagram.getLast?_caret l _ _
    target := by
      rw [← List.head?_drop, Diagram.drop_index, hhead]
      rfl
    front := Diagram.take_index l _ _
    rest := Diagram.drop_index l _ _ }

example : Location.excerpt ⟨⟨2, 13⟩, "a.lang"⟩ "let a = 1;\n    let b = $;\r\n" =
    .ok "-> a.lang:2:13\n  |\n2 | let b = $;\n  | --------^\n" := by
  decide +kernel

end TypedLiterals
