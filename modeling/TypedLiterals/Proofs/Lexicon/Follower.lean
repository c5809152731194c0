import TypedLiterals.Proofs.Lexicon.Lexeme

/-!
What the recognizers see of the text behind a token is how it begins, and whether it makes a
fraction of the digits in front of it. Another text that looks the same, or that begins with a
blank, may stand there instead.
-/

namespace TypedLiterals

/-- All the blanks there are. -/
def blanks : List Char := [' ', '\t', '\n', '\r']

theorem mem_blanks_of_isBlank {c : Char} (h : isBlank c = true) : c ∈ blanks := by
  simpa [isBlank, blanks, or_assoc] using h

theorem eq_false_of_isBlank {accept : Char → Bool} (hblanks : blanks.any accept = false) {c : Char}
    (h : isBlank c = true) : accept c = false :=
  Bool.eq_false_iff.mpr (List.any_eq_false.mp hblanks c (mem_blanks_of_isBlank h))

namespace Rules

-- A blank goes with every token of one character.
theorem notBefore_blanks :
    ∀ rule ∈ language.chars, blanks.any rule.notBefore.contains = false := by
  decide

end Rules

/-- `rest'` begins as `rest` does, unless it begins with a blank or is empty. -/
def BeginsLike (rest rest' : List Char) : Prop :=
  ∀ c ∈ rest'.head?, c ∈ rest.head? ∨ isBlank c = true

namespace BeginsLike

variable {rest rest' : List Char} {accept : Char → Bool}

theorem any_eq_false (h : BeginsLike rest rest') (hrest : rest.head?.any accept = false)
    (hblanks : blanks.any accept = false) : rest'.head?.any accept = false := by
  cases rest' with
  | nil => rfl
  | cons c rest' =>
    rcases h c rfl with hsame | hc
    · rw [Option.mem_def.mp hsame] at hrest
      exact hrest
    · exact eq_false_of_isBlank hblanks hc

theorem endsWord (h : BeginsLike rest rest') (hrest : EndsWord rest) : EndsWord rest' :=
  h.any_eq_false hrest (by decide)

theorem append (rest more : List Char) (hmore : ∀ c ∈ more.head?, isBlank c = true) :
    BeginsLike rest (rest ++ more) := by
  intro c hc
  cases rest with
  | nil => exact .inr (hmore c hc)
  | cons d rest => exact .inl hc

end BeginsLike

/-- Any token that has `rest` behind it could as well have `rest'` there. -/
structure Follower (rest rest' : List Char) : Prop where
  begins : BeginsLike rest rest'
  point : PointFollows rest' → PointFollows rest

theorem Follower.of_blank {rest rest' : List Char} (h : ∀ c ∈ rest'.head?, isBlank c = true) :
    Follower rest rest' where
  begins := fun c hc => .inr (h c hc)
  point := by
    intro hpoint
    cases hpoint with
    | intro => exact absurd (h '.' rfl) (by decide)

theorem Lexeme.of_follower {rest rest' text : List Char} {kind : TokenKind}
    (h : Lexeme rest kind text) (hrest : Follower rest rest') : Lexeme rest' kind text := by
  cases h with
  | @char rule known allowed =>
    exact .char known (hrest.begins.any_eq_false allowed (Rules.notBefore_blanks rule known))
  | spelling known => exact .spelling known
  | fraction point ends => exact .fraction point (hrest.begins.endsWord ends)
  | integer ne digits ends noPoint =>
    exact .integer ne digits (hrest.begins.endsWord ends) fun hpoint =>
      noPoint (hrest.point hpoint)
  | word start goesOn ends =>
    exact .word start goesOn (hrest.begins.any_eq_false ends (by decide))
  | string opens contents => exact .string opens contents
  | hex mark ne digits ends =>
    exact .hex mark ne digits (hrest.begins.any_eq_false ends (by decide))

-- A comment of one line needs the end of the line behind it.
theorem Comment.of_follower {rest rest' text : List Char} (h : Comment rest text)
    (hrest : ∀ c ∈ rest'.head?, c ∈ rest.head? ∨ c = '\n') : Comment rest' text := by
  cases h with
  | line inLine ends =>
    apply Comment.line inLine
    intro c hc
    rcases hrest c hc with hsame | hline
    · exact ends c hsame
    · exact hline
  | block first => exact .block first

/-- The digits behind the point of a fraction, and its mark. -/
def isFractionChar (c : Char) : Bool :=
  c.isDigit || c = 'f'

theorem isFractionChar_of_mem {digits mark : List Char} (hdigits : ∀ c ∈ digits, c.isDigit = true)
    (hmark : mark = [] ∨ mark = ['f']) : ∀ c ∈ digits ++ mark, isFractionChar c = true := by
  intro c hc
  rcases List.mem_append.mp hc with hc | hc
  · rw [isFractionChar, hdigits c hc, Bool.true_or]
  · rcases hmark with rfl | rfl
    · cases hc
    · rw [List.mem_singleton.mp hc]
      rfl

-- Behind the row of its characters anything may stand that ends a word.
theorem PointFollows.exists_row {cs : List Char} (h : PointFollows cs) :
    ∃ row after, cs = '.' :: row ++ after ∧ row.head?.any Char.isDigit = true ∧
      (∀ c ∈ row, isFractionChar c = true) ∧ EndsWord after ∧
      ∀ {other}, EndsWord other → PointFollows ('.' :: row ++ other) := by
  cases h with
  | @intro digits mark after ne isDigit isMark ends =>
    refine ⟨digits ++ mark, after, ?_, ?_, isFractionChar_of_mem isDigit isMark, ends, ?_⟩
    · rw [List.cons_append, List.append_assoc]
    · cases digits with
      | nil => exact absurd rfl ne
      | cons d digits => exact isDigit d List.mem_cons_self
    · intro other hother
      rw [List.cons_append, List.append_assoc]
      exact .intro ne isDigit isMark hother

section LineFeed

variable {rest more row after : List Char} {c : Char}

theorem exists_tail_of_append_eq (hrow : c ∉ row) (h : rest ++ c :: more = row ++ after) :
    ∃ tail, rest = row ++ tail ∧ after = tail ++ c :: more := by
  rcases List.append_eq_append_iff.mp h with ⟨between, rfl, hmore⟩ | ⟨tail, rfl, hafter⟩
  · cases between with
    | nil => exact ⟨[], by rw [List.append_nil, List.append_nil], hmore.symm⟩
    | cons d between =>
      obtain rfl : c = d := (List.cons.inj hmore).1
      exact absurd (List.mem_append_right rest List.mem_cons_self) hrow
  · exact ⟨tail, rfl, hafter⟩

theorem PointFollows.of_lineFeed (h : PointFollows (rest ++ '\n' :: more)) : PointFollows rest := by
  obtain ⟨row, after, heq, -, hrow, ends, hfollows⟩ := h.exists_row
  have hline : '\n' ∉ '.' :: row :=
    List.not_mem_cons_of_ne_of_not_mem (by decide) fun hmem => absurd (hrow _ hmem) (by decide)
  obtain ⟨tail, rfl, rfl⟩ := exists_tail_of_append_eq hline heq
  apply hfollows
  cases tail with
  | nil => rfl
  | cons c tail => exact ends

-- Behind a text that is cut short, a line feed stands as well as nothing.
theorem Follower.lineFeed (rest more : List Char) : Follower rest (rest ++ '\n' :: more) where
  begins := .append rest _ fun _ hc => Option.some.inj hc ▸ rfl
  point := .of_lineFeed

end LineFeed

end TypedLiterals
