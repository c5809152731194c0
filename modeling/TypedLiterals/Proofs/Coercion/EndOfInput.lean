import TypedLiterals.Proofs.Coercion.Accounting
import TypedLiterals.Proofs.Token.Layout

/-!
Where an expression is missing at the end of a source. The place is counted on from the last token
by its number of characters. That is the place behind the token if the token is on one line, and
only then: a string may go on to another line.
-/

namespace TypedLiterals

namespace Pass

/-- Reading makes no node here, and says in one issue that an expression is missing at the place.
Nothing else changes. -/
def MissesAt (p : Pass) (expected : Option PrimType) (place : Place) : Prop :=
  ∃ issue, p.readExpression expected = (.void, p.report issue) ∧ issue.kind = .unexpectedToken ∧
    issue.location = { place with file := p.file }

variable {p : Pass} {expected : Option PrimType} {place : Place}

theorem missesAt_iff (hdone : p.reader.isDone = true) :
    p.MissesAt expected place ↔ p.endLocation.toPlace = place := by
  have hread := readExpression_of_end (p.reader.isDone_iff.mp hdone) expected
  have hfile : p.endLocation.file = p.file := by
    rw [endLocation]
    split <;> rfl
  refine ⟨?_, ?_⟩
  · rintro ⟨issue, hreport, -, hlocation⟩
    rw [hread] at hreport
    have hlog := congrArg (·.2.log.issues) hreport
    obtain ⟨rfl, -⟩ := Array.push_eq_push.mp hlog
    exact congrArg Location.toPlace hlocation
  · rintro rfl
    refine ⟨_, hread, rfl, ?_⟩
    rw [← hfile]
    rfl

theorem endLocation_of_last {front : List Token} {last : Token}
    (htokens : p.reader.tokens = front ++ [last]) :
    p.endLocation.toPlace =
      ⟨last.place.line, last.place.column + last.text.toList.length⟩ := by
  rw [endLocation, TokenReader.last?, htokens, List.getLast?_concat, String.length_toList]

/-- At the end of a source an expression is missing as many columns behind the beginning of the last
token as the token has characters. This is the place behind the token exactly if the token is on one
line. -/
theorem readExpression_missing {lexer : Lexer} {source : String} {front : List Token}
    {last : Token} (h : lexer.tokenize source = .ok (front ++ [last]))
    (htokens : p.reader.tokens = front ++ [last]) (hdone : p.reader.isDone = true)
    (expected : Option PrimType) :
    ∃ before gap, source.toList = before ++ (last.text.toList ++ gap) ∧ Gap [] gap ∧
      last.place = Place.behind before ∧
      p.MissesAt expected ⟨last.place.line, last.place.column + last.text.toList.length⟩ ∧
      (p.MissesAt expected (Place.behind (before ++ last.text.toList)) ↔
        '\n' ∉ last.text.toList) := by
  have hlayout := Lexer.layout_of_reads (Cursor.ofSource_behind source.toList)
    (Lexer.reads_of_tokensFrom h)
  obtain ⟨before, gap, hsource, hplace, hgap⟩ := hlayout.exists_last rfl
  rw [List.nil_append] at hplace
  refine ⟨before, gap, hsource, hgap, hplace, ?_, ?_⟩
  · exact (missesAt_iff hdone).mpr (endLocation_of_last htokens)
  · rw [missesAt_iff hdone, endLocation_of_last htokens, ← Place.start_after, Place.after_append,
      Place.start_after, ← hplace]
    exact Place.after_eq_iff _ _

/-- A string of one line with a comment behind it, read from far behind the end. -/
theorem readExpression_missing_comment :
    ({} : Lexer).tokenize " x 'é' // y" =
        .ok ([⟨.identifier, "x", ⟨1, 2⟩⟩] ++ [⟨.stringLiteral, "'é'", ⟨1, 4⟩⟩]) ∧
      ∃ before gap, " x 'é' // y".toList = before ++ ("'é'".toList ++ gap) ∧ Gap [] gap ∧
        ⟨1, 4⟩ = Place.behind before ∧
        ((ofTokens [⟨.identifier, "x", ⟨1, 2⟩⟩, ⟨.stringLiteral, "'é'", ⟨1, 4⟩⟩]
          "a.lang").restore ⟨9⟩).MissesAt none ⟨1, 7⟩ ∧
        (((ofTokens [⟨.identifier, "x", ⟨1, 2⟩⟩, ⟨.stringLiteral, "'é'", ⟨1, 4⟩⟩]
          "a.lang").restore ⟨9⟩).MissesAt none (Place.behind (before ++ "'é'".toList)) ↔
            '\n' ∉ "'é'".toList) := by
  have h : ({} : Lexer).tokenize " x 'é' // y" =
      .ok ([⟨.identifier, "x", ⟨1, 2⟩⟩] ++ [⟨.stringLiteral, "'é'", ⟨1, 4⟩⟩]) := by
    decide +kernel
  exact ⟨h, readExpression_missing h rfl rfl none⟩

/-- A string that goes on to the second line. The issue is placed behind the end of the first. -/
theorem not_missesAt_of_tokenize :
    Lexer.tokenize {} "'\n'" = .ok [⟨.stringLiteral, "'\n'", ⟨1, 1⟩⟩] ∧
      (ofTokens [⟨.stringLiteral, "'\n'", ⟨1, 1⟩⟩] "a.lang").skip.reader.isDone = true ∧
      (ofTokens [⟨.stringLiteral, "'\n'", ⟨1, 1⟩⟩] "a.lang").skip.MissesAt none ⟨1, 4⟩ ∧
      ¬(ofTokens [⟨.stringLiteral, "'\n'", ⟨1, 1⟩⟩] "a.lang").skip.MissesAt none
        (Place.behind "'\n'".toList) := by
  have hdone :
      (ofTokens [⟨.stringLiteral, "'\n'", ⟨1, 1⟩⟩] "a.lang").skip.reader.isDone = true := by
    decide +kernel
  refine ⟨by decide +kernel, hdone, ?_, ?_⟩
  · exact (missesAt_iff hdone).mpr (by decide +kernel)
  · rw [missesAt_iff hdone]
    decide +kernel

end Pass

end TypedLiterals
