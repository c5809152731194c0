import TypedLiterals.Source.Cursor

/-!
Showing a location in its source: the line, without the blanks around it, and below it a caret under
the character in question. The caret and the bars in front stand at the end of fields, and a field
that is wider than fields can be is a failure that nothing catches.
-/

namespace TypedLiterals

/-- The text from here up to the end of the line that is `n` lines down. -/
def lineDown? : Nat → List Char → Option (List Char)
  | 0, cs => some (cs.takeWhile (· ≠ '\n'))
  | n + 1, cs =>
    match cs.dropWhile (· ≠ '\n') with
    | [] => none
    | _ :: rest => lineDown? n rest

/-- A line of a source, counted from 1, without its end: a line feed, or a carriage return and a
line feed. -/
def sourceLine? (source : List Char) (line : Nat) : Option (List Char) :=
  if line = 0 then none
  else
    (lineDown? (line - 1) source).map fun text =>
      if text.getLast? = some '\r' then text.dropLast else text

def trimEnd (cs : List Char) : List Char :=
  (cs.reverse.dropWhile isWhiteSpace).reverse

/-- Spaces and tabs at the start of a line are not shown. -/
def isIndent (c : Char) : Bool :=
  c = ' ' || c = '\t'

inductive FieldError where
  | tooWide
deriving DecidableEq, Inhabited

/-- Widths have 16 bits. -/
def maxFieldWidth : Nat := 65535

/-- A character at the end of a field of the given width. -/
def alignRight (fill : Char) (width : Nat) (c : Char) : Except FieldError (List Char) :=
  if width ≤ maxFieldWidth then .ok (List.replicate (width - 1) fill ++ [c]) else .error .tooWide

namespace Location

/-- The lines of an excerpt. There is no source line and no caret if the source has no such line. -/
def excerptLines (l : Location) (source : List Char) : Except FieldError (List (List Char)) := do
  let number := Nat.toDigits 10 l.line
  let bar ← alignRight ' ' (number.length + 2) '|'
  let header := ["-> ".toList ++ l.text.toList, bar]
  match sourceLine? source l.line with
  | none => return header
  | some text =>
    let indent := (text.takeWhile isIndent).length
    let caret ← alignRight '-' (l.column - indent) '^'
    return header ++ [number ++ " | ".toList ++ trimEnd (text.drop indent), bar ++ ' ' :: caret]

def excerpt (l : Location) (source : String) : Except FieldError String := do
  return String.ofList ((← l.excerptLines source.toList).flatMap (· ++ ['\n']))

end Location

end TypedLiterals
