import TypedLiterals.Number.Binary
import TypedLiterals.Text.Character

/-!
Numbers as text. An integer of any size is read from a sign or none and then decimal digits, or `0x`
and hexadecimal digits; it is written in decimal. A binary number is the one nearest to a decimal
number: a sign or none, digits with at most one point among them and perhaps an exponent, or the
words `inf`, `infinity` and `nan`. It is written with the fewest digits that are read back as the
same number.
-/

namespace TypedLiterals

/-- Takes a sign off the front of a number; the flag says whether it is a minus. -/
def splitSign : List Char → Bool × List Char
  | '-' :: rest => (true, rest)
  | '+' :: rest => (false, rest)
  | rest => (false, rest)

/-- The number that one or more digits of a base write. -/
def readDigits? (base : Nat) (accept : Char → Bool) (digits : List Char) : Option Nat :=
  if digits ≠ [] ∧ digits.all accept then some (ofDigits base digits) else none

/-- An integer without a sign. What begins like a hexadecimal integer is not read in any other
way. -/
def readMagnitude? : List Char → Option Nat
  | '0' :: 'x' :: digits => readDigits? 16 isHexDigit digits
  | '0' :: 'X' :: digits => readDigits? 16 isHexDigit digits
  | digits => readDigits? 10 Char.isDigit digits

def readIntegerChars? (cs : List Char) : Option Int :=
  let (negative, unsigned) := splitSign cs
  (readMagnitude? unsigned).map fun n => if negative then -(n : Int) else n

def readInteger? (text : String) : Option Int :=
  readIntegerChars? text.toList

def writeInteger (i : Int) : String :=
  let digits := Nat.toDigits 10 i.natAbs
  String.ofList (if i < 0 then '-' :: digits else digits)

/-- Whether a text is in the hexadecimal form, any signs apart. -/
def isHexText (text : String) : Bool :=
  match text.toList.dropWhile fun c => c = '-' || c = '+' with
  | '0' :: x :: _ => x = 'x' || x = 'X'
  | _ => false

structure Decimal where
  coefficient : Nat
  exponent : Int
deriving DecidableEq, Inhabited

namespace Decimal

/-- The nearest binary number. Magnitudes far beyond the range of the format are not computed:
from `10 ^ 401` on they are infinite, and below `2 ^ -1080` they are zero. -/
def toBinary64 (d : Decimal) (negative : Bool) : Binary64 :=
  if d.coefficient = 0 then .finite negative 0
  else if 400 < d.exponent then .infinity negative
  else if d.coefficient.log2 + 3 * d.exponent < -1080 then .finite negative 0
  else
    .ofUnits .double negative
      (d.coefficient * 10 ^ d.exponent.toNat * 2 ^ unitShift) (10 ^ (-d.exponent).toNat)

/-- An exponent with its mark, if there is any. -/
def readExponent? : List Char → Option Int
  | [] => some 0
  | mark :: rest =>
    if mark = 'e' ∨ mark = 'E' then
      let (negative, digits) := splitSign rest
      (readDigits? 10 Char.isDigit digits).map fun n => if negative then -(n : Int) else n
    else none

/-- The decimal number, without a sign, that `cs` writes. -/
def read? (cs : List Char) : Option Decimal :=
  let whole := cs.takeWhile Char.isDigit
  let (fraction, rest) :=
    match cs.dropWhile Char.isDigit with
    | '.' :: rest => (rest.takeWhile Char.isDigit, rest.dropWhile Char.isDigit)
    | rest => ([], rest)
  if whole = [] ∧ fraction = [] then none
  else
    (readExponent? rest).map fun e => ⟨ofDigits 10 (whole ++ fraction), e - fraction.length⟩

/-- Decimal digits without exponent and sign. A point stands only before digits that are needed. -/
def text (d : Decimal) : List Char :=
  let digits := Nat.toDigits 10 d.coefficient
  if 0 ≤ d.exponent then digits ++ List.replicate d.exponent.toNat '0'
  else
    let places := (-d.exponent).toNat
    let padded := List.replicate (places + 1 - digits.length) '0' ++ digits
    padded.take (padded.length - places) ++ '.' :: padded.drop (padded.length - places)

end Decimal

def readFloatChars? (cs : List Char) : Option Binary64 :=
  let (negative, body) := splitSign cs
  match Decimal.read? body with
  | some d => some (d.toBinary64 negative)
  | none =>
    match String.ofList (body.map Char.toLower) with
    | "inf" | "infinity" => some (.infinity negative)
    | "nan" => some .nan
    | _ => none

/-- The binary number that a text writes. One `f` at the end, the mark of single precision, is not
part of the number. -/
def readFloat? (text : String) : Option Binary64 :=
  let cs := text.toList
  readFloatChars? (if cs.getLast? = some 'f' then cs.dropLast else cs)

namespace Decimal

def ofUnits (units : Nat) : Decimal :=
  ⟨units * 5 ^ unitShift, -unitShift⟩

/-- Whether the number is read as just so many units. -/
def readsAs (d : Decimal) (units : Nat) : Bool :=
  d.toBinary64 false = .finite false units

/-- The decimal number without the last `dropped` digits of `d` that lies nearest to `d`, among the
two neighbours that are read as `units`. A tie goes to the larger one. -/
def neighbour? (units : Nat) (d : Decimal) (dropped : Nat) : Option Decimal :=
  let step := 10 ^ dropped
  let below : Decimal := ⟨d.coefficient / step, d.exponent + dropped⟩
  let above : Decimal := ⟨d.coefficient / step + 1, d.exponent + dropped⟩
  match below.readsAs units, above.readsAs units with
  | true, true => some (if 2 * (d.coefficient % step) < step then below else above)
  | true, false => some below
  | false, true => some above
  | false, false => none

/-- The shortest decimal number that is read as `units`. With no digit kept, the neighbour above is
a power of ten; seventeen digits are enough for every number. -/
def shortest (units : Nat) : Decimal :=
  let exact := ofUnits units
  let size := (Nat.toDigits 10 exact.coefficient).length
  ((List.range 18).findSome? fun n => neighbour? units exact (size - n)).getD exact

end Decimal

namespace Binary64

/-- The text of a number: the fewest digits that are read back as the same number and of these the
nearest ones, never with an exponent. -/
def text : Binary64 → String
  | nan => "NaN"
  | infinity negative => if negative then "-inf" else "inf"
  | finite negative units =>
    let digits := if units = 0 then ['0'] else (Decimal.shortest units).text
    String.ofList (if negative then '-' :: digits else digits)

end Binary64

end TypedLiterals
