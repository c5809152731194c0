/-!
Binary floating-point numbers, exactly. Every finite number of either format is a whole multiple of
the smallest positive number of double precision, so a magnitude is a natural number that counts
these units, and all rounding is integer division.
-/

-- Powers are those of the core library, also where a module imports another notion of powers.
attribute [instance (10000), default_instance 10000] instPowNat

namespace TypedLiterals

/-- `2 ^ unitShift` units make one. -/
def unitShift : Nat := 1074

/-- A format of floating-point numbers, measured in units. -/
structure FloatFormat where
  precision : Nat
  /-- All numbers are multiples of `2 ^ finest` units. -/
  finest : Nat
  /-- All finite numbers are below `2 ^ limit` units. -/
  limit : Nat
deriving DecidableEq

namespace FloatFormat

/-- 24 bits, from `2 ^ -149` up to `2 ^ 128`. -/
def single : FloatFormat := ⟨24, unitShift - 149, unitShift + 128⟩

/-- 53 bits, from `2 ^ -1074` up to `2 ^ 1024`. -/
def double : FloatFormat := ⟨53, 0, unitShift + 1024⟩

end FloatFormat

/-- The whole number nearest to `n / d`; of two that are equally near, the even one. -/
def divNearestEven (n d : Nat) : Nat :=
  let q := n / d
  let r := n % d
  if 2 * r < d ∨ (2 * r = d ∧ q % 2 = 0) then q else q + 1

namespace FloatFormat

/-- The number of low bits that a magnitude with whole part `n` cannot keep. -/
def lostBits (f : FloatFormat) (n : Nat) : Nat :=
  max f.finest (n.log2 + 1 - f.precision)

/-- The multiple of units in the format nearest to `n / d` units, or nothing if that is too
large. -/
def round? (f : FloatFormat) (n d : Nat) : Option Nat :=
  let lost := 2 ^ f.lostBits (n / d)
  let units := divNearestEven n (d * lost) * lost
  if units < 2 ^ f.limit then some units else none

end FloatFormat

/-- A number of double precision. Those of single precision are among them. -/
inductive Binary64 where
  | nan
  | infinity (negative : Bool)
  | finite (negative : Bool) (units : Nat)
deriving DecidableEq, Inhabited

namespace Binary64

/-- The number of a format nearest to `n / d` units. -/
def ofUnits (f : FloatFormat) (negative : Bool) (n d : Nat) : Binary64 :=
  match f.round? n d with
  | some units => finite negative units
  | none => infinity negative

def toSingle : Binary64 → Binary64
  | finite negative units => ofUnits .single negative units 1
  | x => x

/-- The number of double precision nearest to an integer. -/
def ofInt (i : Int) : Binary64 :=
  ofUnits .double (i < 0) (i.natAbs * 2 ^ unitShift) 1

/-- The whole part, with the sign of the number, as an integer of 64 bits: what lies outside of
their range becomes the nearest bound, and what is no number becomes 0. -/
def toInt64 : Binary64 → Int
  | nan => 0
  | infinity true => -2 ^ 63
  | infinity false => 2 ^ 63 - 1
  | finite true units => max (-(units / 2 ^ unitShift : Nat)) (-2 ^ 63)
  | finite false units => min (units / 2 ^ unitShift : Nat) (2 ^ 63 - 1)

def isWhole : Binary64 → Bool
  | finite _ units => units % 2 ^ unitShift = 0
  | _ => false

/-- Equality of values: the two zeros are equal, and what is no number equals nothing. -/
def equals : Binary64 → Binary64 → Bool
  | infinity s, infinity t => s = t
  | finite s m, finite t n => m = n && (s = t || m = 0)
  | _, _ => false

/-- The 64 bits of the interchange format: sign, biased exponent and significand. -/
def bits : Binary64 → Nat
  | nan => 0x7ff8000000000000
  | infinity negative => negative.toNat * 2 ^ 63 + 0x7ff0000000000000
  | finite negative units =>
    let shift := units.log2 - 52
    negative.toNat * 2 ^ 63 + shift * 2 ^ 52 + units / 2 ^ shift

end Binary64

end TypedLiterals
