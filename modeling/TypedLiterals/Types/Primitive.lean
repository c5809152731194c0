import TypedLiterals.Number.Binary

/-!
The value types of the language: truth values, signed and unsigned integers of four widths with
their exact ranges, and floating-point numbers of two formats.
-/

namespace TypedLiterals

inductive IntWidth where
  | w8 | w16 | w32 | w64
deriving DecidableEq, Inhabited

namespace IntWidth

def bits : IntWidth → Nat
  | w8 => 8
  | w16 => 16
  | w32 => 32
  | w64 => 64

end IntWidth

inductive FloatWidth where
  | single | double
deriving DecidableEq, Inhabited

namespace FloatWidth

def bits : FloatWidth → Nat
  | single => 32
  | double => 64

def format : FloatWidth → FloatFormat
  | single => .single
  | double => .double

end FloatWidth

inductive PrimType where
  | bool
  | signed (width : IntWidth)
  | unsigned (width : IntWidth)
  | float (width : FloatWidth)
deriving DecidableEq, Inhabited

namespace PrimType

def all : List PrimType := [
  bool,
  signed .w8, signed .w16, signed .w32, signed .w64,
  unsigned .w8, unsigned .w16, unsigned .w32, unsigned .w64,
  float .single, float .double]

def name : PrimType → String
  | bool => "bool"
  | signed .w8 => "int8"
  | signed .w16 => "int16"
  | signed .w32 => "int32"
  | signed .w64 => "int64"
  | unsigned .w8 => "uint8"
  | unsigned .w16 => "uint16"
  | unsigned .w32 => "uint32"
  | unsigned .w64 => "uint64"
  | float .single => "float32"
  | float .double => "float64"

/-- The type of a long or a short name. -/
def ofName? : String → Option PrimType
  | "bool" => some bool
  | "int8" | "i8" => some (signed .w8)
  | "int16" | "i16" => some (signed .w16)
  | "int32" | "i32" | "int" => some (signed .w32)
  | "int64" | "i64" => some (signed .w64)
  | "uint8" | "u8" => some (unsigned .w8)
  | "uint16" | "u16" => some (unsigned .w16)
  | "uint32" | "u32" | "uint" => some (unsigned .w32)
  | "uint64" | "u64" => some (unsigned .w64)
  | "float32" | "f32" | "float" => some (float .single)
  | "float64" | "f64" | "double" => some (float .double)
  | _ => none

/-- The width in bits. Truth values have none. -/
def bits? : PrimType → Option Nat
  | bool => none
  | signed w | unsigned w => some w.bits
  | float w => some w.bits

def isInteger : PrimType → Bool
  | signed _ | unsigned _ => true
  | _ => false

def isUnsigned : PrimType → Bool
  | unsigned _ => true
  | _ => false

def isFloat : PrimType → Bool
  | float _ => true
  | _ => false

def isSigned : PrimType → Bool
  | signed _ | float _ => true
  | _ => false

/-- Whether every value of the first type is a value of the second. An integer type lies in a
floating-point type if its width is at most the precision. -/
def fitsInto : PrimType → PrimType → Bool
  | bool, bool => true
  | float v, float w => v.bits ≤ w.bits
  | signed v, float w | unsigned v, float w => v.bits ≤ w.format.precision
  | signed v, signed w | unsigned v, unsigned w => v.bits ≤ w.bits
  | unsigned v, signed w => v.bits < w.bits
  | _, _ => false

end PrimType

structure IntRange where
  least : Int
  greatest : Int
deriving DecidableEq

namespace IntRange

def contains (r : IntRange) (i : Int) : Bool :=
  r.least ≤ i && i ≤ r.greatest

theorem contains_iff {r : IntRange} {i : Int} :
    r.contains i = true ↔ r.least ≤ i ∧ i ≤ r.greatest := by
  simp [contains]

theorem contains_of_le {r s : IntRange} {i : Int} (hleast : s.least ≤ r.least)
    (hgreatest : r.greatest ≤ s.greatest) (h : r.contains i = true) : s.contains i = true := by
  rw [contains_iff] at h ⊢
  omega

/-- The integers that `bits` bits write in two's complement. -/
def signed (bits : Nat) : IntRange :=
  ⟨-2 ^ (bits - 1), 2 ^ (bits - 1) - 1⟩

/-- The natural numbers that `bits` bits write. -/
def unsigned (bits : Nat) : IntRange :=
  ⟨0, 2 ^ bits - 1⟩

end IntRange

namespace PrimType

def range? : PrimType → Option IntRange
  | signed w => some (.signed w.bits)
  | unsigned w => some (.unsigned w.bits)
  | _ => none

end PrimType

end TypedLiterals
