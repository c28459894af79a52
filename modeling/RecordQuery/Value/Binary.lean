import RecordQuery.Comparable

/-!
# Binary floating-point numbers

A number of a binary interchange format, held as its bits: a sign, a biased exponent and a
fraction. Read as a natural number, the bits below the sign (`magnitude`) grow with the absolute
value, the infinity is the greatest magnitude of a number, and all greater ones are not numbers.
Hence equality and order need the magnitudes and signs only: `key` is one integer per number,
the same for both zeros, and a value that is not a number is comparable to nothing, itself
included.
-/

namespace RecordQuery

/-! ## Formats -/

/-- The widths of the exponent and the fraction of a binary format. -/
structure FloatFormat where
  exponentBits : Nat
  fractionBits : Nat
  deriving DecidableEq, Repr

namespace FloatFormat

/-- The format of 32 bits. -/
def single : FloatFormat := ⟨8, 23⟩

/-- The format of 64 bits. -/
def double : FloatFormat := ⟨11, 52⟩

def magnitudeBits (f : FloatFormat) : Nat := f.exponentBits + f.fractionBits

def width (f : FloatFormat) : Nat := f.magnitudeBits + 1

/-- The magnitude of an infinity: all bits of the exponent set, none of the fraction. -/
def infinite (f : FloatFormat) : Nat := ((1 <<< f.exponentBits) - 1) <<< f.fractionBits

/-- The exponent of the least positive number, which is a power of two. -/
def leastExponent (f : FloatFormat) : Int :=
  2 - (1 <<< (f.exponentBits - 1) : Nat) - f.fractionBits

end FloatFormat

/-! ## Numbers -/

/-- A number of the format, by its bits. -/
structure Binary (f : FloatFormat) where
  bits : BitVec f.width
  deriving DecidableEq

namespace Binary

variable {f : FloatFormat}

def isNegative (x : Binary f) : Bool := x.bits.msb

/-- The bits below the sign. -/
def magnitude (x : Binary f) : Nat := x.bits.toNat % (1 <<< f.magnitudeBits)

def isNaN (x : Binary f) : Bool := f.infinite < x.magnitude

/-- The number with the given sign and magnitude. -/
def ofMagnitude (isNegative : Bool) (magnitude : Nat) : Binary f :=
  ⟨.ofNat _ (if isNegative then (1 <<< f.magnitudeBits) + magnitude else magnitude)⟩

/-- One of the values that are not numbers, the one every operation answers with. -/
def nan : Binary f := ofMagnitude false (f.infinite + 1 <<< (f.fractionBits - 1))

/-! ## Order -/

/-- An integer that stands where the number stands. -/
def key (x : Binary f) : Int :=
  if x.isNegative then -x.magnitude else x.magnitude

/-- Both are numbers and stand at the same place. -/
instance : BEq (Binary f) := ⟨fun x y => !x.isNaN && !y.isNaN && x.key == y.key⟩

instance : Comparable (Binary f) :=
  ⟨fun x y => if x.isNaN || y.isNaN then none else some (compare x.key y.key)⟩

theorem compare?_of_isNaN {x y : Binary f} (h : x.isNaN ∨ y.isNaN) : compare? x y = none := by
  simp [compare?, h]

theorem compare?_of_not_isNaN {x y : Binary f} (hx : x.isNaN = false) (hy : y.isNaN = false) :
    compare? x y = some (compare x.key y.key) := by
  simp [compare?, hx, hy]

/-- A value that is not a number does not equal itself. -/
theorem beq_self_of_isNaN {x : Binary f} (h : x.isNaN = true) : (x == x) = false := by
  simp [BEq.beq, h]

end Binary

end RecordQuery
