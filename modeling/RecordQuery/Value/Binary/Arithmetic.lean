import RecordQuery.Arithmetic
import RecordQuery.Value.Binary.Rounding

/-!
# Floating-point arithmetic

The four operations round the exact result once, to the nearest number and a tie to the even one;
the remainder is exact and has the sign of the dividend. Nothing here fails: what has no value,
such as `0 / 0`, is not a number, and what is too great is infinite.
-/

namespace RecordQuery.Binary

variable {f : FloatFormat}

def infinity (isNegative : Bool) : Binary f := ofMagnitude isNegative f.infinite

def zero (isNegative : Bool) : Binary f := ofMagnitude isNegative 0

/-- The integer `± n`. -/
def signed (isNegative : Bool) (n : Nat) : Int := if isNegative then -n else n

/-- A sum of two finite numbers, taken at the finer of their scales. A sum of zero is negative only
if both summands are. -/
def addFinite (s₁ : Bool) (m₁ : Nat) (e₁ : Int) (s₂ : Bool) (m₂ : Nat) (e₂ : Int) :
    Binary f :=
  let e := min e₁ e₂
  let sum := signed s₁ (m₁ <<< (e₁ - e).toNat) + signed s₂ (m₂ <<< (e₂ - e).toNat)
  if sum = 0 then zero (s₁ && s₂) else ofScaled (decide (sum < 0)) sum.natAbs e

def addReading : Reading → Reading → Binary f
  | .nan, _ => nan
  | _, .nan => nan
  | .infinite s₁, .infinite s₂ => if s₁ = s₂ then infinity s₁ else nan
  | .infinite s, .finite .. => infinity s
  | .finite .., .infinite s => infinity s
  | .finite s₁ m₁ e₁, .finite s₂ m₂ e₂ => addFinite s₁ m₁ e₁ s₂ m₂ e₂

/-- The reading of the number of the opposite sign. -/
def Reading.negate : Reading → Reading
  | .nan => .nan
  | .infinite s => .infinite !s
  | .finite s m e => .finite (!s) m e

def mulReading : Reading → Reading → Binary f
  | .nan, _ => nan
  | _, .nan => nan
  | .infinite s₁, .infinite s₂ => infinity (s₁ ^^ s₂)
  | .infinite s₁, .finite s₂ m _ => if m = 0 then nan else infinity (s₁ ^^ s₂)
  | .finite s₁ m _, .infinite s₂ => if m = 0 then nan else infinity (s₁ ^^ s₂)
  | .finite s₁ m₁ e₁, .finite s₂ m₂ e₂ =>
    ofScaled (s₁ ^^ s₂) (m₁ * m₂) (e₁ + e₂)

def divReading : Reading → Reading → Binary f
  | .nan, _ => nan
  | _, .nan => nan
  | .infinite _, .infinite _ => nan
  | .infinite s₁, .finite s₂ _ _ => infinity (s₁ ^^ s₂)
  | .finite s₁ _ _, .infinite s₂ => zero (s₁ ^^ s₂)
  | .finite s₁ m₁ e₁, .finite s₂ m₂ e₂ =>
    if m₂ = 0 then if m₁ = 0 then nan else infinity (s₁ ^^ s₂)
    else
      ofRatio (s₁ ^^ s₂) (m₁ <<< (e₁ - e₂).toNat) (m₂ <<< (e₂ - e₁).toNat)

/-- The remainder of the division that is cut toward zero. -/
def remReading : Reading → Reading → Binary f
  | .nan, _ => nan
  | _, .nan => nan
  | .infinite _, _ => nan
  | .finite s m e, .infinite _ => ofScaled s m e
  | .finite s₁ m₁ e₁, .finite _ m₂ e₂ =>
    if m₂ = 0 then nan
    else
      let e := min e₁ e₂
      ofScaled s₁ (m₁ <<< (e₁ - e).toNat % m₂ <<< (e₂ - e).toNat) e

/-- One operation on two numbers. -/
def calculate (op : ArithOp) (x y : Binary f) : Binary f :=
  match op with
  | .add => addReading x.reading y.reading
  | .sub => addReading x.reading y.reading.negate
  | .mul => mulReading x.reading y.reading
  | .div => divReading x.reading y.reading
  | .rem => remReading x.reading y.reading

instance : Arithmetic (Binary f) := ⟨fun op x y => .ok (calculate op x y)⟩

end RecordQuery.Binary
