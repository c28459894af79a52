import RecordQuery.Value.Binary

/-!
# Rounding to a binary format

Every finite number is `± significand · 2 ^ scale`. In the other direction `ofRatio` takes any
positive ratio of naturals to the nearest number of the format, a tie to the even one: the unit in
the last place is fixed by the binary logarithm of the ratio, the ratio is rounded to a multiple of
it, and that multiple and the unit add up to the magnitude, with no case for subnormal numbers or
for a carry into the next exponent.
-/

namespace RecordQuery

/-- The natural number nearest to `num / den`; of two as near, the even one. -/
def roundQuotient (num den : Nat) : Nat :=
  let low := num / den
  let rest := num % den
  if 2 * rest < den then low
  else if den < 2 * rest then low + 1
  else low + low % 2

/-- An exact quotient is not moved. -/
theorem roundQuotient_mul {n den : Nat} (h : 0 < den) : roundQuotient (n * den) den = n := by
  simp [roundQuotient, Nat.mul_div_cancel _ h, h]

/-- The result is within half a unit of the quotient. -/
theorem roundQuotient_near {num den : Nat} (h : 0 < den) :
    2 * num ≤ (2 * roundQuotient num den + 1) * den ∧
      2 * roundQuotient num den * den ≤ 2 * num + den := by
  have hq := Nat.div_add_mod num den
  have hr := Nat.mod_lt num h
  generalize hq' : num / den = q at hq
  generalize hr' : num % den = r at hq hr
  have hm : (2 * q + 1) * den = 2 * (den * q) + den := by
    rw [Nat.add_mul, Nat.one_mul, Nat.mul_assoc, Nat.mul_comm q den]
  have hm' : 2 * q * den = 2 * (den * q) := by rw [Nat.mul_assoc, Nat.mul_comm q den]
  have hs : (2 * (q + 1) + 1) * den = 2 * (den * q) + den + 2 * den := by
    rw [Nat.mul_add, Nat.add_right_comm, Nat.add_mul, hm, Nat.mul_one]
  have hs' : 2 * (q + 1) * den = 2 * (den * q) + 2 * den := by
    rw [Nat.mul_add, Nat.add_mul, hm', Nat.mul_one]
  simp only [roundQuotient, hq', hr']
  split
  · omega
  · split
    · omega
    · rcases Nat.mod_two_eq_zero_or_one q with h2 | h2
      · simp only [h2, Nat.add_zero]
        omega
      · rw [h2]
        omega

/-- The greatest exponent `e` with `2 ^ e ≤ num / den`, for positive `num` and `den`. -/
def floorLog2Ratio (num den : Nat) : Int :=
  let e : Int := (num.log2 : Int) - den.log2
  if num <<< (-e).toNat < den <<< e.toNat then e - 1 else e

namespace Binary

variable {f : FloatFormat}

/-- The number of the format nearest to `± num / den`, for positive `den`; a magnitude that the
format cannot hold becomes infinite. -/
def ofRatio (isNegative : Bool) (num den : Nat) : Binary f :=
  if num = 0 then ofMagnitude isNegative 0
  else
    let unit := max (floorLog2Ratio num den - f.fractionBits) f.leastExponent
    let multiple := roundQuotient (num <<< (-unit).toNat) (den <<< unit.toNat)
    let magnitude := (unit - f.leastExponent).toNat <<< f.fractionBits + multiple
    ofMagnitude isNegative (min magnitude f.infinite)

/-- The number of the format nearest to `± significand · 2 ^ scale`. -/
def ofScaled (isNegative : Bool) (significand : Nat) (scale : Int) : Binary f :=
  ofRatio isNegative (significand <<< scale.toNat) (1 <<< (-scale).toNat)

/-! ## Reading a number -/

/-- What the bits of a number stand for. -/
inductive Reading
  | nan
  | infinite (isNegative : Bool)
  /-- The number `± significand · 2 ^ scale`; a zero has a sign as well. -/
  | finite (isNegative : Bool) (significand : Nat) (scale : Int)

/-- The least exponent field stands for the same scale as the next one, but without the leading
bit of the significand. -/
def reading (x : Binary f) : Reading :=
  if x.isNaN then .nan
  else if x.magnitude = f.infinite then .infinite x.isNegative
  else
    let field := x.magnitude >>> f.fractionBits
    let fraction := x.magnitude % (1 <<< f.fractionBits)
    if field = 0 then .finite x.isNegative fraction f.leastExponent
    else
      .finite x.isNegative ((1 <<< f.fractionBits) + fraction) (f.leastExponent + (field - 1 : Nat))

end Binary

end RecordQuery
