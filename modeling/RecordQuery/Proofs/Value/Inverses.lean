import RecordQuery.Proofs.Value.Division

/-!
# Operations that undo each other

A difference is a missing summand, and a factor of a product is its quotient by the other factor,
without a remainder (`isDivision_zero_iff`). The one dividend whose quotient overflows is no product
by that divisor, since the other factor would lie just outside the type
(`not_quotientOverflows_of_mul`). Hence what one operation gives another takes back, without a
failure (`operations_undo`).
-/

namespace RecordQuery.Integer

open Arithmetic (add sub mul div rem)

variable {t : IntType} {a b c : Integer t}

def zero (t : IntType) : Integer t := ⟨0, t.holds_zero⟩

@[simp] theorem toInt_zero (t : IntType) : (zero t).toInt = 0 := rfl

/-! ## Sums and differences -/

theorem add_swap (a b : Integer t) : add a b = add b a := by
  show fit .add (a.toInt + b.toInt) = fit .add (b.toInt + a.toInt)
  rw [Int.add_comm]

theorem sub_eq_ok_iff : sub a b = .ok c ↔ a.toInt - b.toInt = c.toInt := fit_eq_ok_iff

theorem sub_eq_ok_iff_add_eq_ok : sub a b = .ok c ↔ add c b = .ok a := by
  rw [sub_eq_ok_iff, add_eq_ok_iff]
  omega

theorem add_zero_eq_ok_iff : add a (zero t) = .ok b ↔ a = b := by
  rw [add_eq_ok_iff, toInt_zero, Int.add_zero, toInt_inj]

/-! ## Products and quotients -/

theorem mul_swap (a b : Integer t) : mul a b = mul b a := by
  show fit .mul (a.toInt * b.toInt) = fit .mul (b.toInt * a.toInt)
  rw [Int.mul_comm]

/-- A division leaves nothing exactly if its dividend is the product of quotient and divisor. -/
theorem isDivision_zero_iff (hb : b.toInt ≠ 0) :
    IsDivision c b a (zero t) ↔ mul a b = .ok c := by
  constructor
  · rintro ⟨⟨m, hm, hsum⟩, -, -⟩
    rw [add_zero_eq_ok_iff] at hsum
    rw [hm, hsum]
  · intro h
    refine ⟨⟨c, h, add_zero_eq_ok_iff.2 rfl⟩, ?_, .inl (toInt_zero t)⟩
    rw [toInt_zero, Int.natAbs_zero]
    exact Int.natAbs_pos.2 hb

/-- By `-1` the least member is the product of an integer that is one too great for the type. -/
theorem not_quotientOverflows_of_mul (h : mul a b = .ok c) :
    ¬ t.QuotientOverflows c.toInt b.toInt := by
  rintro ⟨hsigned, hleast, hb⟩
  rw [mul_eq_ok_iff, hb, hleast, IntType.least_of_signed hsigned] at h
  have hgreatest := a.holds.2
  omega

/-- **Operations undo each other.** Sums and products do not depend on the order of their operands,
and their overflows do not either. A difference is what added to the subtrahend gives the minuend.
By a divisor that is not zero a member is a product exactly if the division gives back the other
factor and leaves nothing, and neither factor of a product is one by which its quotient
overflows. -/
theorem operations_undo (a b c : Integer t) :
    add a b = add b a ∧ mul a b = mul b a ∧
    (sub a b = .ok c ↔ add c b = .ok a) ∧
    (b.toInt ≠ 0 → (mul a b = .ok c ↔ div c b = .ok a ∧ rem c b = .ok (zero t))) ∧
    (mul a b = .ok c →
      ¬ t.QuotientOverflows c.toInt b.toInt ∧ ¬ t.QuotientOverflows c.toInt a.toInt) := by
  refine ⟨add_swap a b, mul_swap a b, sub_eq_ok_iff_add_eq_ok, fun hb => ?_,
    fun h => ⟨?_, ?_⟩⟩
  · rw [← isDivision_zero_iff hb]
    exact ⟨ok_of_isDivision, fun h => isDivision_of_ok h.1 h.2⟩
  · exact not_quotientOverflows_of_mul h
  · rw [mul_swap] at h
    exact not_quotientOverflows_of_mul h

/-- The least member as a product and as a factor; by `-1` it is no product. -/
theorem operations_undo_least :
    let least : Integer .int8 := ⟨-128, by decide⟩
    let half : Integer .int8 := ⟨64, by decide⟩
    let minusTwo : Integer .int8 := ⟨-2, by decide⟩
    let minusOne : Integer .int8 := ⟨-1, by decide⟩
    minusTwo.toInt ≠ 0 ∧ mul half minusTwo = .ok least ∧
      (div least minusTwo = .ok half ∧ rem least minusTwo = .ok (zero .int8)) ∧
      IntType.int8.QuotientOverflows least.toInt minusOne.toInt ∧
      (∀ a, mul a minusOne ≠ .ok least) ∧ (∀ b, mul minusOne b ≠ .ok least) := by
  intro least half minusTwo minusOne
  have hproduct : mul half minusTwo = .ok least := rfl
  have hoverflows : IntType.int8.QuotientOverflows least.toInt minusOne.toInt := by decide
  refine ⟨by decide, hproduct,
    ((operations_undo half minusTwo least).2.2.2.1 (by decide)).1 hproduct, hoverflows,
    fun a h => ?_, fun b h => ?_⟩
  · exact ((operations_undo a minusOne least).2.2.2.2 h).1 hoverflows
  · exact ((operations_undo minusOne b least).2.2.2.2 h).2 hoverflows

end RecordQuery.Integer
