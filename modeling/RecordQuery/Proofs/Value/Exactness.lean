import Mathlib.Data.Rat.Floor
import RecordQuery.Value.Integer

/-!
# Exact results

What the integer operations are held against are the operations of the exact integers and rationals:
a quotient is the rational one cut toward zero (`tdiv_eq_cut`), and its remainder is what is left.
The quotient of two members of a type is a member again, with the one exception of the least member
of a signed type by `-1` (`holds_tdiv_iff`). `exact_or_refused` says of each operation when it has a
result, which, and what it answers otherwise.
-/

namespace RecordQuery

/-! ## Quotients cut toward zero -/

/-- The rational number `x` cut toward zero. -/
def cut (x : ℚ) : ℤ := if 0 ≤ x then ⌊x⌋ else ⌈x⌉

/-- What the quotient of `a` by `b` leaves of `a`. -/
def remainder (a b : ℤ) : ℤ := a - b * cut (a / b : ℚ)

theorem cut_neg (x : ℚ) : cut (-x) = -cut x := by
  rcases lt_trichotomy x 0 with h | rfl | h
  · rw [cut, cut, if_pos (by linarith), if_neg (by linarith), Int.floor_neg]
  · simp [cut]
  · rw [cut, cut, if_neg (by linarith), if_pos (by linarith), Int.ceil_neg]

theorem tdiv_eq_cut (a b : ℤ) : a.tdiv b = cut (a / b : ℚ) := by
  have hnat (m n : ℕ) : (m : ℤ).tdiv n = cut (((m : ℤ) : ℚ) / ((n : ℤ) : ℚ)) := by
    rw [cut, if_pos (by positivity), ← Int.ofNat_tdiv]
    exact (Rat.floor_natCast_div_natCast m n).symm
  -- a sign of either number comes out in front of both sides
  obtain ⟨m, rfl | rfl⟩ := a.eq_nat_or_neg <;> obtain ⟨n, rfl | rfl⟩ := b.eq_nat_or_neg
  · exact hnat m n
  · rw [Int.tdiv_neg, Int.cast_neg, div_neg, cut_neg, hnat]
  · rw [Int.neg_tdiv, Int.cast_neg, neg_div, cut_neg, hnat]
  · rw [Int.neg_tdiv, Int.tdiv_neg, neg_neg, Int.cast_neg, Int.cast_neg, neg_div_neg_eq, hnat]

theorem tmod_eq_remainder (a b : ℤ) : a.tmod b = remainder a b := by
  rw [Int.tmod_def, tdiv_eq_cut, remainder]

theorem sign_remainder (a b : ℤ) : remainder a b = 0 ∨ (remainder a b).sign = a.sign := by
  rw [← tmod_eq_remainder]
  by_cases h : b ∣ a
  · exact .inl (Int.tmod_eq_zero_of_dvd h)
  · exact .inr (by rw [Int.sign_tmod, if_neg h])

theorem tmod_between (a b : ℤ) :
    0 ≤ a.tmod b ∧ a.tmod b ≤ a ∨ a ≤ a.tmod b ∧ a.tmod b ≤ 0 := by
  have habs : (a.tmod b).natAbs ≤ a.natAbs := by
    rw [Int.natAbs_tmod]
    exact Nat.mod_le _ _
  rcases le_total 0 a with h | h
  · have hsign := Int.tmod_nonneg b h
    omega
  · have hsign := Int.tmod_nonneg b (neg_nonneg.2 h)
    rw [Int.neg_tmod] at hsign
    omega

/-! ## Quotients in a type -/

namespace IntType

variable {t : IntType} {a b : ℤ}

/-- The one quotient of members that is none: the least member of a signed type by `-1`. -/
def QuotientOverflows (t : IntType) (a b : ℤ) : Prop :=
  t.isSigned = true ∧ a = t.least ∧ b = -1

instance (t : IntType) (a b : ℤ) : Decidable (t.QuotientOverflows a b) :=
  inferInstanceAs (Decidable (_ ∧ _ ∧ _))

theorem QuotientOverflows.ne_zero (h : t.QuotientOverflows a b) : b ≠ 0 := by
  rw [h.2.2]
  decide

theorem holds_tdiv_of_unsigned (ht : t.isSigned = false) (ha : t.Holds a) (hb : t.Holds b) :
    t.Holds (a.tdiv b) := by
  unfold Holds at *
  rw [least_of_unsigned ht] at *
  have hnonneg := Int.tdiv_nonneg ha.1 hb.1
  have hle := Int.tdiv_le_self b ha.1
  omega

theorem holds_tdiv_of_signed (ht : t.isSigned = true) (ha : t.Holds a) (hb : b ≠ 0) :
    t.Holds (a.tdiv b) ↔ ¬ (a = t.least ∧ b = -1) := by
  have hzero := t.holds_zero
  unfold Holds at *
  rw [least_of_signed ht] at *
  by_cases hone : b.natAbs = 1
  · obtain rfl | rfl : b = 1 ∨ b = -1 := by omega
    · rw [Int.tdiv_one]
      omega
    · rw [Int.tdiv_neg, Int.tdiv_one]
      omega
  · -- the quotient has at most half the absolute value
    have hhalf : (a.tdiv b).natAbs ≤ a.natAbs / 2 := by
      rw [Int.natAbs_tdiv]
      exact Nat.div_le_div_left (by omega) (by decide)
    omega

theorem holds_tdiv_iff (ha : t.Holds a) (hb : t.Holds b) (hne : b ≠ 0) :
    t.Holds (a.tdiv b) ↔ ¬ t.QuotientOverflows a b := by
  cases ht : t.isSigned with
  | false => simp [QuotientOverflows, ht, holds_tdiv_of_unsigned ht ha hb]
  | true => rw [holds_tdiv_of_signed ht ha hne, QuotientOverflows, ht, eq_self, true_and]

theorem QuotientOverflows.not_holds_tdiv (h : t.QuotientOverflows a b) (ha : t.Holds a)
    (hb : t.Holds b) : ¬ t.Holds (a.tdiv b) :=
  fun hfits => (holds_tdiv_iff ha hb h.ne_zero).1 hfits h

theorem Holds.toward_zero {n : ℤ} (ha : t.Holds a)
    (h : 0 ≤ n ∧ n ≤ a ∨ a ≤ n ∧ n ≤ 0) :
    t.Holds n := by
  have hzero := t.holds_zero
  unfold Holds at *
  omega

theorem holds_tmod (ha : t.Holds a) (b : ℤ) : t.Holds (a.tmod b) :=
  ha.toward_zero (tmod_between a b)

end IntType

/-! ## Operations on members -/

namespace Integer

open Arithmetic (add sub mul div rem)

variable {t : IntType} {a b : Integer t} {n : ℤ} {op : String} {answer : Result (Integer t)}

/-- The answer is the exact integer `n` if the type holds it, and else an overflow of `op`. -/
structure ExactOrOverflow (op : String) (n : ℤ) (answer : Result (Integer t)) : Prop where
  ok : (∃ v, answer = .ok v ∧ v.toInt = n) ↔ t.Holds n
  error : ∀ e, answer = .error e ↔ ¬ t.Holds n ∧ e = .overflow op

/-- The answer is the exact integer `n`, unless `op` refuses to divide `a` by `b`: by zero, or
because the quotient overflows. -/
structure ExactOrRefused (op : String) (a b : Integer t) (n : ℤ) (answer : Result (Integer t)) :
    Prop where
  ok : (∃ v, answer = .ok v ∧ v.toInt = n) ↔
    b.toInt ≠ 0 ∧ ¬ t.QuotientOverflows a.toInt b.toInt
  error : ∀ e, answer = .error e ↔ b.toInt = 0 ∧ e = .divisionByZero op ∨
    t.QuotientOverflows a.toInt b.toInt ∧ e = .overflow op

theorem exactOrOverflow_fit (op : ArithOp) (n : ℤ) :
    ExactOrOverflow op.name n (fit op n : Result (Integer t)) := by
  by_cases h : t.Holds n
  · rw [fit_of_holds op h]
    exact ⟨by simp [h], by simp [h]⟩
  · rw [fit_of_not_holds op h]
    exact ⟨by simp [h], by simp [h, eq_comm]⟩

theorem exactOrRefused_of_cases (hzero : b.toInt = 0 → answer = .error (.divisionByZero op))
    (hoverflows : t.QuotientOverflows a.toInt b.toInt → answer = .error (.overflow op))
    (hexact : b.toInt ≠ 0 → ¬ t.QuotientOverflows a.toInt b.toInt →
      ∃ v, answer = .ok v ∧ v.toInt = n) :
    ExactOrRefused op a b n answer := by
  by_cases hb : b.toInt = 0
  · have ho : ¬ t.QuotientOverflows a.toInt 0 := fun h => h.ne_zero rfl
    rw [hzero hb]
    exact ⟨by simp [hb], by simp [hb, ho, eq_comm]⟩
  · by_cases ho : t.QuotientOverflows a.toInt b.toInt
    · rw [hoverflows ho]
      exact ⟨by simp [ho], by simp [hb, ho, eq_comm]⟩
    · obtain ⟨v, rfl, rfl⟩ := hexact hb ho
      exact ⟨by simp [hb, ho], by simp [hb, ho]⟩

theorem div_of_eq_zero (a : Integer t) (hb : b.toInt = 0) :
    div a b = .error (.divisionByZero "div") :=
  if_pos hb

theorem rem_of_eq_zero (a : Integer t) (hb : b.toInt = 0) :
    rem a b = .error (.divisionByZero "rem") :=
  if_pos hb

theorem div_of_ne_zero (a : Integer t) (hb : b.toInt ≠ 0) :
    div a b = fit .div (a.toInt.tdiv b.toInt) :=
  if_neg hb

/-- A remainder is refused where its quotient overflows, though it would itself fit. -/
theorem rem_of_ne_zero (a : Integer t) (hb : b.toInt ≠ 0) :
    rem a b = if t.Holds (a.toInt.tdiv b.toInt) then fit .rem (a.toInt.tmod b.toInt)
      else .error (.overflow "rem") :=
  if_neg hb

theorem exactOrRefused_div (a b : Integer t) :
    ExactOrRefused "div" a b (cut (a.toInt / b.toInt : ℚ)) (div a b) := by
  rw [← tdiv_eq_cut]
  refine exactOrRefused_of_cases (div_of_eq_zero a) (fun ho => ?_) (fun hb ho => ?_)
  · rw [div_of_ne_zero a ho.ne_zero]
    exact fit_of_not_holds .div (ho.not_holds_tdiv a.holds b.holds)
  · have hfits := (IntType.holds_tdiv_iff a.holds b.holds hb).2 ho
    rw [div_of_ne_zero a hb]
    exact ⟨_, fit_of_holds .div hfits, rfl⟩

theorem exactOrRefused_rem (a b : Integer t) :
    ExactOrRefused "rem" a b (remainder a.toInt b.toInt) (rem a b) := by
  rw [← tmod_eq_remainder]
  refine exactOrRefused_of_cases (rem_of_eq_zero a) (fun ho => ?_) (fun hb ho => ?_)
  · rw [rem_of_ne_zero a ho.ne_zero, if_neg (ho.not_holds_tdiv a.holds b.holds)]
  · have hfits := (IntType.holds_tdiv_iff a.holds b.holds hb).2 ho
    rw [rem_of_ne_zero a hb, if_pos hfits]
    exact ⟨_, fit_of_holds .rem (IntType.holds_tmod a.holds b.toInt), rfl⟩

/-- **Exact or an error.** Sums, differences and products are exact or, where the type does not hold
them, an overflow. A quotient is the exact one cut toward zero, with the remainder that belongs to
it, which is zero or has the sign of the dividend; a zero divisor is refused, and the one quotient
that overflows is refused for the remainder as well. -/
theorem exact_or_refused (a b : Integer t) :
    ExactOrOverflow "add" (a.toInt + b.toInt) (add a b) ∧
    ExactOrOverflow "sub" (a.toInt - b.toInt) (sub a b) ∧
    ExactOrOverflow "mul" (a.toInt * b.toInt) (mul a b) ∧
    ExactOrRefused "div" a b (cut (a.toInt / b.toInt : ℚ)) (div a b) ∧
    ExactOrRefused "rem" a b (remainder a.toInt b.toInt) (rem a b) ∧
    (remainder a.toInt b.toInt = 0 ∨ (remainder a.toInt b.toInt).sign = a.toInt.sign) :=
  ⟨exactOrOverflow_fit .add _, exactOrOverflow_fit .sub _, exactOrOverflow_fit .mul _,
    exactOrRefused_div a b, exactOrRefused_rem a b, sign_remainder _ _⟩

/-- The remainder of the least member by `-1` would be zero. -/
example : rem (⟨-128, by decide⟩ : Integer .int8) ⟨-1, by decide⟩ =
    .error (.overflow "rem") := rfl

end Integer

end RecordQuery
