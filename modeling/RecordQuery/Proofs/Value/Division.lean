import RecordQuery.Proofs.Value.Exactness

/-!
# Quotient and remainder together

A division has a quotient and a remainder for the same operands, or it is refused for the same
reason (`div_rem_cases`). The two restore the dividend by a product and a sum that stay in the type,
since the product lies between zero and the dividend, as the remainder does. No other members of the
type restore it with a remainder that is as small and has the sign of the dividend
(`div_rem_together`).
-/

namespace RecordQuery

/-! ## Exact integers -/

theorem side_of_sign {a r : ℤ} (h : r = 0 ∨ r.sign = a.sign) :
    (0 ≤ a → 0 ≤ r) ∧ (a ≤ 0 → r ≤ 0) := by
  rcases h with rfl | h
  · simp
  · have hnonneg : 0 ≤ r.sign ↔ 0 ≤ a.sign := by rw [h]
    have hnonpos : r.sign ≤ 0 ↔ a.sign ≤ 0 := by rw [h]
    rw [Int.sign_nonneg_iff, Int.sign_nonneg_iff] at hnonneg
    rw [Int.sign_nonpos_iff, Int.sign_nonpos_iff] at hnonpos
    exact ⟨hnonneg.2, hnonpos.2⟩

theorem natAbs_tmod_lt (a : ℤ) {b : ℤ} (hb : b ≠ 0) : (a.tmod b).natAbs < b.natAbs := by
  rw [Int.natAbs_tmod]
  exact Nat.mod_lt _ (Int.natAbs_pos.2 hb)

/-- Only the quotient cut toward zero leaves a remainder smaller than the divisor and with the sign
of the dividend. -/
theorem eq_tdiv_and_eq_tmod {a b q r : ℤ} (h : q * b + r = a) (hsmall : r.natAbs < b.natAbs)
    (hsign : r = 0 ∨ r.sign = a.sign) : q = a.tdiv b ∧ r = a.tmod b := by
  have hb : b ≠ 0 := by
    rintro rfl
    simp at hsmall
  have htmod : a.tdiv b * b + a.tmod b = a := Int.tdiv_mul_add_tmod a b
  have hsmall' : (a.tmod b).natAbs < b.natAbs := natAbs_tmod_lt a hb
  have hside := side_of_sign hsign
  have hside' := side_of_sign (tmod_eq_remainder a b ▸ sign_remainder a b)
  -- both remainders are on one side of zero, so they differ by less than the divisor
  have hclose : (r - a.tmod b).natAbs < b.natAbs := by
    rcases le_total 0 a with ha | ha
    · have hr := hside.1 ha
      have hr' := hside'.1 ha
      omega
    · have hr := hside.2 ha
      have hr' := hside'.2 ha
      omega
  have hdvd : b ∣ r - a.tmod b := by
    refine ⟨a.tdiv b - q, ?_⟩
    rw [mul_sub, mul_comm b, mul_comm b]
    omega
  have hr : r = a.tmod b := by
    have hzero := Int.eq_zero_of_dvd_of_natAbs_lt_natAbs hdvd hclose
    omega
  refine ⟨mul_right_cancel₀ hb ?_, hr⟩
  omega

namespace Integer

open Arithmetic (add mul div rem)

variable {t : IntType} {a b c q r : Integer t}

/-! ## When the operations succeed -/

theorem add_eq_ok_iff : add a b = .ok c ↔ a.toInt + b.toInt = c.toInt := fit_eq_ok_iff

theorem mul_eq_ok_iff : mul a b = .ok c ↔ a.toInt * b.toInt = c.toInt := fit_eq_ok_iff

theorem div_eq_ok_iff : div a b = .ok q ↔ b.toInt ≠ 0 ∧ a.toInt.tdiv b.toInt = q.toInt := by
  by_cases hb : b.toInt = 0
  · simp [div_of_eq_zero a hb, hb]
  · rw [div_of_ne_zero a hb, fit_eq_ok_iff, and_iff_right hb]

theorem rem_eq_ok_iff : rem a b = .ok r ↔
    b.toInt ≠ 0 ∧ t.Holds (a.toInt.tdiv b.toInt) ∧ a.toInt.tmod b.toInt = r.toInt := by
  by_cases hb : b.toInt = 0
  · simp [rem_of_eq_zero a hb, hb]
  · by_cases hfits : t.Holds (a.toInt.tdiv b.toInt)
    · rw [rem_of_ne_zero a hb, if_pos hfits, fit_eq_ok_iff, and_iff_right hb, and_iff_right hfits]
    · rw [rem_of_ne_zero a hb, if_neg hfits]
      simp [hfits]

theorem div_rem_cases (a b : Integer t) :
    (∃ q r, div a b = .ok q ∧ rem a b = .ok r) ∨
      (div a b = .error (.divisionByZero "div") ∧ rem a b = .error (.divisionByZero "rem")) ∨
      (div a b = .error (.overflow "div") ∧ rem a b = .error (.overflow "rem")) := by
  have hdiv := exactOrRefused_div a b
  have hrem := exactOrRefused_rem a b
  by_cases hb : b.toInt = 0
  · exact .inr (.inl ⟨div_of_eq_zero a hb, rem_of_eq_zero a hb⟩)
  · by_cases ho : t.QuotientOverflows a.toInt b.toInt
    · exact .inr
        (.inr ⟨(hdiv.error _).2 (.inr ⟨ho, rfl⟩), (hrem.error _).2 (.inr ⟨ho, rfl⟩)⟩)
    · obtain ⟨q, hq, -⟩ := hdiv.ok.2 ⟨hb, ho⟩
      obtain ⟨r, hr, -⟩ := hrem.ok.2 ⟨hb, ho⟩
      exact .inl ⟨q, r, hq, hr⟩

/-! ## Restoring the dividend -/

/-- The members `q` and `r` restore the dividend `a` without an overflow, and `r` is a remainder:
smaller than the divisor `b`, and zero or of the sign of the dividend. -/
structure IsDivision (a b q r : Integer t) : Prop where
  restores : ∃ m, mul q b = .ok m ∧ add m r = .ok a
  small : r.toInt.natAbs < b.toInt.natAbs
  sign : r.toInt = 0 ∨ r.toInt.sign = a.toInt.sign

/-- The product of quotient and divisor lies between zero and the dividend. -/
theorem isDivision_of_ok (hq : div a b = .ok q) (hr : rem a b = .ok r) : IsDivision a b q r := by
  obtain ⟨hb, hq⟩ := div_eq_ok_iff.1 hq
  obtain ⟨-, -, hr⟩ := rem_eq_ok_iff.1 hr
  have hrestored : q.toInt * b.toInt + r.toInt = a.toInt := by
    rw [← hq, ← hr]
    exact Int.tdiv_mul_add_tmod a.toInt b.toInt
  have hproduct : t.Holds (q.toInt * b.toInt) := by
    have hbetween := tmod_between a.toInt b.toInt
    apply a.holds.toward_zero
    omega
  refine ⟨⟨⟨_, hproduct⟩, mul_eq_ok_iff.2 rfl, add_eq_ok_iff.2 hrestored⟩, ?_, ?_⟩
  · rw [← hr]
    exact natAbs_tmod_lt a.toInt hb
  · rw [← hr, tmod_eq_remainder]
    exact sign_remainder a.toInt b.toInt

theorem ok_of_isDivision (h : IsDivision a b q r) : div a b = .ok q ∧ rem a b = .ok r := by
  obtain ⟨⟨m, hm, hsum⟩, hsmall, hsign⟩ := h
  rw [mul_eq_ok_iff] at hm
  rw [add_eq_ok_iff, ← hm] at hsum
  obtain ⟨hq, hr⟩ := eq_tdiv_and_eq_tmod hsum hsmall hsign
  have hb : b.toInt ≠ 0 := fun hb => by simp [hb] at hsmall
  exact ⟨div_eq_ok_iff.2 ⟨hb, hq.symm⟩, rem_eq_ok_iff.2 ⟨hb, hq ▸ q.holds, hr.symm⟩⟩

/-- **Quotient and remainder fit together.** They are given for the same operands, and otherwise
both are refused for the same reason, each in its own name. Those that are given restore the
dividend by a product and a sum without an overflow, with a remainder smaller than the divisor that
is zero or has the sign of the dividend; there are no other members of the type that do so, and none
where they are refused. -/
theorem div_rem_together (a b : Integer t) :
    ((∃ q r, div a b = .ok q ∧ rem a b = .ok r) ∨
      (div a b = .error (.divisionByZero "div") ∧ rem a b = .error (.divisionByZero "rem")) ∨
      (div a b = .error (.overflow "div") ∧ rem a b = .error (.overflow "rem"))) ∧
    (∀ q r, div a b = .ok q ∧ rem a b = .ok r ↔ IsDivision a b q r) ∧
    (∀ q r q' r', IsDivision a b q r → IsDivision a b q' r' → q' = q ∧ r' = r) := by
  refine ⟨div_rem_cases a b, fun q r => ⟨fun h => isDivision_of_ok h.1 h.2, ok_of_isDivision⟩,
    fun q r q' r' h h' => ?_⟩
  obtain ⟨hq, hr⟩ := ok_of_isDivision h
  obtain ⟨hq', hr'⟩ := ok_of_isDivision h'
  exact ⟨Except.ok.inj (hq'.symm.trans hq), Except.ok.inj (hr'.symm.trans hr)⟩

/-- The least member by a divisor that does not divide it, and by the one that is refused. -/
theorem div_rem_together_least :
    let least : Integer .int8 := ⟨-128, by decide⟩
    let seven : Integer .int8 := ⟨7, by decide⟩
    let quotient : Integer .int8 := ⟨-18, by decide⟩
    let left : Integer .int8 := ⟨-2, by decide⟩
    let minusOne : Integer .int8 := ⟨-1, by decide⟩
    (div least seven = .ok quotient ∧ rem least seven = .ok left) ∧
      IsDivision least seven quotient left ∧
      (∀ q r, IsDivision least seven q r → q = quotient ∧ r = left) ∧
      div least minusOne = .error (.overflow "div") ∧
      ∀ q r, ¬ IsDivision least minusOne q r := by
  intro least seven quotient left minusOne
  have hgiven : div least seven = .ok quotient ∧ rem least seven = .ok left := ⟨rfl, rfl⟩
  have hrefused : div least minusOne = .error (.overflow "div") := rfl
  have hdivision := ((div_rem_together least seven).2.1 quotient left).1 hgiven
  refine ⟨hgiven, hdivision,
    fun q r => (div_rem_together least seven).2.2 _ _ q r hdivision, hrefused,
    fun q r h => ?_⟩
  cases hrefused.symm.trans (((div_rem_together least minusOne).2.1 q r).2 h).1

end Integer

end RecordQuery
