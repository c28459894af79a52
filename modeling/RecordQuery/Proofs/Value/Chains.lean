import RecordQuery.Proofs.Value.Division

/-!
# Sums and products of many operands

An operation is carried on through a list of operands up to the first that makes it overflow. Where
each step is exact or an overflow (`IsFit`), so is the chain: it is exact if every partial result is
a member of the type (`foldlM_cases`). In an unsigned type partial results that never fall are
members if the last one is. Then the chain is a single exact result that is asked to fit
(`foldlM_eq_fit`), and the order of the operands makes no difference. `chained_sums_and_products`
says this of sums, and of products without a zero.
-/

namespace RecordQuery.Integer

open Arithmetic (add mul)

variable {t : IntType} {op : ArithOp} {combine : ℤ → ℤ → ℤ} {start : Integer t}
  {operands operands' : List (Integer t)} {n : ℤ}

/-! ## Carrying an operation on -/

/-- The operation is carried out on the exact integers, by `combine`, and asked to fit. -/
def IsFit (t : IntType) (op : ArithOp) (combine : ℤ → ℤ → ℤ) : Prop :=
  ∀ a b : Integer t, Arithmetic.apply op a b = fit op (combine a.toInt b.toInt)

theorem isFit_add : IsFit t .add (· + ·) := fun _ _ => rfl

theorem isFit_mul : IsFit t .mul (· * ·) := fun _ _ => rfl

/-- The exact result for all operands, from the first to the last. -/
def carried (combine : ℤ → ℤ → ℤ) (n : ℤ) (operands : List (Integer t)) : ℤ :=
  operands.foldl (fun n b => combine n b.toInt) n

@[simp] theorem carried_nil : carried combine n ([] : List (Integer t)) = n := rfl

@[simp] theorem carried_cons (b : Integer t) :
    carried combine n (b :: operands) = carried combine (combine n b.toInt) operands := rfl

theorem carried_append (front back : List (Integer t)) :
    carried combine n (front ++ back) = carried combine (carried combine n front) back :=
  List.foldl_append

/-- Every partial result is a member of the type. -/
def StaysWithin (combine : ℤ → ℤ → ℤ) (n : ℤ) (operands : List (Integer t)) : Prop :=
  ∀ front, front <+: operands → t.Holds (carried combine n front)

theorem staysWithin_nil : StaysWithin combine n ([] : List (Integer t)) ↔ t.Holds n := by
  simp [StaysWithin]

theorem staysWithin_cons (b : Integer t) : StaysWithin combine n (b :: operands) ↔
    t.Holds n ∧ StaysWithin combine (combine n b.toInt) operands := by
  constructor
  · intro h
    refine ⟨h [] List.nil_prefix, fun front hfront => ?_⟩
    exact h (b :: front) (List.cons_prefix_cons.2 ⟨rfl, hfront⟩)
  · rintro ⟨hn, h⟩ front hfront
    rcases List.prefix_cons_iff.1 hfront with rfl | ⟨later, rfl, hlater⟩
    · exact hn
    · exact h later hlater

theorem foldlM_cases (hop : IsFit t op combine) (start : Integer t) (operands : List (Integer t)) :
    (StaysWithin combine start.toInt operands ∧
      ∃ v, operands.foldlM (Arithmetic.apply op) start = .ok v ∧
        v.toInt = carried combine start.toInt operands) ∨
    (¬ StaysWithin combine start.toInt operands ∧
      operands.foldlM (Arithmetic.apply op) start = .error (.overflow op.name)) := by
  induction operands generalizing start with
  | nil => exact .inl ⟨staysWithin_nil.2 start.holds, start, rfl, rfl⟩
  | cons b operands ih =>
    rw [List.foldlM_cons, hop, staysWithin_cons, and_iff_right start.holds, carried_cons]
    -- a first result that is a member is the start of the rest; one that is not is a partial result
    by_cases h : t.Holds (combine start.toInt b.toInt)
    · rw [fit_of_holds op h]
      exact ih ⟨_, h⟩
    · rw [fit_of_not_holds op h]
      exact .inr ⟨fun hwithin => h (hwithin [] List.nil_prefix), rfl⟩

theorem foldlM_eq_ok_iff (hop : IsFit t op combine) {v : Integer t} :
    operands.foldlM (Arithmetic.apply op) start = .ok v ↔
      StaysWithin combine start.toInt operands ∧
        v.toInt = carried combine start.toInt operands := by
  rcases foldlM_cases hop start operands with ⟨hholds, w, hw, hexact⟩ | ⟨hholds, herror⟩
  · rw [hw, Except.ok.injEq, ← toInt_inj, and_iff_right hholds, ← hexact, eq_comm]
  · simp [herror, hholds]

theorem foldlM_eq_error_iff (hop : IsFit t op combine) {e : QueryError} :
    operands.foldlM (Arithmetic.apply op) start = .error e ↔
      ¬ StaysWithin combine start.toInt operands ∧ e = .overflow op.name := by
  rcases foldlM_cases hop start operands with ⟨hholds, v, hv, -⟩ | ⟨hholds, herror⟩
  · simp [hv, hholds]
  · rw [herror, Except.error.injEq, and_iff_right hholds, eq_comm]

/-! ## Partial results that never fall -/

theorem nonneg_of_unsigned (ht : t.isSigned = false) (a : Integer t) : 0 ≤ a.toInt := by
  rw [← IntType.least_of_unsigned ht]
  exact a.holds.1

/-- No operand makes a result fall that is not negative. -/
def NeverFalls (combine : ℤ → ℤ → ℤ) (operands : List (Integer t)) : Prop :=
  ∀ b ∈ operands, ∀ n, 0 ≤ n → n ≤ combine n b.toInt

theorem le_carried (h : NeverFalls combine operands) (hn : 0 ≤ n) :
    n ≤ carried combine n operands := by
  induction operands generalizing n with
  | nil => exact le_rfl
  | cons b operands ih =>
    obtain ⟨hb, hlater⟩ := List.forall_mem_cons.1 h
    calc n ≤ combine n b.toInt := hb n hn
      _ ≤ carried combine (combine n b.toInt) operands := ih hlater (hn.trans (hb n hn))

theorem staysWithin_iff_holds (ht : t.isSigned = false) (h : NeverFalls combine operands)
    (hn : 0 ≤ n) :
    StaysWithin combine n operands ↔ t.Holds (carried combine n operands) := by
  refine ⟨fun hwithin => hwithin operands List.prefix_rfl, ?_⟩
  rintro ⟨-, hgreatest⟩ front ⟨back, rfl⟩
  -- a partial result lies between the start and the last one
  obtain ⟨hfront, hback⟩ := List.forall_mem_append.1 h
  have hfirst : n ≤ carried combine n front := le_carried hfront hn
  rw [carried_append] at hgreatest
  refine ⟨?_, (le_carried hback (hn.trans hfirst)).trans hgreatest⟩
  rw [IntType.least_of_unsigned ht]
  exact hn.trans hfirst

/-- What never falls overflows somewhere on the way only if it does at the end. -/
theorem foldlM_eq_fit (hop : IsFit t op combine) (ht : t.isSigned = false)
    (h : NeverFalls combine operands) (start : Integer t) :
    operands.foldlM (Arithmetic.apply op) start =
      fit op (carried combine start.toInt operands) := by
  have hwithin := staysWithin_iff_holds ht h (nonneg_of_unsigned ht start)
  rcases foldlM_cases hop start operands with ⟨hholds, v, hv, hexact⟩ | ⟨hholds, herror⟩
  · rw [hv, ← hexact]
    exact (fit_of_holds op v.holds).symm
  · rw [herror, fit_of_not_holds op (mt hwithin.2 hholds)]

theorem foldlM_perm (hop : IsFit t op combine) [RightCommutative combine] (ht : t.isSigned = false)
    (h : NeverFalls combine operands) (hperm : operands'.Perm operands) (start : Integer t) :
    operands'.foldlM (Arithmetic.apply op) start = operands.foldlM (Arithmetic.apply op) start := by
  have hcarried : carried combine start.toInt operands' = carried combine start.toInt operands :=
    hperm.foldl_eq' (fun a _ b _ n => RightCommutative.right_comm n a.toInt b.toInt) start.toInt
  rw [foldlM_eq_fit hop ht h, foldlM_eq_fit hop ht fun b hb => h b (hperm.mem_iff.1 hb), hcarried]

/-! ## Sums and products -/

/-- The start and the operands, added exactly. -/
def total (start : Integer t) (operands : List (Integer t)) : ℤ :=
  start.toInt + (operands.map toInt).sum

theorem total_perm (h : operands'.Perm operands) (start : Integer t) :
    total start operands' = total start operands := by
  rw [total, total, (h.map toInt).sum_eq]

theorem carried_add (n : ℤ) (operands : List (Integer t)) :
    carried (· + ·) n operands = n + (operands.map toInt).sum := by
  induction operands generalizing n with
  | nil => simp
  | cons b operands ih => rw [carried_cons, ih, List.map_cons, List.sum_cons, Int.add_assoc]

theorem neverFalls_add (ht : t.isSigned = false) (operands : List (Integer t)) :
    NeverFalls (· + ·) operands := by
  intro b _ n _
  exact le_add_of_nonneg_right (nonneg_of_unsigned ht b)

theorem neverFalls_mul (ht : t.isSigned = false) (h : ∀ b ∈ operands, b.toInt ≠ 0) :
    NeverFalls (· * ·) operands := by
  intro b hmem n hn
  have hpositive : 0 < b.toInt := lt_of_le_of_ne (nonneg_of_unsigned ht b) (h b hmem).symm
  exact le_mul_of_one_le_right hn hpositive

/-- Every partial sum is a member of the type. -/
def PartialSumsHold (start : Integer t) (operands : List (Integer t)) : Prop :=
  ∀ front, front <+: operands → t.Holds (total start front)

theorem staysWithin_add :
    StaysWithin (· + ·) start.toInt operands ↔ PartialSumsHold start operands := by
  simp only [StaysWithin, PartialSumsHold, carried_add, total]

theorem foldlM_add_eq_ok_iff {v : Integer t} : operands.foldlM add start = .ok v ↔
    PartialSumsHold start operands ∧ v.toInt = total start operands := by
  rw [← staysWithin_add, total, ← carried_add]
  exact foldlM_eq_ok_iff isFit_add

theorem foldlM_add_eq_error_iff {e : QueryError} : operands.foldlM add start = .error e ↔
    ¬ PartialSumsHold start operands ∧ e = .overflow "add" := by
  rw [← staysWithin_add]
  exact foldlM_eq_error_iff isFit_add

/-- **Chains of sums and products.** A chain of sums gives the exact sum if every partial sum is a
member of the type, and else it overflows. In an unsigned type the outcome is the same in every
order of the operands, and so is that of a chain of products without a zero among the operands. In a
signed type orders can differ in whether they overflow, but not in their value. -/
theorem chained_sums_and_products (start : Integer t) (operands : List (Integer t)) :
    ((∃ v, operands.foldlM add start = .ok v ∧ v.toInt = total start operands) ↔
      PartialSumsHold start operands) ∧
    (∀ e, operands.foldlM add start = .error e ↔
      ¬ PartialSumsHold start operands ∧ e = .overflow "add") ∧
    (∀ operands' : List (Integer t), operands'.Perm operands →
      (t.isSigned = false → operands'.foldlM add start = operands.foldlM add start) ∧
      (∀ v v',
        operands.foldlM add start = .ok v → operands'.foldlM add start = .ok v' → v' = v) ∧
      (t.isSigned = false → (∀ b ∈ operands, b.toInt ≠ 0) →
        operands'.foldlM mul start = operands.foldlM mul start)) := by
  refine ⟨⟨?_, fun hholds => ?_⟩, fun e => foldlM_add_eq_error_iff, fun operands' hperm =>
    ⟨fun ht => ?_, fun v v' h h' => ?_, fun ht hne => ?_⟩⟩
  · rintro ⟨v, hv, -⟩
    exact (foldlM_add_eq_ok_iff.1 hv).1
  · rcases hanswer : operands.foldlM add start with e | v
    · exact absurd hholds (foldlM_add_eq_error_iff.1 hanswer).1
    · exact ⟨v, rfl, (foldlM_add_eq_ok_iff.1 hanswer).2⟩
  · exact foldlM_perm isFit_add ht (neverFalls_add ht operands) hperm start
  · refine ext ?_
    rw [(foldlM_add_eq_ok_iff.1 h).2, (foldlM_add_eq_ok_iff.1 h').2, total_perm hperm]
  · exact foldlM_perm isFit_mul ht (neverFalls_mul ht hne) hperm start

/-- Unsigned operands whose sum and product overflow in both orders, and signed ones whose sum
overflows in some of their orders. -/
theorem chained_sums_and_products_bytes :
    let one : Integer .uint8 := ⟨1, by decide⟩
    let large : Integer .uint8 := ⟨200, by decide⟩
    let small : Integer .uint8 := ⟨100, by decide⟩
    let zero : Integer .int8 := ⟨0, by decide⟩
    let up : Integer .int8 := ⟨100, by decide⟩
    let down : Integer .int8 := ⟨-100, by decide⟩
    ([small, large].Perm [large, small] ∧ IntType.uint8.isSigned = false ∧
      (∀ b ∈ [large, small], b.toInt ≠ 0) ∧
      [large, small].foldlM add one = .error (.overflow "add") ∧
      [small, large].foldlM add one = [large, small].foldlM add one ∧
      [small, large].foldlM mul one = [large, small].foldlM mul one) ∧
    ([up, up, down].foldlM add zero = .error (.overflow "add") ∧
      [down, up, up].Perm [up, down, up] ∧
      [up, down, up].foldlM add zero = .ok up ∧
      ∀ v, [down, up, up].foldlM add zero = .ok v → v = up) := by
  intro one large small zero up down
  have hunsigned := (chained_sums_and_products one [large, small]).2.2 _ (.swap large small [])
  have hne : ∀ b ∈ [large, small], b.toInt ≠ 0 := by decide
  have hsigned := (chained_sums_and_products zero [up, down, up]).2.2 _ (.swap up down [up])
  have hok : [up, down, up].foldlM add zero = .ok up := rfl
  exact ⟨⟨.swap large small [], rfl, hne, rfl, hunsigned.1 rfl, hunsigned.2.2 rfl hne⟩,
    rfl, .swap up down [up], hok, fun v hv => hsigned.2.1 up v hok hv⟩

/-- Behind a zero a product cannot overflow any more. -/
example :
    let sixteen : Integer .uint8 := ⟨16, by decide⟩
    let zero : Integer .uint8 := ⟨0, by decide⟩
    [sixteen, zero].foldlM mul sixteen = .error (.overflow "mul") ∧
      [zero, sixteen].foldlM mul sixteen = .ok zero :=
  ⟨rfl, rfl⟩

end RecordQuery.Integer
