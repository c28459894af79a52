import RecordQuery.Proofs.Value.Comparison

/-!
# The order of values

Values are ordered in part: one that is not a number stands to none, and no more does a compound
value in which such a part is reached. What is left of an order are the laws of `PartiallyOrdered`.
Compound values are compared by the first parts that do not compare equal, and so these laws hold
for all types that are built from types with these laws. From them follow the laws of the six
operators (`OrderingLaws`), for all values that conditions compare (`ordering_laws`).
-/

namespace RecordQuery

/-- A type in which values stand to each other as in a partial order, but values that compare equal
need not be equal, and some stand to nothing, not even to themselves. -/
class PartiallyOrdered (α : Type u) [Comparable α] : Prop where
  /-- The other way round, two values stand the other way round. -/
  swap (a b : α) : (compare? a b).map Ordering.swap = compare? b a
  /-- Values that compare equal stand alike to all others. -/
  congr {a b : α} (h : compare? a b = some .eq) (c : α) : compare? a c = compare? b c
  lt_trans {a b c : α} (h : compare? a b = some .lt) (h' : compare? b c = some .lt) :
    compare? a c = some .lt

namespace PartiallyOrdered

section Laws

variable {α : Type u} [Comparable α] [PartiallyOrdered α] {a b c : α}

theorem congr_right (h : compare? b c = some .eq) (a : α) : compare? a b = compare? a c := by
  rw [← swap b a, ← swap c a, congr h]

theorem lt_of_lt_of_eq (h : compare? a b = some .lt) (h' : compare? b c = some .eq) :
    compare? a c = some .lt := by
  rw [← congr_right h', h]

theorem lt_of_eq_of_lt (h : compare? a b = some .eq) (h' : compare? b c = some .lt) :
    compare? a c = some .lt := by
  rw [congr h, h']

theorem eq_trans (h : compare? a b = some .eq) (h' : compare? b c = some .eq) :
    compare? a c = some .eq := by
  rw [congr h, h']

theorem not_lt_self (a : α) : compare? a a ≠ some .lt := by
  intro h
  have hswap := swap a a
  rw [h] at hswap
  cases hswap

end Laws

/-! ## Single values -/

section Keys

variable {α : Type u} {β : Type} [Comparable α] [Ord β] {key : α → Option β}

theorem exists_keys
    (h : ∀ a b : α, compare? a b = do return compare (← key a) (← key b)) {a b : α}
    {order : Ordering} (hab : compare? a b = some order) :
    ∃ i j, key a = some i ∧ key b = some j ∧ compare i j = order := by
  simpa [h, Option.bind_eq_some_iff] using hab

/-- Values that are compared by keys from a total order; those without a key stand to nothing. -/
theorem of_key [Std.TransOrd β] (key : α → Option β)
    (h : ∀ a b : α, compare? a b = do return compare (← key a) (← key b)) :
    PartiallyOrdered α where
  swap a b := by
    rw [h, h]
    rcases key a with _ | i <;> rcases key b with _ | j
    · rfl
    · rfl
    · rfl
    · exact congrArg some Std.OrientedOrd.eq_swap.symm
  congr hab c := by
    obtain ⟨i, j, hi, hj, hij⟩ := exists_keys h hab
    rw [h, h, hi, hj]
    cases key c with
    | none => rfl
    | some k => exact congrArg some (Std.TransCmp.congr_left hij)
  lt_trans hab hbc := by
    obtain ⟨i, j, hi, hj, hij⟩ := exists_keys h hab
    obtain ⟨j', k, hj', hk, hjk⟩ := exists_keys h hbc
    obtain rfl : j = j' := Option.some.inj (hj.symm.trans hj')
    rw [h, hi, hk]
    exact congrArg some (Std.TransCmp.lt_trans hij hjk)

end Keys

instance : PartiallyOrdered Bool := of_key some fun _ _ => rfl

instance : PartiallyOrdered Char := of_key some fun _ _ => rfl

instance : PartiallyOrdered String := of_key some fun _ _ => rfl

instance : PartiallyOrdered Unit := of_key (fun _ => some 0) fun _ _ => rfl

instance : PartiallyOrdered (Integer t) := of_key (fun a => some a.toInt) fun _ _ => rfl

instance : PartiallyOrdered (Binary f) := by
  refine of_key (fun x => if x.isNaN then none else some x.key) fun x y => ?_
  cases hx : x.isNaN with
  | true => rw [Binary.compare?_of_isNaN (.inl hx)]; rfl
  | false =>
    cases hy : y.isNaN with
    | true => rw [Binary.compare?_of_isNaN (.inr hy)]; rfl
    | false => rw [Binary.compare?_of_not_isNaN hx hy]; rfl

/-! ## Compound values -/

section Compound

variable {α : Type u} {β : Type v} [Comparable α] [PartiallyOrdered α] [Comparable β]
  [PartiallyOrdered β]

instance : PartiallyOrdered (Option α) where
  swap a b := by
    cases a <;> cases b
    · rfl
    · rfl
    · rfl
    · exact swap (α := α) _ _
  congr {a b} hab c := by
    cases a <;> cases b
    · rfl
    · cases hab
    · cases hab
    · cases c with
      | none => rfl
      | some c => exact congr (α := α) hab c
  lt_trans {a b c} hab hbc := by
    cases c with
    | none => cases b <;> cases hbc
    | some c =>
      cases a with
      | none => rfl
      | some a =>
        cases b with
        | none => cases hab
        | some b => exact lt_trans (α := α) hab hbc

section Parts

variable {a b c : α} {ab bc ac : Unit → Option Ordering}

theorem decideFirst_congr (h : decideFirst (compare? a b) ab = some .eq)
    (hlater : ab () = some .eq → ac () = bc ()) :
    decideFirst (compare? a c) ac = decideFirst (compare? b c) bc := by
  obtain ⟨hfirst, hsecond⟩ := decideFirst_eq_iff.1 h
  have hrest : ac = bc := funext fun _ => hlater hsecond
  rw [congr hfirst, hrest]

/-- Of two comparisons in a row, the one decided by earlier parts decides the third. -/
theorem decideFirst_lt_trans (h : decideFirst (compare? a b) ab = some .lt)
    (h' : decideFirst (compare? b c) bc = some .lt)
    (hlater : ab () = some .lt → bc () = some .lt → ac () = some .lt) :
    decideFirst (compare? a c) ac = some .lt := by
  rw [decideFirst_lt_iff] at *
  rcases h with h | ⟨h, hab⟩ <;> rcases h' with h' | ⟨h', hbc⟩
  · exact .inl (lt_trans h h')
  · exact .inl (lt_of_lt_of_eq h h')
  · exact .inl (lt_of_eq_of_lt h h')
  · exact .inr ⟨eq_trans h h', hlater hab hbc⟩

end Parts

instance : PartiallyOrdered (α × β) where
  swap a b := by
    show (decideFirst _ _).map Ordering.swap = decideFirst _ _
    rw [map_swap_decideFirst, swap, swap]
  congr hab _ := decideFirst_congr hab fun h => congr h _
  lt_trans hab hbc := decideFirst_lt_trans hab hbc lt_trans

theorem list_swap (as bs : List α) :
    (Comparable.list as bs).map Ordering.swap = Comparable.list bs as := by
  induction as generalizing bs with
  | nil => cases bs <;> rfl
  | cons a as ih =>
    cases bs with
    | nil => rfl
    | cons b bs => rw [Comparable.list, Comparable.list, map_swap_decideFirst, swap, ih]

theorem list_congr {as bs : List α} (h : Comparable.list as bs = some .eq) (cs : List α) :
    Comparable.list as cs = Comparable.list bs cs := by
  induction as generalizing bs cs with
  | nil =>
    cases bs with
    | nil => rfl
    | cons b bs => cases h
  | cons a as ih =>
    cases bs with
    | nil => cases h
    | cons b bs =>
      cases cs with
      | nil => rfl
      | cons c cs => exact decideFirst_congr h fun hrest => ih hrest cs

theorem list_lt_trans {as bs cs : List α} (h : Comparable.list as bs = some .lt)
    (h' : Comparable.list bs cs = some .lt) : Comparable.list as cs = some .lt := by
  induction as generalizing bs cs with
  | nil =>
    cases cs with
    | nil => cases bs <;> cases h'
    | cons c cs => rfl
  | cons a as ih =>
    cases bs with
    | nil => cases h
    | cons b bs =>
      cases cs with
      | nil => cases h'
      | cons c cs => exact decideFirst_lt_trans h h' ih

instance : PartiallyOrdered (List α) := ⟨list_swap, list_congr, list_lt_trans⟩

end Compound

instance instValue : (t : ValueType) → PartiallyOrdered t.Value
  | .int t => inferInstanceAs (PartiallyOrdered (Integer t))
  | .float f => inferInstanceAs (PartiallyOrdered (Binary f))
  | .bool => inferInstanceAs (PartiallyOrdered Bool)
  | .char => inferInstanceAs (PartiallyOrdered Char)
  | .str => inferInstanceAs (PartiallyOrdered String)
  | .unit => inferInstanceAs (PartiallyOrdered Unit)
  | .option element =>
    have := instValue element
    inferInstanceAs (PartiallyOrdered (Option element.Value))
  | .pair first second =>
    have := instValue first
    have := instValue second
    inferInstanceAs (PartiallyOrdered (first.Value × second.Value))
  | .list element =>
    have := instValue element
    inferInstanceAs (PartiallyOrdered (List element.Value))

end PartiallyOrdered

/-! ## The laws of the operators -/

/-- What holds of the six operators, asked in one way or another, on values of which only some are
comparable with each other. -/
structure OrderingLaws {α : Type u} (ask : Op → α → α → Bool)
    (comparable : α → α → Prop) : Prop where
  gt_eq_lt (a b : α) : ask .gt a b = ask .lt b a
  ge_eq_le (a b : α) : ask .ge a b = ask .le b a
  ge_eq_or (a b : α) : ask .ge a b = (ask .gt a b || ask .eq a b)
  le_eq_or (a b : α) : ask .le a b = (ask .lt a b || ask .eq a b)
  not_lt_self (a : α) : ask .lt a a = false
  lt_trans (a b c : α) : ask .lt a b = true → ask .lt b c = true → ask .lt a c = true
  le_trans (a b c : α) : ask .le a b = true → ask .le b c = true → ask .le a c = true
  lt_of_lt_of_eq (a b c : α) : ask .lt a b = true → ask .eq b c = true → ask .lt a c = true
  lt_of_eq_of_lt (a b c : α) : ask .eq a b = true → ask .lt b c = true → ask .lt a c = true
  exactly_one (a b : α) : comparable a b → [Op.lt, .eq, .gt].countP (ask · a b) = 1
  only_ne (a b : α) : ¬ comparable a b → ∀ op, ask op a b = true ↔ op = .ne
  opposite_iff (a b : α) : ask .lt a b = !ask .ge a b ↔ comparable a b

namespace Op

theorem holds_lt_iff {standing : Option Ordering} :
    lt.holds standing = true ↔ standing = some .lt := by
  rcases standing with _ | _ | _ | _ <;> simp [holds]

theorem holds_eq_iff {standing : Option Ordering} :
    eq.holds standing = true ↔ standing = some .eq := by
  rw [holds_eq, decide_eq_true_eq]

theorem holds_le_iff {standing : Option Ordering} :
    le.holds standing = true ↔ standing = some .lt ∨ standing = some .eq := by
  rcases standing with _ | _ | _ | _ <;> simp [holds]

open PartiallyOrdered

theorem orderingLaws_holds {α : Type u} [Comparable α] [PartiallyOrdered α] :
    OrderingLaws (fun op (a b : α) => op.holds (compare? a b))
      fun a b => (compare? a b).isSome = true where
  gt_eq_lt a b := by
    rw [← swap a b]
    rcases compare? a b with _ | _ | _ | _ <;> rfl
  ge_eq_le a b := by
    rw [← swap a b]
    rcases compare? a b with _ | _ | _ | _ <;> rfl
  ge_eq_or a b := by
    rcases compare? a b with _ | _ | _ | _ <;> rfl
  le_eq_or a b := by
    rcases compare? a b with _ | _ | _ | _ <;> rfl
  not_lt_self a := by
    rw [Bool.eq_false_iff, ne_eq, holds_lt_iff]
    exact PartiallyOrdered.not_lt_self a
  lt_trans a b c := by
    simp only [holds_lt_iff]
    exact PartiallyOrdered.lt_trans
  le_trans a b c hab hbc := by
    rw [holds_le_iff] at *
    rcases hab with hab | hab <;> rcases hbc with hbc | hbc
    · exact .inl (PartiallyOrdered.lt_trans hab hbc)
    · exact .inl (PartiallyOrdered.lt_of_lt_of_eq hab hbc)
    · exact .inl (PartiallyOrdered.lt_of_eq_of_lt hab hbc)
    · exact .inr (eq_trans hab hbc)
  lt_of_lt_of_eq a b c := by
    simp only [holds_lt_iff, holds_eq_iff]
    exact PartiallyOrdered.lt_of_lt_of_eq
  lt_of_eq_of_lt a b c := by
    simp only [holds_lt_iff, holds_eq_iff]
    exact PartiallyOrdered.lt_of_eq_of_lt
  exactly_one a b h := by
    obtain ⟨order, horder⟩ := Option.isSome_iff_exists.1 h
    rw [horder]
    cases order <;> rfl
  only_ne a b h op := by
    rw [Bool.not_eq_true, Option.isSome_eq_false_iff, Option.isNone_iff_eq_none] at h
    rw [h]
    cases op <;> simp [holds]
  opposite_iff a b := by
    rcases compare? a b with _ | _ | _ | _ <;> simp [holds]

/-- **The laws of the operators.** For the values of any type that conditions compare, those that
are not numbers and those with such parts included, the operators have the laws of a partial order,
whether they are asked as conditions, evaluated, or read off from the standing of the two values. -/
theorem ordering_laws (t : ValueType) :
    let comparable (a b : t.Value) : Prop := (compare? a b).isSome = true
    OrderingLaws (fun op (a b : t.Value) => op.condition a b) comparable ∧
    OrderingLaws (fun op (a b : t.Value) => op.eval a b) comparable ∧
    OrderingLaws (fun op (a b : t.Value) => op.holds (compare? a b)) comparable := by
  simp only [condition_eq_eval, eval_eq_holds]
  exact ⟨orderingLaws_holds, orderingLaws_holds, orderingLaws_holds⟩

/-- Lists that end in what is not a number: one behind the other as far as an earlier part decides,
and not even comparable with themselves. -/
theorem ordering_laws_lists :
    let t : ValueType := .list (.option (.float .double))
    let one : Binary .double := ⟨.ofNat _ 0x3ff0000000000000⟩
    let a : t.Value := [none, some .nan]
    let b : t.Value := [some one, none, some .nan]
    let c : t.Value := [some one, some .nan]
    lt.condition a b = true ∧ lt.condition b c = true ∧ lt.condition a c = true ∧
      (compare? a b).isSome = true ∧ [lt, eq, gt].countP (Op.condition · a b) = 1 ∧
      ¬ (compare? c c).isSome = true ∧ (∀ op : Op, op.condition c c = true ↔ op = ne) ∧
      ¬ lt.condition c c = !ge.condition c c := by
  intro t one a b c
  have laws := (ordering_laws t).1
  have hab : lt.condition a b = true := by decide
  have hbc : lt.condition b c = true := by decide
  have hcomparable : (compare? a b).isSome = true := by decide
  have hincomparable : ¬ (compare? c c).isSome = true := by decide
  exact ⟨hab, hbc, laws.lt_trans a b c hab hbc, hcomparable, laws.exactly_one a b hcomparable,
    hincomparable, laws.only_ne c c hincomparable, mt (laws.opposite_iff c c).1 hincomparable⟩

end Op

end RecordQuery
