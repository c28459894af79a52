import RecordQuery.Condition
import RecordQuery.Op
import RecordQuery.Value.ValueType

/-!
# Equality and order

Equality and order are defined apart, and for compound values they are recursions of different
shape: equality asks for all parts, the order stops at the first parts that do not compare equal. In
a `LawfulComparable` type they agree on what is equal, and they do so in all types that are built
from such types. Hence an operator may be asked as a condition, through `Op.eval` or through the
standing of the two values alone; in any other type only equality can tell these apart
(`routes_agree`).
-/

namespace RecordQuery

/-- Two values are equal exactly if they compare equal. -/
class LawfulComparable (α : Type u) [BEq α] [Comparable α] : Prop where
  beq_iff (a b : α) : (a == b) = true ↔ compare? a b = some .eq

namespace LawfulComparable

/-! ## Single values -/

theorem ofOrd [BEq α] [LawfulBEq α] [Ord α] [Std.LawfulEqOrd α] :
    @LawfulComparable α _ .ofOrd :=
  @mk _ _ .ofOrd fun a b => by
    rw [beq_iff_eq, ← Std.compare_eq_iff_eq]
    exact (Option.some_inj (a := compare a b)).symm

instance : LawfulComparable Bool := ofOrd

instance : LawfulComparable Char := ofOrd

instance : LawfulComparable String := ofOrd

instance : LawfulComparable Unit := ⟨fun _ _ => by simp [compare?]⟩

instance : LawfulComparable (Integer t) where
  beq_iff a b := by
    rw [beq_iff_eq, ← Integer.toInt_inj, ← Std.compare_eq_iff_eq]
    exact (Option.some_inj (a := compare a.toInt b.toInt)).symm

/-- A value that is not a number neither equals anything nor is comparable to anything. -/
instance : LawfulComparable (Binary f) where
  beq_iff x y := by
    by_cases h : x.isNaN ∨ y.isNaN
    · rw [Binary.compare?_of_isNaN h]
      rcases h with h | h <;> simp [BEq.beq, h]
    · simp only [not_or, Bool.not_eq_true] at h
      rw [Binary.compare?_of_not_isNaN h.1 h.2, Option.some_inj, Std.compare_eq_iff_eq]
      simp [BEq.beq, h.1, h.2]

/-! ## Compound values -/

section Compound

variable {α : Type u} {β : Type v} [BEq α] [Comparable α] [LawfulComparable α]
  [BEq β] [Comparable β] [LawfulComparable β]

instance : LawfulComparable (Option α) where
  beq_iff a b := by
    cases a <;> cases b
    · simp [compare?, Comparable.option]
    · simp [compare?, Comparable.option]
    · simp [compare?, Comparable.option]
    · rw [Option.some_beq_some, beq_iff]
      rfl

instance : LawfulComparable (α × β) where
  beq_iff := by
    rintro ⟨a, b⟩ ⟨a', b'⟩
    show (a == a' && b == b') = true ↔ decideFirst (compare? a a') (fun _ => compare? b b') = _
    rw [decideFirst_eq_iff, Bool.and_eq_true, beq_iff, beq_iff]

theorem list_beq_iff (as bs : List α) :
    (as == bs) = true ↔ Comparable.list as bs = some .eq := by
  induction as generalizing bs with
  | nil => cases bs <;> simp [Comparable.list]
  | cons a as ih =>
    cases bs with
    | nil => simp [Comparable.list]
    | cons b bs =>
      rw [List.cons_beq_cons, Bool.and_eq_true, Comparable.list, decideFirst_eq_iff, beq_iff, ih]

instance : LawfulComparable (List α) := ⟨list_beq_iff⟩

end Compound

instance instValue : (t : ValueType) → LawfulComparable t.Value
  | .int t => inferInstanceAs (LawfulComparable (Integer t))
  | .float f => inferInstanceAs (LawfulComparable (Binary f))
  | .bool => inferInstanceAs (LawfulComparable Bool)
  | .char => inferInstanceAs (LawfulComparable Char)
  | .str => inferInstanceAs (LawfulComparable String)
  | .unit => inferInstanceAs (LawfulComparable Unit)
  | .option element =>
    have := instValue element
    inferInstanceAs (LawfulComparable (Option element.Value))
  | .pair first second =>
    have := instValue first
    have := instValue second
    inferInstanceAs (LawfulComparable (first.Value × second.Value))
  | .list element =>
    have := instValue element
    inferInstanceAs (LawfulComparable (List element.Value))

end LawfulComparable

/-! ## The ways to ask an operator -/

namespace Op

variable {α : Type u} [BEq α] [Comparable α]

/-- The condition that an operator stands for. -/
def condition : Op → α → α → Bool
  | eq => Condition.eq
  | ne => Condition.ne
  | gt => Condition.gt
  | ge => Condition.ge
  | lt => Condition.lt
  | le => Condition.le

/-- Values that are not comparable satisfy no condition of order. -/
theorem condition_eq_eval (op : Op) (a b : α) : op.condition a b = op.eval a b := by
  cases op <;> simp only [condition, eval, Condition.eq, Condition.ne, Condition.gt, Condition.ge,
    Condition.lt, Condition.le] <;> cases compare? a b <;> rfl

theorem holds_eq (standing : Option Ordering) :
    eq.holds standing = decide (standing = some .eq) := by
  rcases standing with _ | _ | _ | _ <;> rfl

theorem holds_ne (standing : Option Ordering) :
    ne.holds standing = !decide (standing = some .eq) := by
  rcases standing with _ | _ | _ | _ <;> rfl

theorem eval_ne_holds_iff (op : Op) (a b : α) : op.eval a b ≠ op.holds (compare? a b) ↔
    (op = eq ∨ op = ne) ∧ ¬ ((a == b) = true ↔ compare? a b = some .eq) := by
  cases op with
  | eq =>
    rw [eval, holds_eq, ne_eq, Bool.eq_iff_iff, decide_eq_true_eq]
    simp
  | ne =>
    rw [eval, holds_ne, bne, ne_eq, Bool.not_inj_iff, Bool.eq_iff_iff, decide_eq_true_eq]
    simp
  | gt | ge | lt | le => simp [eval]

theorem eval_eq_holds [LawfulComparable α] (op : Op) (a b : α) :
    op.eval a b = op.holds (compare? a b) :=
  Decidable.of_not_not fun h =>
    ((eval_ne_holds_iff op a b).1 h).2 (LawfulComparable.beq_iff a b)

/-- **Three ways to ask the same.** For the values of any type that conditions compare, equality is
to compare equal, and each operator gives the same answer as a condition, evaluated, and read off
from the standing of the two values. In any other type the first two agree, and the third differs
from them for equality and inequality on just those values that are equal without comparing equal,
or the reverse. -/
theorem routes_agree :
    (∀ (t : ValueType) (a b : t.Value),
      ((a == b) = true ↔ compare? a b = some .eq) ∧
      ∀ op : Op, op.condition a b = op.eval a b ∧ op.eval a b = op.holds (compare? a b)) ∧
    (∀ (α : Type u) [BEq α] [Comparable α] (a b : α) (op : Op),
      op.condition a b = op.eval a b ∧
      (op.eval a b ≠ op.holds (compare? a b) ↔
        (op = eq ∨ op = ne) ∧ ¬ ((a == b) = true ↔ compare? a b = some .eq))) :=
  ⟨fun _ a b => ⟨LawfulComparable.beq_iff a b,
      fun op => ⟨condition_eq_eval op a b, eval_eq_holds op a b⟩⟩,
    fun _ _ _ a b op => ⟨condition_eq_eval op a b, eval_ne_holds_iff op a b⟩⟩

/-- A part that is not a number makes lists incomparable if it is reached before one of them
ends. -/
example :
    let x : List (Option (Binary .double)) := [none, some .nan]
    ne.eval x x = true ∧ le.eval x (x ++ [none]) = false ∧ lt.eval [none] x = true := by
  decide

end Op

end RecordQuery
