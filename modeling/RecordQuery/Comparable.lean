/-!
# Values in a partial order

`compare? a b` says how two values stand to each other, or nothing if they are not comparable.
Equality (`==`) is a relation of its own: a type may compare a part of its values only. Compound
values are compared from the left, and the first parts that do not compare equal decide, be they
ordered or incomparable.
-/

namespace RecordQuery

/-- A type whose values can be compared, possibly not all of them with each other. -/
class Comparable (α : Type u) where
  compare? : α → α → Option Ordering

export Comparable (compare?)

@[reducible] def Comparable.ofOrd [Ord α] : Comparable α := ⟨fun a b => some (compare a b)⟩

/-- The first verdict decides unless it is that both parts are equal. -/
def decideFirst (first : Option Ordering) (second : Unit → Option Ordering) : Option Ordering :=
  match first with
  | some .eq => second ()
  | verdict => verdict

@[simp] theorem decideFirst_eq (second : Unit → Option Ordering) :
    decideFirst (some .eq) second = second () := rfl

@[simp] theorem decideFirst_none (second : Unit → Option Ordering) :
    decideFirst none second = none := rfl

section DecideFirst

variable {first : Option Ordering} {second : Unit → Option Ordering}

theorem decideFirst_eq_iff :
    decideFirst first second = some .eq ↔ first = some .eq ∧ second () = some .eq := by
  rcases first with _ | _ | _ | _ <;> simp [decideFirst]

theorem decideFirst_lt_iff :
    decideFirst first second = some .lt ↔
      first = some .lt ∨ first = some .eq ∧ second () = some .lt := by
  rcases first with _ | _ | _ | _ <;> simp [decideFirst]

theorem map_swap_decideFirst :
    (decideFirst first second).map Ordering.swap =
      decideFirst (first.map Ordering.swap) fun _ => (second ()).map Ordering.swap := by
  rcases first with _ | _ | _ | _ <;> rfl

end DecideFirst

namespace Comparable

/-! ## Single values -/

instance : Comparable Bool := ofOrd

/-- Characters are in the order of their code points. -/
instance : Comparable Char := ofOrd

/-- Texts are in the lexicographic order of their code points. -/
instance : Comparable String := ofOrd

instance : Comparable Unit := ⟨fun _ _ => some .eq⟩

/-! ## Compound values -/

section Compound

variable {α : Type u} {β : Type v} [Comparable α] [Comparable β]

def option : Option α → Option α → Option Ordering
  | none, none => some .eq
  | none, some _ => some .lt
  | some _, none => some .gt
  | some a, some b => compare? a b

instance : Comparable (Option α) := ⟨option⟩

instance : Comparable (α × β) :=
  ⟨fun (a, b) (a', b') => decideFirst (compare? a a') fun _ => compare? b b'⟩

/-- Element by element; a list is greater than any that it continues. -/
def list : List α → List α → Option Ordering
  | [], [] => some .eq
  | [], _ :: _ => some .lt
  | _ :: _, [] => some .gt
  | a :: as, b :: bs => decideFirst (compare? a b) fun _ => list as bs

instance : Comparable (List α) := ⟨list⟩

end Compound

end Comparable

end RecordQuery
