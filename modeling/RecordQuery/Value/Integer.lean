import RecordQuery.Arithmetic

/-!
# Integers of a fixed width

Twelve types of integers, each an interval of the exact integers; two of them are as wide as the
word of the machine. An operation is carried out exactly and then asked to fit (`Integer.fit`), so
a result is exact or an overflow and never wraps. Division cuts toward zero and the remainder has
the sign of the dividend; a zero divisor is refused first, and a remainder counts as an overflow
where its quotient is one.
-/

namespace RecordQuery

/-! ## The types -/

/-- The width of the words of a machine. -/
inductive WordWidth
  | bits16
  | bits32
  | bits64
  deriving DecidableEq, Repr

def WordWidth.bits : WordWidth → Nat
  | bits16 => 16
  | bits32 => 32
  | bits64 => 64

/-- The integer types: signed and unsigned, of five widths and of the width of a machine word. -/
inductive IntType
  | int8
  | int16
  | int32
  | int64
  | int128
  | intOfWord (width : WordWidth)
  | uint8
  | uint16
  | uint32
  | uint64
  | uint128
  | uintOfWord (width : WordWidth)
  deriving DecidableEq, Repr

namespace IntType

/-- The signed word of most machines. -/
def intWord : IntType := intOfWord .bits64

/-- The unsigned word of most machines. -/
def uintWord : IntType := uintOfWord .bits64

def isSigned : IntType → Bool
  | int8 | int16 | int32 | int64 | int128 | intOfWord _ => true
  | uint8 | uint16 | uint32 | uint64 | uint128 | uintOfWord _ => false

def bits : IntType → Nat
  | int8 | uint8 => 8
  | int16 | uint16 => 16
  | int32 | uint32 => 32
  | int64 | uint64 => 64
  | int128 | uint128 => 128
  | intOfWord width | uintOfWord width => width.bits

/-- How many integers the type has. -/
def size (t : IntType) : Nat := 1 <<< t.bits

def least (t : IntType) : Int :=
  if t.isSigned then -(t.size / 2 : Nat) else 0

def greatest (t : IntType) : Int := t.least + t.size - 1

/-- Whether an exact integer belongs to the type. -/
def Holds (t : IntType) (n : Int) : Prop :=
  t.least ≤ n ∧ n ≤ t.greatest

instance (t : IntType) (n : Int) : Decidable (t.Holds n) :=
  inferInstanceAs (Decidable (_ ∧ _))

theorem holds_zero (t : IntType) : t.Holds 0 := by
  cases t with
  | intOfWord width | uintOfWord width => cases width <;> decide
  | _ => decide

/-- Every signed type reaches one further down than up. -/
theorem least_of_signed {t : IntType} (h : t.isSigned = true) :
    t.least = -t.greatest - 1 := by
  cases t with
  | intOfWord width => cases width <;> decide
  | int8 | int16 | int32 | int64 | int128 => decide
  | _ => cases h

theorem least_of_unsigned {t : IntType} (h : t.isSigned = false) : t.least = 0 := by
  simp [least, h]

end IntType

/-! ## Their members -/

/-- An integer of the type `t`. -/
structure Integer (t : IntType) where
  toInt : Int
  holds : t.Holds toInt

namespace Integer

variable {t : IntType}

@[ext] theorem ext {a b : Integer t} (h : a.toInt = b.toInt) : a = b := by
  cases a; cases b; cases h; rfl

theorem toInt_inj {a b : Integer t} : a.toInt = b.toInt ↔ a = b :=
  ⟨ext, congrArg toInt⟩

instance : DecidableEq (Integer t) := fun _ _ => decidable_of_iff _ toInt_inj

def ofInt? (t : IntType) (n : Int) : Option (Integer t) :=
  if h : t.Holds n then some ⟨n, h⟩ else none

/-! ## Exact results or failures -/

/-- The exact result `n` of the operation `op`, or an overflow. -/
def fit (op : ArithOp) (n : Int) : Result (Integer t) :=
  if h : t.Holds n then .ok ⟨n, h⟩ else .error (.overflow op.name)

theorem fit_of_holds (op : ArithOp) {n : Int} (h : t.Holds n) : fit op n = .ok ⟨n, h⟩ :=
  dif_pos h

theorem fit_of_not_holds (op : ArithOp) {n : Int} (h : ¬t.Holds n) :
    fit (t := t) op n = .error (.overflow op.name) :=
  dif_neg h

theorem fit_eq_ok_iff {op : ArithOp} {n : Int} {v : Integer t} :
    fit op n = .ok v ↔ n = v.toInt := by
  constructor
  · intro h
    by_cases hn : t.Holds n
    · rw [fit_of_holds op hn] at h
      cases h; rfl
    · rw [fit_of_not_holds op hn] at h
      cases h
  · rintro rfl
    exact fit_of_holds op v.holds

def apply (op : ArithOp) (a b : Integer t) : Result (Integer t) :=
  match op with
  | .add => fit op (a.toInt + b.toInt)
  | .sub => fit op (a.toInt - b.toInt)
  | .mul => fit op (a.toInt * b.toInt)
  | .div =>
    if b.toInt = 0 then .error (.divisionByZero op.name)
    else fit op (a.toInt.tdiv b.toInt)
  | .rem =>
    if b.toInt = 0 then .error (.divisionByZero op.name)
    else if t.Holds (a.toInt.tdiv b.toInt) then fit op (a.toInt.tmod b.toInt)
    else .error (.overflow op.name)

instance : Arithmetic (Integer t) := ⟨apply⟩

end Integer

end RecordQuery
