import RecordQuery.Comparable

/-!
# Conditions

The tests from which filters are built: comparisons, the logical connectives, tests for a
missing value, and membership. All are total functions to `Bool`; none looks at the records of a
query.
-/

namespace RecordQuery.Condition

variable {α : Type u}

/-! ## Comparisons -/

def eq [BEq α] (a b : α) : Bool := a == b

def ne [BEq α] (a b : α) : Bool := a != b

/-- Whether `a` and `b` are comparable and `a` is the greater. -/
def gt [Comparable α] (a b : α) : Bool := (compare? a b).any Ordering.isGT

def ge [Comparable α] (a b : α) : Bool := (compare? a b).any Ordering.isGE

def lt [Comparable α] (a b : α) : Bool := (compare? a b).any Ordering.isLT

def le [Comparable α] (a b : α) : Bool := (compare? a b).any Ordering.isLE

/-! ## Connectives -/

def and (a b : Bool) : Bool := a && b

def or (a b : Bool) : Bool := a || b

def not (a : Bool) : Bool := !a

/-! ## Missing values -/

def isNull (value : Option α) : Bool := value.isNone

def isNotNull (value : Option α) : Bool := value.isSome

/-! ## Membership -/

/-- Whether the value equals some member of the list; a value that does not equal itself is in
no list. -/
def isIn [BEq α] (value : α) (members : List α) : Bool := members.any (value == ·)

def notIn [BEq α] (value : α) (members : List α) : Bool := !isIn value members

end RecordQuery.Condition
