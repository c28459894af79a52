import RecordQuery.Comparable
import RecordQuery.Error

/-!
# Comparison operators

The six operators as values: read from a name, shown by a name, and evaluated. `Op.holds` decides
an operator from the standing of two values alone; `Op.eval` asks equality for `eq` and `ne` and
the standing for the other four.
-/

namespace RecordQuery

inductive Op
  | eq
  | ne
  | gt
  | ge
  | lt
  | le
  deriving DecidableEq, Repr

namespace Op

/-! ## Names -/

/-- The name under which an operator is shown. -/
def name : Op → String
  | eq => "eq"
  | ne => "ne"
  | gt => "gt"
  | ge => "ge"
  | lt => "lt"
  | le => "le"

/-- An operator is known by its name or its symbol, the inclusive ones also by a longer name. -/
def ofName (text : String) : Result Op :=
  match text with
  | "eq" | "==" => .ok eq
  | "ne" | "!=" => .ok ne
  | "gt" | ">" => .ok gt
  | "ge" | "gte" | ">=" => .ok ge
  | "lt" | "<" => .ok lt
  | "le" | "lte" | "<=" => .ok le
  | other => .error (.unknownOperator other)

@[simp] theorem ofName_name (op : Op) : ofName op.name = .ok op := by
  cases op <;> rfl

def detail : Op → String
  | eq => "Eq"
  | ne => "Ne"
  | gt => "Gt"
  | ge => "Gte"
  | lt => "Lt"
  | le => "Lte"

/-! ## Evaluation -/

/-- Whether the operator holds of two values that stand to each other as given. Of values that
are not comparable only `ne` holds. -/
def holds : Op → Option Ordering → Bool
  | ne, none => true
  | _, none => false
  | eq, some order => order.isEq
  | ne, some order => order.isNe
  | gt, some order => order.isGT
  | ge, some order => order.isGE
  | lt, some order => order.isLT
  | le, some order => order.isLE

def eval [BEq α] [Comparable α] (op : Op) (a b : α) : Bool :=
  match op with
  | eq => a == b
  | ne => a != b
  | _ => op.holds (compare? a b)

end Op

end RecordQuery
