import RecordQuery.Error

/-!
# Arithmetic that may fail

`Arithmetic α` gives a number type its five operations, each of which answers with a number or
with a failure that names the operation. What counts as a failure is the type's own affair: see
`Integer` and `Binary`.
-/

namespace RecordQuery

inductive ArithOp
  | add
  | sub
  | mul
  | div
  | rem
  deriving DecidableEq, Repr

namespace ArithOp

/-- The name by which failures refer to the operation. -/
def name : ArithOp → String
  | add => "add"
  | sub => "sub"
  | mul => "mul"
  | div => "div"
  | rem => "rem"

end ArithOp

/-- A type of numbers whose operations may fail. -/
class Arithmetic (α : Type u) where
  /-- One operation on two numbers. -/
  apply : ArithOp → α → α → Result α

namespace Arithmetic

variable {α : Type u} [Arithmetic α]

def add (a b : α) : Result α := apply .add a b

def sub (a b : α) : Result α := apply .sub a b

def mul (a b : α) : Result α := apply .mul a b

def div (a b : α) : Result α := apply .div a b

/-- The remainder that belongs to `div`. -/
def rem (a b : α) : Result α := apply .rem a b

end Arithmetic

end RecordQuery
