import RecordQuery.Text.Labelled
import RecordQuery.Text.Quoted

/-!
# Failures of a query

Everything that can go wrong while conditions and projections are evaluated, with three views of
a failure: `message` for a reader, `sources` for the messages of the failures beneath it, and
`detail` for diagnostics. Wrapping a failure puts a fixed text in front of its message and its
message in front of its sources (`message_wrapped`, `sources_wrapped`).
-/

namespace RecordQuery

open Text

/-! ## Patterns that cannot be used -/

inductive PatternFault
  /-- The pattern is ill formed, as the report says. -/
  | malformed (report : String)
  /-- The compiled pattern would take more than `limit` bytes. -/
  | tooBig (limit : Nat)
  deriving DecidableEq, Repr

namespace PatternFault

def message : PatternFault → String
  | malformed report => report
  | tooBig limit => "Compiled regex exceeds size limit of " ++ toString limit ++ " bytes."

/-- A report stands between two rules of 79 tildes, since it may span several lines. -/
def detail : PatternFault → String
  | malformed report =>
    let rule := String.ofList (List.replicate 79 '~')
    "Syntax(\n" ++ rule ++ "\n" ++ report ++ "\n" ++ rule ++ "\n)"
  | tooBig limit => enclosed "CompiledTooBig" (toString limit)

end PatternFault

/-! ## Failures of the caller's own code -/

/-- A failure raised by a condition or projection that the caller wrote. -/
structure Failure where
  message : String
  /-- The form shown in diagnostics. -/
  detail : String
  /-- The messages of the failures beneath this one, outermost first. -/
  sources : List String
  /-- A number by which the caller knows the failure again. -/
  code : Option Int
  deriving DecidableEq, Repr

namespace Failure

/-- A failure that is nothing but a text. -/
def ofText (text : String) : Failure :=
  ⟨text, quoted text, [], none⟩

end Failure

/-! ## All failures -/

/-- Why a condition, a projection or a whole query failed. -/
inductive QueryError
  /-- A like pattern cannot be used. -/
  | invalidPattern (fault : PatternFault)
  /-- A comparison was asked for by a name that no operator has. -/
  | unknownOperator (name : String)
  /-- The integer operation `op` was given a zero divisor. -/
  | divisionByZero (op : String)
  /-- The exact result of the integer operation `op` is outside the type. -/
  | overflow (op : String)
  /-- The caller's own code failed. -/
  | raised (failure : Failure)
  /-- The caller's own code passed on a failure of the library. -/
  | wrapped (inner : QueryError)
  deriving DecidableEq, Repr

abbrev Result (α : Type u) := Except QueryError α

/-- The kinds of failure that a caller tells apart. -/
inductive ErrorKind
  | invalidPattern
  | unknownOperator
  | divisionByZero
  | overflow
  | callback
  deriving DecidableEq, Repr

namespace QueryError

/-- A failure of the caller's code is of one kind, whatever it passes on. -/
def kind : QueryError → ErrorKind
  | invalidPattern _ => .invalidPattern
  | unknownOperator _ => .unknownOperator
  | divisionByZero _ => .divisionByZero
  | overflow _ => .overflow
  | raised _ => .callback
  | wrapped _ => .callback

def callbackLead : String := "query callback failed: "

def message : QueryError → String
  | invalidPattern fault => "invalid like pattern: " ++ fault.message
  | unknownOperator name => "unknown operator '" ++ name ++ "'"
  | divisionByZero op => "integer division by zero in '" ++ op ++ "'"
  | overflow op => "integer overflow in '" ++ op ++ "'"
  | raised failure => callbackLead ++ failure.message
  | wrapped inner => callbackLead ++ inner.message

/-- The messages of the failures beneath this one, outermost first. -/
def sources : QueryError → List String
  | invalidPattern fault => [fault.message]
  | unknownOperator _ => []
  | divisionByZero _ => []
  | overflow _ => []
  | raised failure => failure.message :: failure.sources
  | wrapped inner => inner.message :: inner.sources

def detail : QueryError → String
  | invalidPattern fault => enclosed "InvalidPattern" fault.detail
  | unknownOperator name => enclosed "UnknownOperator" (quoted name)
  | divisionByZero op => Labelled.line ⟨"DivisionByZero", [("op", quoted op)]⟩
  | overflow op => Labelled.line ⟨"Overflow", [("op", quoted op)]⟩
  | raised failure => enclosed "Callback" failure.detail
  | wrapped inner => enclosed "Callback" inner.detail

/-- The number of the caller's failure that this error carries directly. -/
def code : QueryError → Option Int
  | raised failure => failure.code
  | _ => none

@[simp] theorem message_wrapped (e : QueryError) :
    (wrapped e).message = callbackLead ++ e.message := rfl

@[simp] theorem sources_wrapped (e : QueryError) :
    (wrapped e).sources = e.message :: e.sources := rfl

end QueryError

end RecordQuery
