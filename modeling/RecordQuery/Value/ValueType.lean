import RecordQuery.Value.Binary
import RecordQuery.Value.Integer

/-!
# The types of values

`ValueType` is the closed family of types that conditions compare: integers, floating-point
numbers, truth values, characters, texts and the unit, with options, pairs and lists of these
to any depth. `ValueType.Value` gives the values of each, and equality and order are those of the
parts.
-/

namespace RecordQuery

/-- Integers compare by their value. -/
instance (t : IntType) : Comparable (Integer t) := ⟨fun a b => some (compare a.toInt b.toInt)⟩

inductive ValueType
  | int (t : IntType)
  | float (f : FloatFormat)
  | bool
  | char
  | str
  | unit
  | option (element : ValueType)
  | pair (first second : ValueType)
  | list (element : ValueType)
  deriving DecidableEq, Repr

namespace ValueType

@[reducible] def Value : ValueType → Type
  | int t => Integer t
  | float f => Binary f
  | bool => Bool
  | char => Char
  | str => String
  | unit => Unit
  | option element => Option element.Value
  | pair first second => first.Value × second.Value
  | list element => List element.Value

/-- Compound values are equal part by part. -/
instance instBEqValue : (t : ValueType) → BEq t.Value
  | int t => inferInstanceAs (BEq (Integer t))
  | float f => inferInstanceAs (BEq (Binary f))
  | bool => inferInstanceAs (BEq Bool)
  | char => inferInstanceAs (BEq Char)
  | str => inferInstanceAs (BEq String)
  | unit => inferInstanceAs (BEq Unit)
  | option element =>
    have := instBEqValue element
    inferInstanceAs (BEq (Option element.Value))
  | pair first second =>
    have := instBEqValue first
    have := instBEqValue second
    inferInstanceAs (BEq (first.Value × second.Value))
  | list element =>
    have := instBEqValue element
    inferInstanceAs (BEq (List element.Value))

/-- Compound values are compared part by part. -/
instance instComparableValue : (t : ValueType) → Comparable t.Value
  | int t => inferInstanceAs (Comparable (Integer t))
  | float f => inferInstanceAs (Comparable (Binary f))
  | bool => inferInstanceAs (Comparable Bool)
  | char => inferInstanceAs (Comparable Char)
  | str => inferInstanceAs (Comparable String)
  | unit => inferInstanceAs (Comparable Unit)
  | option element =>
    have := instComparableValue element
    inferInstanceAs (Comparable (Option element.Value))
  | pair first second =>
    have := instComparableValue first
    have := instComparableValue second
    inferInstanceAs (Comparable (first.Value × second.Value))
  | list element =>
    have := instComparableValue element
    inferInstanceAs (Comparable (List element.Value))

end ValueType

end RecordQuery
