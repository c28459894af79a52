import RecordQuery.Condition
import RecordQuery.Like.Pattern

/-!
# Conditions with the subject first

`that x` puts a value in front of the condition that is asked of it, so that a filter reads as
`(that age).isIn ages` or `(that name).like "A%"`. Each form says what the function of the same
name says.
-/

namespace RecordQuery

/-- A value of which a condition is asked. -/
structure Subject (α : Type u) where
  value : α

/-- The value as the subject of a condition. -/
def that (value : α) : Subject α := ⟨value⟩

namespace Subject

def isIn [BEq α] (subject : Subject α) (members : List α) : Bool :=
  Condition.isIn subject.value members

def notIn [BEq α] (subject : Subject α) (members : List α) : Bool :=
  !subject.isIn members

def like (subject : Subject String) (pattern : String) : Result Bool :=
  RecordQuery.like subject.value pattern

def notLike (subject : Subject String) (pattern : String) : Result Bool :=
  return !(← subject.like pattern)

end Subject

end RecordQuery
