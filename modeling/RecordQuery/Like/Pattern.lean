import RecordQuery.Error
import RecordQuery.Like.Expression
import RecordQuery.Like.Matching

/-!
# Compiled patterns

A pattern compiles to two automata, and it is usable if each of them stays within a limit of size,
whatever text it is later matched against. `LikePattern` holds a pattern together with the proof of
that, so that matching cannot fail; `like` and `notLike` compile and match in one step.
-/

namespace RecordQuery

namespace Like

/-- The two automata of a pattern go through a text from its beginning and from its end. -/
inductive Direction
  | forward
  | backward
  deriving DecidableEq, Repr

/-- The bytes for an entry, the two anchors and an end, at 32 a state. The automaton that goes
forward also marks where a match begins and where it ends. -/
def Direction.frameSize : Direction → Nat
  | forward => 6 * 32
  | backward => 4 * 32

/-- The bytes that one token takes in an automaton. A literal has one state for each of its bytes, a
wildcard a loop through the encodings of all characters. These come in nine forms, which share the
states for their last bytes on the way forward, where a state may have several ranges of 8 bytes.
On the way back they fork at once, with 4 bytes for each branch. -/
def Token.compiledSize (direction : Direction) : Token → Nat
  | literal c => 32 * c.utf8Size
  | wildcard =>
    match direction with
    | .forward => 10 * 32 + 16 * 8 + 2 * 4
    | .backward => 30 * 32 + 11 * 4

def automatonSize (direction : Direction) (ts : List Token) : Nat :=
  ts.foldl (fun size t => size + t.compiledSize direction) direction.frameSize

/-- The bytes that the larger automaton takes. -/
def compiledSize (ts : List Token) : Nat :=
  max (automatonSize .forward ts) (automatonSize .backward ts)

/-- The greatest size that is accepted: ten mebibytes. -/
def sizeLimit : Nat := 10 * 1024 * 1024

end Like

open Like Text

/-- A pattern whose compiled form is within the limit. -/
structure LikePattern where
  /-- The pattern as it was given. -/
  text : String
  fits : compiledSize (tokens text.toList) ≤ sizeLimit
  deriving DecidableEq

namespace LikePattern

def compile (text : String) : Result LikePattern :=
  if fits : compiledSize (tokens text.toList) ≤ sizeLimit then .ok ⟨text, fits⟩
  else .error (.invalidPattern (.tooBig sizeLimit))

/-- Whether the pattern covers the whole of `text`. -/
def isMatch (pattern : LikePattern) (text : String) : Bool :=
  covered (tokens pattern.text.toList) text.toList

def detail (pattern : LikePattern) : String :=
  Labelled.line ⟨"LikePattern", [
    ("pattern", quoted pattern.text),
    ("regex", enclosed "Regex" (quoted (expression pattern.text)))]⟩

theorem isMatch_iff {pattern : LikePattern} {text : String} :
    pattern.isMatch text ↔ Covers (tokens pattern.text.toList) text.toList :=
  covered_iff

theorem compile_eq_ok_iff {text : String} {pattern : LikePattern} :
    compile text = .ok pattern ↔ pattern.text = text := by
  unfold compile
  constructor
  · split <;> intro h <;> cases h
    rfl
  · rintro rfl
    exact dif_pos pattern.fits

end LikePattern

/-- Whether `pattern` covers the whole of `text`, unless the pattern is refused. -/
def like (text pattern : String) : Result Bool :=
  return (← LikePattern.compile pattern).isMatch text

/-- The opposite of `like`; a refusal stays a refusal. -/
def notLike (text pattern : String) : Result Bool :=
  return !(← like text pattern)

end RecordQuery
