import RecordQuery.Like.Token

/-!
# The pieces of a pattern

The wildcards cut a pattern into pieces, one more than there are wildcards. A text that the pattern
covers is made of the pieces in their order with a run of characters at each wildcard, which is
what `interleave` puts together.
-/

namespace RecordQuery.Like

/-- The stretches of a pattern before, between and after its wildcards. -/
def pieces (pattern : List Char) : List (List Char) := pattern.splitOn wildcardChar

/-- The pieces with the runs between them: a piece, a run, the next piece, and so on. -/
def interleave : List (List Char) → List (List Char) → List Char
  | [], _ => []
  | piece :: _, [] => piece
  | piece :: pieces, run :: runs => piece ++ run ++ interleave pieces runs

@[simp] theorem pieces_nil : pieces [] = [[]] := rfl

theorem pieces_ne_nil (pattern : List Char) : pieces pattern ≠ [] :=
  List.splitOn_ne_nil wildcardChar pattern

@[simp] theorem pieces_cons_wildcardChar (pattern : List Char) :
    pieces (wildcardChar :: pattern) = [] :: pieces pattern := by
  simp [pieces, List.splitOn_cons_eq_if_modifyHead]

theorem pieces_cons_of_ne {c : Char} (h : c ≠ wildcardChar) (pattern : List Char) :
    pieces (c :: pattern) = (pieces pattern).modifyHead (c :: ·) := by
  simp [pieces, List.splitOn_cons_eq_if_modifyHead, h]

theorem pieces_of_not_mem {pattern : List Char} (h : wildcardChar ∉ pattern) :
    pieces pattern = [pattern] :=
  List.splitOn_eq_singleton h

theorem exists_pieces_eq_of_mem {pattern : List Char} (h : wildcardChar ∈ pattern) :
    ∃ first next ps, pieces pattern = first :: next :: ps := by
  obtain ⟨front, back, rfl⟩ := List.append_of_mem h
  obtain ⟨first, ps, hf⟩ := List.exists_cons_of_ne_nil (pieces_ne_nil front)
  obtain ⟨next, qs, hb⟩ := List.exists_cons_of_ne_nil (pieces_ne_nil back)
  have hs : pieces (front ++ wildcardChar :: back) = pieces front ++ pieces back :=
    List.splitOn_append_cons_self front back
  rw [hs, hf, hb]
  cases ps with
  | nil => exact ⟨first, next, qs, rfl⟩
  | cons second ps => exact ⟨first, second, ps ++ next :: qs, rfl⟩

end RecordQuery.Like
