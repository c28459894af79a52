import RecordQuery.Query.Cursors

/-!
# Cursors that are read in turns

Each cursor keeps its own place in the rows, so the moves of the others do not show in its answers
(`answersOf_eq`). What a single cursor has handed over and what it still has to come are the rows it
started from (`handed_answers_append`), whatever moves it was asked for. `answersOf_independent`
puts the two together for any number of cursors on one query.
-/

namespace RecordQuery

variable {α : Type u} {ρ : Type v}

/-! ## One cursor -/

def Answer.handed : Answer ρ → List (Result ρ)
  | .row next => next.toList
  | .bounds _ _ => []
  | .rows rest => rest

namespace Rows

variable {rows : Rows α ρ}

/-- The answers of a cursor to moves that are all addressed to it. -/
def answers (rows : Rows α ρ) : List Move → List (Answer ρ)
  | [] => []
  | m :: moves => (rows.move m).1 :: (rows.move m).2.answers moves

def after (rows : Rows α ρ) : List Move → Rows α ρ
  | [] => rows
  | m :: moves => (rows.move m).2.after moves

/-- A move hands over rows from the front of those to come and keeps the others. -/
theorem handed_move_append (rows : Rows α ρ) (m : Move) :
    (rows.move m).1.handed ++ (rows.move m).2.toList = rows.toList := by
  cases m with
  | next =>
    cases h : rows.next with
    | mk first rest =>
      simp only [move, h, Answer.handed]
      cases first with
      | none => rw [eq_of_next_none h, toList_of_next_none h, toList_nil]; rfl
      | some row => rw [toList_of_next_some h]; rfl
  | sizeHint => rfl
  | rest => simp [move, Answer.handed]

theorem handed_answers_append (rows : Rows α ρ) (moves : List Move) :
    (rows.answers moves).flatMap Answer.handed ++ (rows.after moves).toList = rows.toList := by
  induction moves generalizing rows with
  | nil => rfl
  | cons m moves ih =>
    rw [answers, after, List.flatMap_cons, List.append_assoc, ih, handed_move_append]

theorem toList_after_of_nil (h : rows.toList = []) (moves : List Move) :
    (rows.after moves).toList = [] := by
  have hall := handed_answers_append rows moves
  rw [h] at hall
  exact (List.append_eq_nil_iff.1 hall).2

theorem toList_move_of_last {m : Move} (h : (rows.move m).1 = .row none ∨ m = .rest) :
    (rows.move m).2.toList = [] := by
  cases m with
  | next =>
    cases hn : rows.next with
    | mk first rest =>
      simp only [move, hn, Answer.row.injEq, reduceCtorEq, or_false] at h ⊢
      rw [h] at hn
      rw [eq_of_next_none hn, toList_nil]
  | sizeHint => simp [move] at h
  | rest => simp [move]

theorem toList_after_of_last {moves : List Move}
    (h : .row none ∈ rows.answers moves ∨ .rest ∈ moves) :
    (rows.after moves).toList = [] := by
  induction moves generalizing rows with
  | nil => simp [answers] at h
  | cons m moves ih =>
    rw [after]
    by_cases hm : (rows.move m).1 = .row none ∨ m = .rest
    · exact toList_after_of_nil (toList_move_of_last hm) moves
    · -- the cursor has not come to its end yet, so it does in the later moves
      apply ih
      simp only [answers, List.mem_cons] at h
      rcases h with (h | h) | h | h
      · exact absurd (.inl h.symm) hm
      · exact .inl h
      · exact absurd (.inr h.symm) hm
      · exact .inr h

end Rows

/-! ## Many cursors -/

namespace Cursors

/-- The answers that one of the cursors gives among those of all. -/
def answersOf (cursors : Cursors α ρ) (cursor : Nat) (moves : List (Move × Nat)) :
    List (Answer ρ) :=
  ((moves.zip (cursors.answers moves)).filter (·.1.2 == cursor)).map (·.2)

theorem length_answers (cursors : Cursors α ρ) (moves : List (Move × Nat)) :
    (cursors.answers moves).length = moves.length := by
  induction moves generalizing cursors with
  | nil => rfl
  | cons m moves ih => simp [answers, ih]

theorem answersOf_cons_self (cursors : Cursors α ρ) (cursor : Nat) (m : Move)
    (moves : List (Move × Nat)) :
    cursors.answersOf cursor ((m, cursor) :: moves) =
      ((cursors.rowsOf cursor).move m).1 :: (cursors.move m cursor).2.answersOf cursor moves := by
  simp [answersOf, answers, move]

theorem answersOf_cons_of_ne (cursors : Cursors α ρ) {cursor other : Nat} (h : other ≠ cursor)
    (m : Move) (moves : List (Move × Nat)) :
    cursors.answersOf cursor ((m, other) :: moves) =
      (cursors.move m other).2.answersOf cursor moves := by
  simp [answersOf, answers, h]

/-- A cursor answers from its own place, whatever the others are asked for. -/
theorem answersOf_eq (cursors : Cursors α ρ) (cursor : Nat) (moves : List (Move × Nat)) :
    cursors.answersOf cursor moves =
      (cursors.rowsOf cursor).answers ((moves.filter (·.2 == cursor)).map (·.1)) := by
  induction moves generalizing cursors with
  | nil => rfl
  | cons move moves ih =>
    obtain ⟨m, other⟩ := move
    by_cases h : other = cursor
    · subst h
      rw [answersOf_cons_self, ih, rowsOf_move_self, List.filter_cons_of_pos (by simp)]
      rfl
    · rw [answersOf_cons_of_ne cursors h, ih, rowsOf_move_of_ne cursors m h,
        List.filter_cons_of_neg (by simpa using h)]

theorem answers_of_own (cursors : Cursors α ρ) {cursor : Nat} {moves : List (Move × Nat)}
    (h : ∀ move ∈ moves, move.2 = cursor) :
    cursors.answers moves = (cursors.rowsOf cursor).answers (moves.map (·.1)) := by
  induction moves generalizing cursors with
  | nil => rfl
  | cons move moves ih =>
    obtain ⟨m, other⟩ := move
    obtain rfl : other = cursor := h (m, other) List.mem_cons_self
    have hlater := fun later hlater => h later (List.mem_cons_of_mem _ hlater)
    show _ :: (cursors.move m other).2.answers moves = _ :: Rows.answers _ _
    rw [ih _ hlater, rowsOf_move_self]
    rfl

end Cursors

namespace Query

/-- The answers that one of the cursors on a query gives, none of them opened before. -/
def answersOf (query : Query α ρ) (cursor : Nat) (moves : List (Move × Nat)) :
    List (Answer ρ) :=
  (Cursors.ofQuery query).answersOf cursor moves

/-- **Cursors do not disturb each other.** Each of them answers as if only its own moves were made.
The rows that it hands over are the first of the rows of the query, and all of them as soon as it
has found no next row or was asked for the rest. -/
theorem answersOf_independent (query : Query α ρ) (moves : List (Move × Nat)) (cursor : Nat) :
    (query.answers moves).length = moves.length ∧
    query.answersOf cursor moves = query.answers (moves.filter (·.2 == cursor)) ∧
    (query.answersOf cursor moves).flatMap Answer.handed <+: query.rows.toList ∧
    (.row none ∈ query.answersOf cursor moves ∨ (.rest, cursor) ∈ moves →
      (query.answersOf cursor moves).flatMap Answer.handed = query.rows.toList) := by
  have hrows : query.answersOf cursor moves =
      query.rows.answers ((moves.filter (·.2 == cursor)).map (·.1)) := by
    rw [answersOf, Cursors.answersOf_eq, Cursors.rowsOf_ofQuery]
  have hall := query.rows.handed_answers_append ((moves.filter (·.2 == cursor)).map (·.1))
  refine ⟨Cursors.length_answers _ _, ?_, ?_, ?_⟩
  · have hown : ∀ move ∈ moves.filter (·.2 == cursor), move.2 = cursor := by simp
    rw [hrows, answers, Cursors.answers_of_own _ hown, Cursors.rowsOf_ofQuery]
  · rw [hrows]
    exact ⟨_, hall⟩
  · intro hlast
    rw [hrows] at hlast ⊢
    rw [Rows.toList_after_of_last (hlast.imp_right (by simp)), List.append_nil] at hall
    exact hall

/-- Two cursors that meet a failure at different times, one read to its end and one drained. -/
theorem answersOf_independent_quotients :
    let query := ((ofSource [4, 0, 3, 6]).filter (· ≠ 3)).trySelect fun n =>
      if n = 0 then .error (.divisionByZero "div") else .ok (60 / n)
    let moves : List (Move × Nat) :=
      [(.next, 0), (.next, 1), (.next, 0), (.sizeHint, 1), (.next, 0), (.rest, 1), (.next, 0)]
    .row none ∈ query.answersOf 0 moves ∧ (.rest, 1) ∈ moves ∧
      (query.answersOf 0 moves).flatMap Answer.handed = query.rows.toList ∧
      (query.answersOf 1 moves).flatMap Answer.handed = query.rows.toList := by
  intro query moves
  have hanswers : query.answersOf 0 moves = [.row (some (.ok 15)),
      .row (some (.error (.divisionByZero "div"))), .row (some (.ok 10)), .row none] := by
    rw [answersOf, Cursors.answersOf_eq, Cursors.rowsOf_ofQuery]
    rfl
  have hend : .row none ∈ query.answersOf 0 moves := by simp [hanswers]
  have hrest : (.rest, 1) ∈ moves := by decide
  exact ⟨hend, hrest, (answersOf_independent query moves 0).2.2.2 (.inl hend),
    (answersOf_independent query moves 1).2.2.2 (.inr hrest)⟩

end Query

end RecordQuery
