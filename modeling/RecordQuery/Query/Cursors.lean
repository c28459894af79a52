import RecordQuery.Query.Rows
import Std.Data.TreeMap

/-!
# Several cursors over one query

Any number of cursors, known by numbers, read the rows of one query, each at its own pace. A cursor
is opened by the first move that is addressed to it. A move acts on its own cursor only
(`rowsOf_move_of_ne`).
-/

namespace RecordQuery

inductive Move
  /-- The next row. -/
  | next
  /-- How many rows may be left. -/
  | sizeHint
  /-- All rows that are left. -/
  | rest
  deriving DecidableEq, Repr

inductive Answer (ρ : Type v)
  | row (row : Option (Result ρ))
  | bounds (least : Nat) (greatest : Option Nat)
  | rows (rows : List (Result ρ))

variable {α : Type u} {ρ : Type v}

/-- One move of a cursor: its answer, and where the cursor stands afterwards. -/
def Rows.move (rows : Rows α ρ) : Move → Answer ρ × Rows α ρ
  | .next =>
    let (row, rest) := rows.next
    (.row row, rest)
  | .sizeHint =>
    let (least, greatest) := rows.sizeHint
    (.bounds least greatest, rows)
  | .rest => (.rows rows.toList, ⟨rows.query, []⟩)

/-- The cursors that have been opened on a query. -/
structure Cursors (α : Type u) (ρ : Type v) where
  query : Query α ρ
  opened : Std.TreeMap Nat (Rows α ρ)

namespace Cursors

def ofQuery (query : Query α ρ) : Cursors α ρ := ⟨query, ∅⟩

/-- Where a cursor stands; one that is not open yet stands at the start. -/
def rowsOf (cursors : Cursors α ρ) (cursor : Nat) : Rows α ρ :=
  cursors.opened.getD cursor cursors.query.rows

/-- Addresses a move to a cursor. -/
def move (cursors : Cursors α ρ) (m : Move) (cursor : Nat) : Answer ρ × Cursors α ρ :=
  let (answer, rows) := (cursors.rowsOf cursor).move m
  (answer, ⟨cursors.query, cursors.opened.insert cursor rows⟩)

/-- The answers to a sequence of moves, each addressed to a cursor. -/
def answers (cursors : Cursors α ρ) : List (Move × Nat) → List (Answer ρ)
  | [] => []
  | (m, cursor) :: moves =>
    let (answer, after) := cursors.move m cursor
    answer :: after.answers moves

@[simp] theorem rowsOf_ofQuery (query : Query α ρ) (cursor : Nat) :
    (ofQuery query).rowsOf cursor = query.rows :=
  Std.TreeMap.getD_emptyc

@[simp] theorem rowsOf_move_self (cursors : Cursors α ρ) (m : Move) (cursor : Nat) :
    (cursors.move m cursor).2.rowsOf cursor = ((cursors.rowsOf cursor).move m).2 :=
  Std.TreeMap.getD_insert_self

theorem rowsOf_move_of_ne (cursors : Cursors α ρ) (m : Move) {cursor other : Nat}
    (h : cursor ≠ other) : (cursors.move m cursor).2.rowsOf other = cursors.rowsOf other := by
  simp [move, rowsOf, Std.TreeMap.getD_insert, h]

end Cursors

/-- The answers of the cursors of a query, none of them opened before. -/
def Query.answers (query : Query α ρ) (moves : List (Move × Nat)) : List (Answer ρ) :=
  (Cursors.ofQuery query).answers moves

end RecordQuery
