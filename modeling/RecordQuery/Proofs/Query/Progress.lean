import RecordQuery.Proofs.Query.Interleaving
import RecordQuery.Proofs.Query.Sources

/-!
# How far a cursor has come

A cursor that is asked for its next row examines the records from where it stands, up to the first
that is not rejected (`next_of_rejects`, `next_of_skipped`). So `n` calls examine the records up to
the `n`-th that is not rejected, or all of them (`examined`), and the number of those that are left
is all that the cursor says of the rows to come. `next_keeps_count` says of every position that
calls of `next` lead to what this number bounds, how the next call lowers it, and when there is no
next row.
-/

namespace RecordQuery

variable {α : Type u} {ρ : Type v} {query : Query α ρ} {record : α} {records skipped : List α}
  {row : Result ρ}

/-! ## The records behind a number of rows -/

namespace Query

/-- All of the records are rejected, and none of them fails. -/
def RejectsAll (query : Query α ρ) (records : List α) : Prop :=
  ∀ record ∈ records, query.accepts record = .ok false

theorem rejectsAll_nil : query.RejectsAll [] := by simp [RejectsAll]

theorem rejectsAll_cons :
    query.RejectsAll (record :: records) ↔
      query.outcome record = none ∧ query.RejectsAll records := by
  simp [RejectsAll, outcome_eq_none_iff]

theorem rejectsAll_or_first_row (query : Query α ρ) (records : List α) :
    query.RejectsAll records ∨
      ∃ skipped record unread row, records = skipped ++ record :: unread ∧
        query.RejectsAll skipped ∧ query.outcome record = some row := by
  induction records with
  | nil => exact .inl rejectsAll_nil
  | cons record records ih =>
    cases ho : query.outcome record with
    | some row => exact .inr ⟨[], record, records, row, rfl, rejectsAll_nil, ho⟩
    | none =>
      rcases ih with h | ⟨skipped, first, unread, row, rfl, h, hfirst⟩
      · exact .inl (rejectsAll_cons.2 ⟨ho, h⟩)
      · exact .inr
          ⟨record :: skipped, first, unread, row, rfl, rejectsAll_cons.2 ⟨ho, h⟩, hfirst⟩

/-- The records that `n` calls of `next` examine: up to the `n`-th that is not rejected, or all if
there are fewer. -/
def examined (query : Query α ρ) : Nat → List α → List α
  | 0, _ => []
  | _ + 1, [] => []
  | n + 1, record :: records =>
    record :: match query.accepts record with
      | .ok false => query.examined (n + 1) records
      | _ => query.examined n records

@[simp] theorem examined_zero (records : List α) : query.examined 0 records = [] := by
  cases records <;> rfl

@[simp] theorem examined_nil (n : Nat) : query.examined n [] = [] := by
  cases n <;> rfl

theorem examined_skipped (h : query.RejectsAll skipped) (n : Nat) (records : List α) :
    query.examined (n + 1) (skipped ++ records) = skipped ++ query.examined (n + 1) records := by
  induction skipped with
  | nil => rfl
  | cons record skipped ih =>
    rw [rejectsAll_cons, outcome_eq_none_iff] at h
    rw [List.cons_append, examined, h.1, ih h.2]
    rfl

theorem examined_cons_of_outcome_some (h : query.outcome record = some row) (n : Nat)
    (records : List α) :
    query.examined (n + 1) (record :: records) = record :: query.examined n records := by
  have hanswer : query.accepts record ≠ .ok false := by
    rw [ne_eq, ← outcome_eq_none_iff, h]
    simp
  rw [examined]
  split
  · contradiction
  · rfl

end Query

/-! ## One call of `next` -/

namespace Rows

open Query (rejectsAll_cons)

theorem next_of_rejects (h : query.RejectsAll records) :
    next ⟨query, records⟩ = (none, ⟨query, []⟩) := by
  induction records with
  | nil => rfl
  | cons record records ih =>
    rw [rejectsAll_cons] at h
    rw [next_of_outcome_none h.1, ih h.2]

theorem next_of_skipped (h : query.RejectsAll skipped) (ho : query.outcome record = some row)
    (unread : List α) :
    next ⟨query, skipped ++ record :: unread⟩ = (some row, ⟨query, unread⟩) := by
  rw [next_append, next_of_rejects h]
  exact next_of_outcome_some ho

theorem next_eq_none_iff : (next ⟨query, records⟩).1 = none ↔ query.RejectsAll records := by
  constructor
  · intro hnone
    rcases query.rejectsAll_or_first_row records with
      h | ⟨skipped, record, unread, row, rfl, h, ho⟩
    · exact h
    · simp [next_of_skipped h ho] at hnone
  · intro h
    rw [next_of_rejects h]

theorem after_nil (query : Query α ρ) (n : Nat) :
    after ⟨query, []⟩ (.replicate n .next) = ⟨query, []⟩ := by
  induction n with
  | zero => rfl
  | succ n ih => exact ih

/-! ## Any number of calls -/

theorem exists_ahead (query : Query α ρ) (n : Nat) (records : List α) :
    ∃ ahead, records = query.examined n records ++ ahead ∧
      after ⟨query, records⟩ (.replicate n .next) = ⟨query, ahead⟩ := by
  induction n generalizing records with
  | zero => exact ⟨records, by simp, rfl⟩
  | succ n ih =>
    rcases query.rejectsAll_or_first_row records with
      h | ⟨skipped, record, unread, row, rfl, h, ho⟩
    · refine ⟨[], ?_, ?_⟩
      · simpa using (Query.examined_skipped h n []).symm
      · rw [List.replicate_succ, after]
        show after (next _).2 _ = _
        rw [next_of_rejects h, after_nil]
    · obtain ⟨ahead, hahead, hafter⟩ := ih unread
      refine ⟨ahead, ?_, ?_⟩
      · rw [Query.examined_skipped h, Query.examined_cons_of_outcome_some ho, List.append_assoc,
          List.cons_append, ← hahead]
      · rw [List.replicate_succ, after]
        show after (next _).2 _ = _
        rw [next_of_skipped h ho, hafter]

/-- What a cursor says of the rows to come and what comes, with the records `ahead` of it still to
be examined. -/
structure KeepsCount (rows : Rows α ρ) (ahead : List α) : Prop where
  sizeHint : rows.sizeHint = (0, some ahead.length)
  length_le : rows.toList.length ≤ ahead.length
  /-- A row lowers the count by one and by the records in front of it, which are rejected. -/
  row : ∀ row rest, rows.next = (some row, rest) →
    ∃ skipped record unread, ahead = skipped ++ record :: unread ∧
      rows.query.RejectsAll skipped ∧ rows.query.outcome record = some row ∧
      ∃ u, rest.sizeHint = (0, some u) ∧ ahead.length = u + (1 + skipped.length)
  none_iff : rows.next.1 = none ↔ rows.query.RejectsAll ahead
  /-- Behind the last row there is nothing any more, however often the cursor is asked. -/
  ended : rows.next.1 = none → ∀ n, let later := rows.next.2.after (.replicate n .next)
    later.sizeHint = (0, some 0) ∧ later.next.1 = none

theorem keepsCount (query : Query α ρ) (ahead : List α) :
    KeepsCount ⟨query, ahead⟩ ahead where
  sizeHint := rfl
  length_le := by
    rw [toList_eq]
    exact List.length_filterMap_le query.outcome ahead
  row row rest hnext := by
    rcases query.rejectsAll_or_first_row ahead with
      h | ⟨skipped, record, unread, row', rfl, h, ho⟩
    · rw [next_of_rejects h] at hnext
      cases hnext
    · rw [next_of_skipped h ho] at hnext
      cases hnext
      refine ⟨skipped, record, unread, rfl, h, ho, unread.length, rfl, ?_⟩
      rw [List.length_append, List.length_cons]
      omega
  none_iff := next_eq_none_iff
  ended hnone n := by
    rw [next_of_rejects (next_eq_none_iff.1 hnone), after_nil]
    exact ⟨rfl, rfl⟩

end Rows

/-- **A cursor keeps count.** Wherever calls of `next` lead to, the source is parted into the
records that they have examined, whose rows they have handed over, and those ahead. The number of
records ahead is what the cursor gives as the greatest number of rows to come, and there come no
more; a row lowers it by one and by the records that are skipped for it; there is no next row
exactly if all records ahead are rejected, and then the number is zero and there is never a next row
again. -/
theorem Query.next_keeps_count (query : Query α ρ) (n : Nat) :
    let calls := List.replicate n Move.next
    ∃ ahead, query.source = query.examined n query.source ++ ahead ∧
      (query.rows.answers calls).flatMap Answer.handed =
        (query.examined n query.source).filterMap query.outcome ∧
      (query.rows.after calls).KeepsCount ahead := by
  intro calls
  obtain ⟨ahead, hsource, hafter⟩ := Rows.exists_ahead query n query.source
  change query.rows.after calls = ⟨query, ahead⟩ at hafter
  refine ⟨ahead, hsource, ?_, ?_⟩
  · -- what was handed over and what is to come are the outcomes of the two parts
    rw [← List.append_left_inj (ahead.filterMap query.outcome), ← List.filterMap_append,
      ← hsource,
      ← query.toList_rows, ← query.rows.handed_answers_append calls, hafter, Rows.toList_eq]
  · rw [hafter]
    exact Rows.keepsCount query ahead

/-- The second row is a failure behind a record that is skipped, and a record is left that is
skipped as well. -/
theorem Query.next_keeps_count_quotients :
    let query := ((ofSource [3, 4, 3, 0, 3]).filter (· ≠ 3)).trySelect fun n =>
      if n = 0 then .error (.divisionByZero "div") else .ok (60 / n)
    let rows (n : Nat) := query.rows.after (.replicate n .next)
    query.examined 1 query.source = [3, 4] ∧ (rows 1).sizeHint = (0, some 3) ∧
      (rows 1).next = (some (.error (.divisionByZero "div")), rows 2) ∧
      (∃ skipped record unread,
        [3, 0, 3] = skipped ++ record :: unread ∧ query.RejectsAll skipped ∧
        query.outcome record = some (.error (.divisionByZero "div")) ∧
        ∃ u, (rows 2).sizeHint = (0, some u) ∧ 3 = u + (1 + skipped.length)) ∧
      (rows 2).next.1 = none ∧
      ∀ n, let later := (rows 2).next.2.after (.replicate n .next)
        later.sizeHint = (0, some 0) ∧ later.next.1 = none := by
  intro query rows
  have hkeeps (n : Nat) (ahead : List Nat)
      (h : query.source = query.examined n query.source ++ ahead) :
      (rows n).KeepsCount ahead := by
    obtain ⟨ahead', hsource, -, hkeeps⟩ := next_keeps_count query n
    rwa [List.append_cancel_left (h.symm.trans hsource)]
  have hfirst : (rows 1).KeepsCount [3, 0, 3] := hkeeps 1 [3, 0, 3] rfl
  have hsecond : (rows 2).KeepsCount [3] := hkeeps 2 [3] rfl
  have hnext : (rows 1).next = (some (.error (.divisionByZero "div")), rows 2) := rfl
  have hend : (rows 2).next.1 = none := rfl
  exact ⟨rfl, hfirst.sizeHint, hnext, hfirst.row _ _ hnext, hend, hsecond.ended hend⟩

end RecordQuery
