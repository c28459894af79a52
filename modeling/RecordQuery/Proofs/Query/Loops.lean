import RecordQuery.Proofs.Query.Execution

/-!
# Loops over a query

A loop over a query reads its rows one by one and may be left at any of them.
`forIn_eq_forIn_toList` says that every loop is the loop over the list of all rows, so that what it
sees and where it stops is a matter of that list. `rows_toList_and_execute` holds the four ways to
read a query against each other: record by record, row by row, in a loop left at the first failure,
and all at once.
-/

namespace RecordQuery

variable {α : Type u} {ρ : Type v}

/-! ## Loops as loops over a list -/

namespace Rows

variable {m : Type w → Type x} [Monad m] {β : Type w} {rows rest : Rows α ρ} {row : Result ρ}

theorem forIn_of_next_none (h : rows.next = (none, rest)) (state : β)
    (step : Result ρ → β → m (ForInStep β)) : forIn rows state step = pure state := by
  show Rows.forIn rows state step = pure state
  rw [Rows.forIn]
  split <;> simp_all

theorem forIn_of_next_some (h : rows.next = (some row, rest)) (state : β)
    (step : Result ρ → β → m (ForInStep β)) :
    forIn rows state step = (step row state >>= fun
      | .done state => pure state
      | .yield state => forIn rest state step) := by
  show Rows.forIn rows state step = _
  rw [Rows.forIn]
  split
  · simp_all
  · rename_i h'
    obtain ⟨hrow, rfl⟩ := Prod.mk.inj (h.symm.trans h')
    cases hrow
    rfl

theorem forIn_eq_forIn_toList (rows : Rows α ρ) (state : β)
    (step : Result ρ → β → m (ForInStep β)) :
    forIn rows state step = forIn rows.toList state step := by
  obtain ⟨query, records⟩ := rows
  induction records generalizing state with
  | nil =>
    have hn : next ⟨query, []⟩ = (none, ⟨query, []⟩) := rfl
    rw [forIn_of_next_none hn, toList_nil]
    rfl
  | cons record unread ih =>
    cases h : query.outcome record with
    | some row =>
      have hn := @next_of_outcome_some _ _ _ _ unread _ h
      rw [forIn_of_next_some hn, toList_of_next_some hn, List.forIn_cons]
      congr 1
      funext r
      cases r with
      | done state => rfl
      | yield state => exact ih state
    | none =>
      -- both sides pass over the record
      have hn := @next_of_outcome_none _ _ _ _ unread h
      have ht : toList ⟨query, record :: unread⟩ = toList ⟨query, unread⟩ := by
        rw [toList_eq, toList_eq, List.filterMap_cons_none h]
      rw [ht, ← ih]
      show Rows.forIn _ state step = Rows.forIn _ state step
      rw [Rows.forIn, Rows.forIn, hn]

end Rows

/-! ## Two loops -/

namespace Query

/-- What a loop over a query sees that goes on to the end. -/
def seen (query : Query α ρ) : List (Result ρ) := Id.run do
  let mut seen := []
  for row in query do
    seen := seen ++ [row]
  return seen

/-- What a loop over a query sees that is left at the first failure. -/
def seenToFailure (query : Query α ρ) : List (Result ρ) := Id.run do
  let mut seen := []
  for row in query do
    seen := seen ++ [row]
    if let .error _ := row then break
  return seen

/-- The rows of a list up to the first failure and with it. -/
def upToFailure (rows : List (Result ρ)) : List (Result ρ) :=
  rows.takeWhile Except.isOk ++ (rows.dropWhile Except.isOk).take 1

@[simp] theorem upToFailure_nil : upToFailure ([] : List (Result ρ)) = [] := rfl

@[simp] theorem upToFailure_cons_ok (item : ρ) (rows : List (Result ρ)) :
    upToFailure (.ok item :: rows) = .ok item :: upToFailure rows := rfl

@[simp] theorem upToFailure_cons_error (e : QueryError) (rows : List (Result ρ)) :
    upToFailure (.error e :: rows) = [.error e] := rfl

theorem upToFailure_eq_iff {rows : List (Result ρ)} {items : List ρ} {e : QueryError} :
    upToFailure rows = items.map .ok ++ [.error e] ↔
      ∃ rest, rows = items.map .ok ++ .error e :: rest := by
  induction rows generalizing items with
  | nil => simp
  | cons row rows ih =>
    cases items with
    | nil => cases row <;> simp
    | cons item items => cases row <;> simp [ih]

theorem forIn_eq_forIn_rows {m : Type w → Type x} [Monad m] {β : Type w} (query : Query α ρ)
    (state : β) (step : Result ρ → β → m (ForInStep β)) :
    forIn query state step = forIn query.rows.toList state step :=
  query.rows.forIn_eq_forIn_toList state step

def takeDown (row : Result ρ) (seen : List (Result ρ)) : Id (ForInStep (List (Result ρ))) :=
  pure (.yield (seen ++ [row]))

def takeDownToFailure (row : Result ρ) (seen : List (Result ρ)) :
    Id (ForInStep (List (Result ρ))) :=
  match row with
  | .error _ => pure (.done (seen ++ [row]))
  | .ok _ => pure (.yield (seen ++ [row]))

theorem forIn_takeDown (rows before : List (Result ρ)) :
    (forIn rows before takeDown).run = before ++ rows := by
  induction rows generalizing before with
  | nil => simp
  | cons row rows ih =>
    rw [List.forIn_cons]
    show (forIn rows (before ++ [row]) takeDown).run = _
    rw [ih, List.append_assoc, List.singleton_append]

theorem forIn_takeDownToFailure (rows before : List (Result ρ)) :
    (forIn rows before takeDownToFailure).run = before ++ upToFailure rows := by
  induction rows generalizing before with
  | nil => simp
  | cons row rows ih =>
    rw [List.forIn_cons]
    cases row with
    | error e => rfl
    | ok item =>
      show (forIn rows (before ++ [.ok item]) takeDownToFailure).run = _
      rw [ih, List.append_assoc, List.singleton_append, upToFailure_cons_ok]

theorem seen_eq (query : Query α ρ) : query.seen = query.rows.toList := by
  show (forIn query [] takeDown).run = _
  rw [forIn_eq_forIn_rows, forIn_takeDown, List.nil_append]

theorem seenToFailure_eq (query : Query α ρ) :
    query.seenToFailure = upToFailure query.rows.toList := by
  have h : query.seenToFailure = (forIn query [] takeDownToFailure).run := by
    have hstep : (fun (row : Result ρ) (seen : List (Result ρ)) => match row with
        | .error _ => (pure (.done (seen ++ [row])) : Id _)
        | _ => pure (.yield (seen ++ [row]))) = takeDownToFailure := by
      funext row seen
      cases row <;> rfl
    rw [← hstep]
    rfl
  rw [h, forIn_eq_forIn_rows, forIn_takeDownToFailure, List.nil_append]

/-! ## The ways to read a query -/

theorem toList_eq_flatMap (query : Query α ρ) :
    query.rows.toList = query.source.flatMap fun record =>
      match query.accepts record with
      | .ok true => [query.projection record]
      | .ok false => []
      | .error e => [.error e] := by
  rw [toList_rows]
  induction query.source with
  | nil => rfl
  | cons record records ih =>
    rw [List.flatMap_cons, ← ih]
    cases h : query.accepts record with
    | error e => rw [List.filterMap_cons_some (outcome_of_error h)]; rfl
    | ok answer =>
      cases answer with
      | true => rw [List.filterMap_cons_some (outcome_of_accepts h)]; rfl
      | false => rw [List.filterMap_cons_none (outcome_of_rejects h)]; rfl

theorem toList_eq_first_error_iff {query : Query α ρ} {items : List ρ} {e : QueryError} :
    (∃ rest, query.rows.toList = items.map .ok ++ .error e :: rest) ↔
      ∃ before record after, query.source = before ++ record :: after ∧
        { query with source := before }.execute = .ok items ∧
        FailsWith query.filters query.projection record e := by
  have hb : ∀ before : List α, { query with source := before }.execute = .ok items ↔
      before.filterMap query.outcome = items.map .ok := by
    intro before
    rw [execute_eq_ok_iff, toList_rows]
    rfl
  simp only [hb, toList_rows]
  exact filterMap_outcome_eq_first_error_iff

/-- **Lazy and eager reading agree.** Draining gives each record's rows in the order of the source
and goes on after failures. Executing returns the results if there is no failure among the rows and
else the first failure. A loop left at the first failure sees the rows up to it, and what it saw
before is what executing returns on the source in front of the failing record. -/
theorem rows_toList_and_execute (query : Query α ρ) :
    query.rows.toList = query.source.flatMap (fun record =>
      match query.accepts record with
      | .ok true => [query.projection record]
      | .ok false => []
      | .error e => [.error e]) ∧
    query.seen = query.rows.toList ∧
    (∀ items, query.execute = .ok items ↔ query.rows.toList = items.map .ok) ∧
    (∀ e, query.execute = .error e ↔ ∃ (items : List ρ) (rest : List (Result ρ)),
      query.rows.toList = items.map .ok ++ .error e :: rest) ∧
    query.seenToFailure = upToFailure query.rows.toList ∧
    (∀ items e, query.seenToFailure = items.map .ok ++ [.error e] ↔
      ∃ before record after, query.source = before ++ record :: after ∧
        { query with source := before }.execute = .ok items ∧
        FailsWith query.filters query.projection record e) := by
  refine ⟨toList_eq_flatMap query, seen_eq query, fun items => execute_eq_ok_iff,
    fun e => execute_eq_error_iff, seenToFailure_eq query, fun items e => ?_⟩
  rw [seenToFailure_eq, upToFailure_eq_iff, toList_eq_first_error_iff]

end Query

end RecordQuery
