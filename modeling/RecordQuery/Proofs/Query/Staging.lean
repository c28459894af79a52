import RecordQuery.Proofs.Query.Execution

/-!
# Queries in two stages

A query with many filters can be run in two stages: the first filters in a query of their own, the
other filters and the projection in a query over its results. `toList_staged` takes the rows of the
one query from those of the first stage, row by row. If the first stage succeeds, the two stages are
as good as the one query; if it fails, the one query fails on that record or before
(`execute_staged`).
-/

namespace RecordQuery.Query

variable {α : Type u} {ρ : Type v}

/-! ## The query with given filters -/

/-- The query to which the filters are added in their order. -/
def ofFilters (source : List α) (filters : List (α → Result Bool)) : Query α α :=
  filters.foldl tryFilter (ofSource source)

theorem foldl_tryFilter_eq (filters : List (α → Result Bool)) (query : Query α ρ) :
    filters.foldl tryFilter query = { query with filters := query.filters ++ filters } := by
  induction filters generalizing query with
  | nil => simp
  | cons test filters ih => rw [List.foldl_cons, ih]; simp [tryFilter]

theorem ofFilters_eq (source : List α) (filters : List (α → Result Bool)) :
    ofFilters source filters = ⟨source, filters, .ok, false⟩ :=
  foldl_tryFilter_eq filters (ofSource source)

@[simp] theorem source_ofFilters (source : List α) (filters : List (α → Result Bool)) :
    (ofFilters source filters).source = source := by
  rw [ofFilters_eq]

@[simp] theorem filters_ofFilters (source : List α) (filters : List (α → Result Bool)) :
    (ofFilters source filters).filters = filters := by
  rw [ofFilters_eq]

@[simp] theorem projection_ofFilters (source : List α) (filters : List (α → Result Bool)) :
    (ofFilters source filters).projection = .ok := by
  rw [ofFilters_eq]

/-! ## One record in two stages -/

variable (source source' : List α) {filters later : List (α → Result Bool)}
  {projection : α → Result ρ} {record : α}

theorem accepts_ofFilters_append :
    (ofFilters source (filters ++ later)).accepts record =
      match (ofFilters source filters).accepts record with
      | .ok true => (ofFilters source' later).accepts record
      | answer => answer := by
  simp only [accepts, filters_ofFilters]
  exact allM_append filters later record

/-- What a query makes of a row of an earlier stage: failures are passed on. -/
def outcomeOfRow (query : Query α ρ) : Result α → Option (Result ρ)
  | .ok record => query.outcome record
  | .error e => some (.error e)

/-- A record in one query is a row of the first stage in the second. -/
theorem outcome_staged :
    ((ofFilters source (filters ++ later)).trySelect projection).outcome record =
      ((ofFilters source filters).outcome record).bind
        ((ofFilters source' later).trySelect projection).outcomeOfRow := by
  have happend : ((ofFilters source (filters ++ later)).trySelect projection).accepts record = _ :=
    accepts_ofFilters_append source source'
  rcases hanswer : (ofFilters source filters).accepts record with e | _ | _ <;>
    rw [hanswer] at happend
  · rw [outcome_of_error hanswer, outcome_of_error happend]
    rfl
  · rw [outcome_of_rejects hanswer, outcome_of_rejects happend]
    rfl
  · rw [outcome_of_accepts hanswer, projection_ofFilters]
    show outcome _ record = outcome _ record
    rw [outcome, happend, outcome, accepts_trySelect]
    rfl

/-! ## All records in two stages -/

theorem toList_staged :
    ((ofFilters source (filters ++ later)).trySelect projection).rows.toList =
      (ofFilters source filters).rows.toList.filterMap
        ((ofFilters source' later).trySelect projection).outcomeOfRow := by
  rw [toList_rows, toList_rows, List.filterMap_filterMap, source_trySelect, source_ofFilters,
    source_ofFilters]
  congr 1
  funext record
  exact outcome_staged source source'

theorem toList_staged_of_ok {source items : List α}
    (h : (ofFilters source filters).execute = .ok items) :
    ((ofFilters source (filters ++ later)).trySelect projection).rows.toList =
      ((ofFilters items later).trySelect projection).rows.toList := by
  rw [toList_staged source items, execute_eq_ok_iff.1 h, List.filterMap_map, toList_rows,
    source_trySelect, source_ofFilters]
  rfl

theorem failsWith_ofFilters_iff {source : List α} {e : QueryError} :
    FailsWith (ofFilters source filters).filters (ofFilters source filters).projection record e ↔
      StopsWith filters record (.error e) := by
  simp [FailsWith]

theorem outcome_staged_of_stopsWith {source : List α} {e : QueryError}
    (h : StopsWith filters record (.error e)) :
    ((ofFilters source (filters ++ later)).trySelect projection).outcome record =
      some (.error e) := by
  have hfirst : (ofFilters source filters).outcome record = some (.error e) :=
    outcome_eq_error_iff.2 (failsWith_ofFilters_iff.2 h)
  rw [outcome_staged source source, hfirst]
  rfl

theorem toList_rows_append (source source' : List α) (filters : List (α → Result Bool))
    (projection : α → Result ρ) :
    ((ofFilters (source ++ source') filters).trySelect projection).rows.toList =
      ((ofFilters source filters).trySelect projection).rows.toList ++
        ((ofFilters source' filters).trySelect projection).rows.toList := by
  simp only [toList_rows, ofFilters_eq]
  exact List.filterMap_append

/-- Up to a record that fails in the first stage the one query is the query over the records before,
and there it fails if it has not failed yet. -/
theorem execute_staged_of_stopsWith (before after : List α) (later : List (α → Result Bool))
    (projection : α → Result ρ) {e : QueryError} (h : StopsWith filters record (.error e)) :
    let whole (source : List α) := (ofFilters source (filters ++ later)).trySelect projection
    (∀ items, (whole before).execute = .ok items →
      (whole (before ++ record :: after)).execute = .error e) ∧
    (∀ e', (whole before).execute = .error e' →
      (whole (before ++ record :: after)).execute = .error e') := by
  intro whole
  obtain ⟨rest, hfails⟩ :
      ∃ rest, (whole (record :: after)).rows.toList = .error e :: rest := by
    rw [toList_rows, source_trySelect, source_ofFilters,
      List.filterMap_cons_some (outcome_staged_of_stopsWith h)]
    exact ⟨_, rfl⟩
  have hrows : (whole (before ++ record :: after)).rows.toList =
      (whole before).rows.toList ++ .error e :: rest := by
    rw [← hfails]
    exact toList_rows_append before (record :: after) (filters ++ later) projection
  constructor
  · intro items hitems
    refine execute_eq_error_iff.2 ⟨items, rest, ?_⟩
    rw [hrows, execute_eq_ok_iff.1 hitems]
  · intro e' he'
    obtain ⟨items, rest', hfirst⟩ := execute_eq_error_iff.1 he'
    refine execute_eq_error_iff.2 ⟨items, rest' ++ .error e :: rest, ?_⟩
    rw [hrows, hfirst, List.append_assoc, List.cons_append]

/-- **Two stages are as good as one query.** If the first filters alone succeed, the query with all
filters and the projection has the rows and the result of the query that goes on from their results.
If they fail, it fails too: with the failure of the query over the records before the failing one,
if there is any, and else with the failure of the first filters. -/
theorem execute_staged (source : List α) (filters later : List (α → Result Bool))
    (projection : α → Result ρ) :
    let whole (source : List α) := (ofFilters source (filters ++ later)).trySelect projection
    (∀ items, (ofFilters source filters).execute = .ok items →
      (whole source).rows.toList = ((ofFilters items later).trySelect projection).rows.toList ∧
        (whole source).execute = ((ofFilters items later).trySelect projection).execute) ∧
    (∀ e, (ofFilters source filters).execute = .error e →
      ∃ before record after, source = before ++ record :: after ∧
        (∀ earlier ∈ before, ∀ e', ¬ StopsWith filters earlier (.error e')) ∧
        StopsWith filters record (.error e) ∧
        (∀ results,
          (whole before).execute = .ok results → (whole source).execute = .error e) ∧
        (∀ e', (whole before).execute = .error e' → (whole source).execute = .error e')) := by
  intro whole
  constructor
  · intro items hitems
    have hrows : (whole source).rows.toList =
        ((ofFilters items later).trySelect projection).rows.toList := toList_staged_of_ok hitems
    exact ⟨hrows, execute_eq_of_toList_eq hrows⟩
  · intro e he
    obtain ⟨before, record, after, hsource, hbefore, hfails⟩ :=
      execute_eq_error_iff_failsWith.1 he
    simp only [failsWith_ofFilters_iff] at hbefore hfails
    obtain rfl : source = before ++ record :: after := by rw [← hsource, source_ofFilters]
    exact ⟨before, record, after, rfl, hbefore, hfails,
      execute_staged_of_stopsWith before after later projection hfails⟩

/-- A first stage without failures, and one that fails behind a record on which the projection
does. -/
theorem execute_staged_quotients :
    let filters : List (Nat → Result Bool) :=
      [fun n => if n = 0 then .error (.divisionByZero "rem") else .ok (n ≠ 3)]
    let later : List (Nat → Result Bool) := [fun n => .ok (n < 9)]
    let projection : Nat → Result Nat := fun n =>
      if n = 5 then .error (.overflow "mul") else .ok (60 / n)
    let whole (source : List Nat) := (ofFilters source (filters ++ later)).trySelect projection
    (ofFilters [2, 3, 5, 12] filters).execute = .ok [2, 5, 12] ∧
      (whole [2, 3, 5, 12]).rows.toList =
        ((ofFilters [2, 5, 12] later).trySelect projection).rows.toList ∧
      (ofFilters [2, 5, 0] filters).execute = .error (.divisionByZero "rem") ∧
      ∃ before record after, [2, 5, 0] = before ++ record :: after ∧
        (∀ earlier ∈ before, ∀ e', ¬ StopsWith filters earlier (.error e')) ∧
        StopsWith filters record (.error (.divisionByZero "rem")) ∧
        (∀ results, (whole before).execute = .ok results →
          (whole [2, 5, 0]).execute = .error (.divisionByZero "rem")) ∧
        (∀ e', (whole before).execute = .error e' → (whole [2, 5, 0]).execute = .error e') := by
  intro filters later projection whole
  have hok : (ofFilters [2, 3, 5, 12] filters).execute = .ok [2, 5, 12] := by
    rw [execute_eq_mapM, toList_rows]
    rfl
  have herror : (ofFilters [2, 5, 0] filters).execute = .error (.divisionByZero "rem") := by
    rw [execute_eq_mapM, toList_rows]
    rfl
  exact ⟨hok, ((execute_staged [2, 3, 5, 12] filters later projection).1 _ hok).1, herror,
    (execute_staged [2, 5, 0] filters later projection).2 _ herror⟩

end RecordQuery.Query
