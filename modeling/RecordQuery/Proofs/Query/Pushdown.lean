import RecordQuery.Proofs.Query.Execution

/-!
# Conditions on results

A condition on the results of a query can be asked of them once they are there, or of each record by
one more filter that projects the record first (`onResult`). A projection that fails then does so in
the filter, with the same failure in the same place, so that the filter takes away just the results
on which the condition does not hold (`outcome_tryFilter_onResult`). `push_condition` says so of the
rows and of the whole.
-/

namespace RecordQuery

/-- Whether a row stays under a condition on the results: every failure does. -/
def staysUnder {ρ : Type v} (condition : ρ → Bool) : Result ρ → Bool
  | .ok item => condition item
  | .error _ => true

theorem mapM_id_filter {ρ : Type v} (condition : ρ → Bool) (rows : List (Result ρ)) :
    (rows.filter (staysUnder condition)).mapM id = (rows.mapM id).map (List.filter condition) := by
  rcases eq_map_ok_or_first_error rows with ⟨items, rfl⟩ | ⟨items, e, rest, rfl⟩
  · rw [List.filter_map, mapM_id_map_ok, mapM_id_map_ok]
    rfl
  · rw [List.filter_append, List.filter_map, List.filter_cons_of_pos rfl, mapM_id_first_error,
      mapM_id_first_error]
    rfl

namespace Query

variable {α : Type u} {ρ : Type v} {σ : Type w}

/-- The filter that asks a condition of what the projection makes of a record. -/
def onResult (projection : α → Result ρ) (condition : ρ → Bool) (record : α) :
    Result Bool :=
  (projection record).map condition

theorem outcome_tryFilter_onResult (query : Query α ρ) (condition : ρ → Bool) (record : α) :
    (query.tryFilter (onResult query.projection condition)).outcome record =
      (query.outcome record).filter (staysUnder condition) := by
  have hpushed := accepts_tryFilter query (onResult query.projection condition) record
  rcases hanswer : query.accepts record with e | _ | _ <;> rw [hanswer] at hpushed
  · rw [outcome_of_error hanswer, outcome_of_error hpushed]
    rfl
  · rw [outcome_of_rejects hanswer, outcome_of_rejects hpushed]
    rfl
  · -- the record comes to the added filter, and what its projection makes of it decides
    rw [outcome_of_accepts hanswer]
    rcases hprojected : query.projection record with e | item <;>
      simp only [onResult, hprojected, Except.map] at hpushed
    · rw [outcome_of_error hpushed]
      rfl
    · have hstays : staysUnder condition (.ok item) = condition item := rfl
      cases hcondition : condition item <;> rw [hcondition] at hpushed hstays
      · rw [outcome_of_rejects hpushed, Option.filter_some_neg (by simp [hstays])]
      · rw [outcome_of_accepts hpushed, Option.filter_some_pos hstays]
        exact congrArg some hprojected

/-- **A condition on the results, asked before the projection.** A filter that projects the record
and asks the condition of the result, in front of the same projection, takes from the rows those
results on which the condition does not hold; all failures stay in their places. Executing returns
the results on which the condition holds, or fails as it does without the filter. -/
theorem push_condition (query : Query α σ) (projection : α → Result ρ)
    (condition : ρ → Bool) :
    let plain := query.trySelect projection
    let pushed := (query.tryFilter (onResult projection condition)).trySelect projection
    pushed.execute = plain.execute.map (List.filter condition) ∧
    pushed.rows.toList = plain.rows.toList.filter (staysUnder condition) ∧
    (∀ record, pushed.outcome record = (plain.outcome record).filter (staysUnder condition)) := by
  intro plain pushed
  have houtcome (record : α) :
      pushed.outcome record = (plain.outcome record).filter (staysUnder condition) :=
    outcome_tryFilter_onResult plain condition record
  have hrows : pushed.rows.toList = plain.rows.toList.filter (staysUnder condition) := by
    rw [toList_rows, toList_rows, List.filter_filterMap]
    exact List.filterMap_congr fun record _ => houtcome record
  refine ⟨?_, hrows, houtcome⟩
  rw [execute_eq_mapM, execute_eq_mapM, hrows, mapM_id_filter]

end Query

end RecordQuery
