import RecordQuery.Proofs.Query.Execution

/-!
# The order of the filters

A record passes if all filters say yes to it, in whichever order they are asked (`passes_perm`). The
order only decides which filter a record that does not pass meets first, and so whether it is
rejected or fails. `results` are the rows without the failures; `reorder_filters` says what another
order can change and what it cannot.
-/

namespace RecordQuery.Query

variable {α : Type u} {ρ : Type v} {query : Query α ρ}
  {filters filters' : List (α → Result Bool)}
  {test : α → Result Bool} {record : α} {items : List ρ}

/-! ## One record -/

theorem passes_perm (h : filters'.Perm filters) :
    Passes filters' record ↔ Passes filters record := by
  simp only [Passes, h.mem_iff]

theorem accepts_of_not_error (h : ∀ test ∈ query.filters, ∀ e, test record ≠ .error e) :
    query.accepts record = .ok (decide (Passes query.filters record)) := by
  rcases hanswer : query.accepts record with e | _ | _
  · obtain ⟨-, before, test, after, hfilters, -, htest⟩ := (accepts_eq_iff (by simp)).1 hanswer
    exact absurd htest (h test (by simp [hfilters]) e)
  · have hpasses : ¬ Passes query.filters record := by
      rw [← accepts_eq_true_iff, hanswer]
      simp
    simp [hpasses]
  · simp [accepts_eq_true_iff.1 hanswer]

/-- A filter that has said yes already says yes again. -/
theorem accepts_tryFilter_of_mem (h : test ∈ query.filters) (record : α) :
    (query.tryFilter test).accepts record = query.accepts record := by
  rw [accepts_tryFilter]
  rcases hanswer : query.accepts record with e | _ | _
  · rfl
  · rfl
  · exact accepts_eq_true_iff.1 hanswer test h

/-! ## The results among the rows -/

/-- The rows without the failures. -/
def results (query : Query α ρ) : List ρ := query.rows.toList.filterMap Except.toOption

theorem results_eq (query : Query α ρ) : query.results = query.source.filterMap fun record =>
    if Passes query.filters record then (query.projection record).toOption else none := by
  rw [results, toList_rows, List.filterMap_filterMap]
  congr 1
  funext record
  by_cases h : Passes query.filters record
  · rw [if_pos h, outcome_of_accepts (accepts_eq_true_iff.2 h)]
    rfl
  · rw [if_neg h]
    rcases hanswer : query.accepts record with e | _ | _
    · rw [outcome_of_error hanswer]
      rfl
    · rw [outcome_of_rejects hanswer]
      rfl
    · exact absurd (accepts_eq_true_iff.1 hanswer) h

theorem results_of_execute_ok (h : query.execute = .ok items) : query.results = items := by
  rw [results, execute_eq_ok_iff.1 h, List.filterMap_map]
  exact List.filterMap_some

/-! ## Another order -/

/-- **The order of the filters.** In another order the filters accept the same records and the rows
hold the same results; if neither order fails as a whole, both return the same. Where no filter
fails on a record of the source, the rows and the outcome are the same, failures of the projection
included. To add a filter once more changes nothing at all. -/
theorem reorder_filters (query : Query α ρ) :
    (∀ filters, filters.Perm query.filters →
      let query' : Query α ρ := { query with filters := filters }
      (∀ record, query'.accepts record = .ok true ↔ query.accepts record = .ok true) ∧
      query'.results = query.results ∧
      (∀ items items',
        query.execute = .ok items → query'.execute = .ok items' → items' = items) ∧
      ((∀ record ∈ query.source, ∀ test ∈ query.filters,
          ∀ e, test record ≠ .error e) →
        query'.rows.toList = query.rows.toList ∧ query'.execute = query.execute)) ∧
    (∀ test ∈ query.filters, SameAnswers (query.tryFilter test) query) := by
  constructor
  · intro filters hperm query'
    have hpasses (record : α) : Passes query'.filters record ↔ Passes query.filters record :=
      passes_perm hperm
    have hresults : query'.results = query.results := by
      rw [results_eq, results_eq]
      simp only [hpasses]
      rfl
    refine ⟨fun record => ?_, hresults, fun items items' hok hok' => ?_, fun htotal => ?_⟩
    · rw [accepts_eq_true_iff, accepts_eq_true_iff, hpasses]
    · rw [← results_of_execute_ok hok, ← results_of_execute_ok hok', hresults]
    · have hrows : query'.rows.toList = query.rows.toList := by
        refine toList_rows_congr rfl fun record hrecord => outcome_congr ?_ fun _ => rfl
        have htotal' : ∀ test ∈ query'.filters, ∀ e, test record ≠ .error e :=
          fun test htest => htotal record hrecord test (hperm.mem_iff.1 htest)
        rw [accepts_of_not_error htotal', accepts_of_not_error (htotal record hrecord)]
        simp only [hpasses]
      exact ⟨hrows, execute_eq_of_toList_eq hrows⟩
  · intro test htest
    exact .of_accepts rfl rfl (accepts_tryFilter_of_mem htest)

/-- On 0 one filter fails and the other says no, so that it depends on their order whether the query
fails. -/
theorem reorder_filters_quotients :
    let nonzero : Nat → Result Bool := fun n =>
      if n = 0 then .error (.divisionByZero "rem") else .ok true
    let odd : Nat → Result Bool := fun n => .ok (n % 2 = 1)
    let query (source : List Nat) : Query Nat Nat :=
      ⟨source, [nonzero, odd], fun n => .ok (60 / n), true⟩
    let query' (source : List Nat) : Query Nat Nat :=
      { query source with filters := [odd, nonzero] }
    [odd, nonzero].Perm (query [5, 0, 2]).filters ∧
      (query [5, 0, 2]).execute = .error (.divisionByZero "rem") ∧
      (query' [5, 0, 2]).execute = .ok [12] ∧
      (query' [5, 0, 2]).results = (query [5, 0, 2]).results ∧
      (query [5, 2]).execute = .ok [12] ∧
      (∀ items, (query' [5, 2]).execute = .ok items → items = [12]) ∧
      (∀ n ∈ [5, 2], ∀ test ∈ (query [5, 2]).filters, ∀ e, test n ≠ .error e) ∧
      (query' [5, 2]).execute = (query [5, 2]).execute ∧
      nonzero ∈ (query [5, 0, 2]).filters ∧
      SameAnswers ((query [5, 0, 2]).tryFilter nonzero) (query [5, 0, 2]) := by
  intro nonzero odd query query'
  have hperm : [odd, nonzero].Perm [nonzero, odd] := .swap nonzero odd []
  have htotal : ∀ n ∈ [5, 2], ∀ test ∈ (query [5, 2]).filters,
      ∀ e, test n ≠ .error e := by
    simp [query, nonzero, odd]
  have hmem : nonzero ∈ (query [5, 0, 2]).filters := List.mem_cons_self
  have hfails : (query [5, 0, 2]).execute = .error (.divisionByZero "rem") := by
    rw [execute_eq_mapM, toList_rows]
    rfl
  have hsucceeds : (query' [5, 0, 2]).execute = .ok [12] := by
    rw [execute_eq_mapM, toList_rows]
    rfl
  have hok : (query [5, 2]).execute = .ok [12] := by
    rw [execute_eq_mapM, toList_rows]
    rfl
  have hwith := reorder_filters (query [5, 0, 2])
  have hwithout := (reorder_filters (query [5, 2])).1 _ hperm
  exact ⟨hperm, hfails, hsucceeds, (hwith.1 _ hperm).2.1, hok,
    fun items hok' => hwithout.2.2.1 [12] items hok hok', htotal, (hwithout.2.2.2 htotal).2, hmem,
    hwith.2 nonzero hmem⟩

end RecordQuery.Query
