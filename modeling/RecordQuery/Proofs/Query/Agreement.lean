import RecordQuery.Proofs.Query.Execution

/-!
# What is not reached does not matter

A filter is asked only about records to which all filters in front of it said yes, the projection
only about records that pass them all, and executing looks at no record behind the first that fails.
`AgreesOn` compares two queries on a record no further than the first of them gets, and `Reached`
are the records it gets to. `execute_eq_of_agreesOn` says that queries which agree that far have the
same result.
-/

namespace RecordQuery.Query

variable {α : Type u} {ρ : Type v}

/-- Two queries treat a record alike as far as the first of them gets: filter by filter up to the
first that does not say yes, and in the projection if they all do. -/
structure AgreesOn (query query' : Query α ρ) (record : α) : Prop where
  filters : ∀ k test test', query.filters[k]? = some test → query'.filters[k]? = some test' →
    Passes (query.filters.take k) record → test record = test' record
  projection : Passes query.filters record → query.projection record = query'.projection record

/-- Executing the query gets to the record: none in front of it fails. -/
def Reached (query : Query α ρ) (record : α) : Prop :=
  ∃ before after, query.source = before ++ record :: after ∧
    ∀ earlier ∈ before, ∀ e, ¬ FailsWith query.filters query.projection earlier e

/-! ## One record -/

theorem allM_eq_of_agree {filters filters' : List (α → Result Bool)} {record : α}
    (hlength : filters.length = filters'.length)
    (h : ∀ k test test', filters[k]? = some test → filters'[k]? = some test' →
      Passes (filters.take k) record → test record = test' record) :
    filters.allM (fun test => test record) = filters'.allM (fun test => test record) := by
  induction filters generalizing filters' with
  | nil => rw [List.length_eq_zero_iff.1 hlength.symm]
  | cons test filters ih =>
    cases filters' with
    | nil => simp at hlength
    | cons test' filters' =>
      have hhead : test record = test' record := h 0 test test' rfl rfl passes_nil
      rw [List.allM_cons, List.allM_cons, ← hhead]
      rcases hanswer : test record with e | _ | _
      · rfl
      · rfl
      · -- only now are the filters behind it asked
        refine ih (Nat.succ.inj hlength) fun k later later' hk hk' hpasses => ?_
        exact h (k + 1) later later' hk hk' (passes_cons.2 ⟨hanswer, hpasses⟩)

variable {query query' : Query α ρ} {record : α}

theorem AgreesOn.accepts_eq (h : AgreesOn query query' record)
    (hcount : query.filterCount = query'.filterCount) :
    query.accepts record = query'.accepts record :=
  allM_eq_of_agree hcount h.filters

theorem AgreesOn.outcome_eq (h : AgreesOn query query' record)
    (hcount : query.filterCount = query'.filterCount) :
    query.outcome record = query'.outcome record :=
  outcome_congr (h.accepts_eq hcount) h.projection

/-! ## All records -/

/-- Collecting asks for no outcome behind the first failure. -/
theorem mapM_filterMap_outcome_eq {records : List α}
    (h : ∀ before record after, records = before ++ record :: after →
      (∀ earlier ∈ before, ∀ e, query.outcome earlier ≠ some (.error e)) →
      query.outcome record = query'.outcome record) :
    (records.filterMap query.outcome).mapM id = (records.filterMap query'.outcome).mapM id := by
  induction records with
  | nil => rfl
  | cons record records ih =>
    have hhead : query.outcome record = query'.outcome record := h [] record records rfl (by simp)
    have htail (hgoes : ∀ e, query.outcome record ≠ some (.error e)) :=
      ih fun before later after hsplit hbefore =>
        h (record :: before) later after (by rw [hsplit]; rfl) (by simpa using ⟨hgoes, hbefore⟩)
    rcases ho : query.outcome record with _ | e | item
    · rw [List.filterMap_cons_none ho, List.filterMap_cons_none (hhead ▸ ho)]
      exact htail (by simp [ho])
    · rw [List.filterMap_cons_some ho, List.filterMap_cons_some (hhead ▸ ho)]
      rfl
    · rw [List.filterMap_cons_some ho, List.filterMap_cons_some (hhead ▸ ho), List.mapM_cons,
        List.mapM_cons, htail (by simp [ho])]

/-- **What is not reached does not matter.** Two queries on one source with equally many filters
that agree on the records which the first of them gets to, on each no further than it gets, have the
same result. If they agree so on all records, they also have the same rows and accept the same. -/
theorem execute_eq_of_agreesOn (query query' : Query α ρ) (hsource : query.source = query'.source)
    (hcount : query.filterCount = query'.filterCount) :
    ((∀ record, query.Reached record → AgreesOn query query' record) →
      query.execute = query'.execute) ∧
    ((∀ record ∈ query.source, AgreesOn query query' record) →
      query.rows.toList = query'.rows.toList ∧
        ∀ record ∈ query.source, query.accepts record = query'.accepts record) := by
  constructor
  · intro hagree
    rw [execute_eq_mapM, execute_eq_mapM, toList_rows, toList_rows, ← hsource]
    refine mapM_filterMap_outcome_eq fun before record after hsplit hbefore => ?_
    have hreached : query.Reached record := by
      refine ⟨before, after, hsplit, fun earlier hearlier e hfails => ?_⟩
      exact hbefore earlier hearlier e (outcome_eq_error_iff.2 hfails)
    exact (hagree record hreached).outcome_eq hcount
  · intro hagree
    refine ⟨?_, fun record hrecord => (hagree record hrecord).accepts_eq hcount⟩
    rw [toList_rows, toList_rows, ← hsource]
    exact List.filterMap_congr fun record hrecord => (hagree record hrecord).outcome_eq hcount

/-- The second query fails on 3, which the first filter rejects, and on 7, which stands behind the
failure on 0. -/
theorem execute_eq_of_agreesOn_spoiled :
    let spoiled {β : Type} (f : Nat → Result β) : Nat → Result β := fun n =>
      if n = 3 ∨ n = 7 then .error (.overflow "mul") else f n
    let nonzero : Nat → Result Bool := fun n =>
      if n = 0 then .error (.divisionByZero "rem") else .ok true
    let quotient : Nat → Result Nat := fun n => .ok (60 / n)
    let query (source : List Nat) :=
      (((ofSource source).filter (· ≠ 3)).tryFilter nonzero).trySelect quotient
    let query' (source : List Nat) :=
      (((ofSource source).filter (· ≠ 3)).tryFilter (spoiled nonzero)).trySelect
        (spoiled quotient)
    (∀ n, (query [3, 0, 7]).Reached n → AgreesOn (query [3, 0, 7]) (query' [3, 0, 7]) n) ∧
      (query [3, 0, 7]).execute = (query' [3, 0, 7]).execute ∧
      (∀ n ∈ [3, 1], AgreesOn (query [3, 1]) (query' [3, 1]) n) ∧
      (query [3, 1]).rows.toList = (query' [3, 1]).rows.toList := by
  intro spoiled nonzero quotient query query'
  have hfirst {n : Nat} {filters : List (Nat → Result Bool)}
      (h : Passes ((fun n => .ok (decide (n ≠ 3))) :: filters) n) : n ≠ 3 := by
    simpa using (passes_cons.1 h).1
  have hagree (source : List Nat) {n : Nat} (hn : n ≠ 7) :
      AgreesOn (query source) (query' source) n := by
    constructor
    · intro k test test' hk hk' hpasses
      match k with
      | 0 => cases hk; cases hk'; rfl
      | 1 =>
        cases hk; cases hk'
        simp [spoiled, hfirst hpasses, hn]
      | k + 2 => cases hk
    · intro hpasses
      show quotient n = spoiled quotient n
      simp [spoiled, hfirst hpasses, hn]
  have hreached : ∀ n, (query [3, 0, 7]).Reached n → n ≠ 7 := by
    rintro _ ⟨before, after, hsplit, hbefore⟩ rfl
    have hzero : 0 ∈ before := by
      change [3, 0, 7] = before ++ 7 :: after at hsplit
      rcases before with _ | ⟨_, _ | ⟨_, before⟩⟩ <;> simp at hsplit
      simp [← hsplit.2.1]
    exact hbefore 0 hzero (.divisionByZero "rem") (outcome_eq_error_iff.1 rfl)
  have hsome : ∀ n ∈ [3, 1], n ≠ 7 := by decide
  have hfar := fun n hn => hagree [3, 0, 7] (hreached n hn)
  have hall := fun n hn => hagree [3, 1] (hsome n hn)
  exact ⟨hfar, (execute_eq_of_agreesOn (query [3, 0, 7]) (query' [3, 0, 7]) rfl rfl).1 hfar,
    hall, ((execute_eq_of_agreesOn (query [3, 1]) (query' [3, 1]) rfl rfl).2 hall).1⟩

end RecordQuery.Query
