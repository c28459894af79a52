import RecordQuery.Query.Basic

/-!
# What becomes of a record

The filters are asked in their order, and the first that does not say yes settles the record.
`Passes` and `StopsWith` say this of a list of filters without running it, and `FailsWith` adds the
projection. `accepts_eq_iff` and `outcome_eq_error_iff` show that a query decides a record in just
this way.
-/

namespace RecordQuery.Query

variable {α : Type u} {ρ : Type v}

/-! ## The fate of a record before a list of filters -/

/-- Every filter says yes to the record. -/
def Passes (filters : List (α → Result Bool)) (record : α) : Prop :=
  ∀ test ∈ filters, test record = .ok true

/-- The first filter that does not say yes to the record answers with `answer`. -/
def StopsWith (filters : List (α → Result Bool)) (record : α) (answer : Result Bool) : Prop :=
  answer ≠ .ok true ∧ ∃ before test after, filters = before ++ test :: after ∧
    Passes before record ∧ test record = answer

/-- The record makes a query fail: a filter does, or the projection of a record that passes. -/
def FailsWith (filters : List (α → Result Bool)) (projection : α → Result ρ) (record : α)
    (e : QueryError) : Prop :=
  StopsWith filters record (.error e) ∨ (Passes filters record ∧ projection record = .error e)

variable {filters : List (α → Result Bool)} {test : α → Result Bool} {record : α}
  {answer : Result Bool}

@[simp] theorem passes_nil : Passes [] record := by simp [Passes]

@[simp] theorem passes_cons :
    Passes (test :: filters) record ↔ test record = .ok true ∧ Passes filters record := by
  simp [Passes]

instance : Decidable (Passes filters record) :=
  decidable_of_iff (filters.all fun test => (test record).toOption == some true) <| by
    have h : ∀ answer : Result Bool, answer.toOption = some true ↔ answer = .ok true := by
      rintro (e | b) <;> simp [Except.toOption]
    simp [Passes, h]

theorem not_stopsWith_nil : ¬ StopsWith [] record answer := by
  rintro ⟨-, before, test, after, h, -⟩
  simp at h

theorem stopsWith_cons_of_yes (h : test record = .ok true) :
    StopsWith (test :: filters) record answer ↔ StopsWith filters record answer := by
  constructor
  · rintro ⟨hne, before, stop, after, hf, hp, ha⟩
    cases before with
    | nil =>
      obtain ⟨rfl, rfl⟩ := List.cons.inj hf
      exact absurd (ha.symm.trans h) hne
    | cons first before =>
      obtain ⟨rfl, rfl⟩ := List.cons.inj hf
      exact ⟨hne, before, stop, after, rfl, (passes_cons.1 hp).2, ha⟩
  · rintro ⟨hne, before, stop, after, rfl, hp, ha⟩
    exact ⟨hne, test :: before, stop, after, rfl, passes_cons.2 ⟨h, hp⟩, ha⟩

theorem stopsWith_cons_of_not_yes (h : test record ≠ .ok true) :
    StopsWith (test :: filters) record answer ↔ test record = answer := by
  constructor
  · rintro ⟨-, before, stop, after, hf, hp, ha⟩
    cases before with
    | nil =>
      obtain ⟨rfl, rfl⟩ := List.cons.inj hf
      exact ha
    | cons first before =>
      obtain ⟨rfl, rfl⟩ := List.cons.inj hf
      exact absurd (passes_cons.1 hp).1 h
  · rintro rfl
    exact ⟨h, [], test, filters, rfl, passes_nil, rfl⟩

/-! ## What a query makes of it -/

theorem allM_eq_true_iff : filters.allM (fun test => test record) = .ok true ↔
    Passes filters record := by
  induction filters with
  | nil => simp [pure, Except.pure]
  | cons test filters ih =>
    rw [List.allM_cons, passes_cons, ← ih]
    rcases test record with e | _ | _ <;> simp [bind, Except.bind, pure, Except.pure]

theorem allM_eq_iff (h : answer ≠ .ok true) :
    filters.allM (fun test => test record) = answer ↔ StopsWith filters record answer := by
  induction filters with
  | nil => simpa [pure, Except.pure, not_stopsWith_nil] using h.symm
  | cons test filters ih =>
    rw [List.allM_cons]
    rcases ht : test record with e | _ | _
    · rw [stopsWith_cons_of_not_yes (by simp [ht]), ht]; rfl
    · rw [stopsWith_cons_of_not_yes (by simp [ht]), ht]; rfl
    · rw [stopsWith_cons_of_yes ht, ← ih]; rfl

/-- The later filters are asked only if the first ones all say yes. -/
theorem allM_append (filters later : List (α → Result Bool)) (record : α) :
    (filters ++ later).allM (fun test => test record) =
      match filters.allM (fun test => test record) with
      | .ok true => later.allM fun test => test record
      | answer => answer := by
  induction filters with
  | nil => rfl
  | cons test filters ih =>
    rw [List.cons_append, List.allM_cons, List.allM_cons, ih]
    rcases test record with e | _ | _ <;> rfl

theorem allM_singleton (test : α → Result Bool) (record : α) :
    [test].allM (fun test => test record) = test record := by
  rw [List.allM_cons]
  rcases test record with e | _ | _ <;> rfl

theorem allM_map_ok {β : Type w} (test : β → α → Bool) (values : List β) (record : α) :
    (values.map fun value record => (.ok (test value record) : Result Bool)).allM
      (fun test => test record) = .ok (values.all (test · record)) := by
  induction values with
  | nil => rfl
  | cons value values ih =>
    rw [List.map_cons, List.allM_cons, ih, List.all_cons]
    dsimp only
    cases test value record <;> rfl

variable {query query' : Query α ρ} {e : QueryError}

theorem accepts_eq_true_iff : query.accepts record = .ok true ↔ Passes query.filters record :=
  allM_eq_true_iff

theorem accepts_eq_iff (h : answer ≠ .ok true) :
    query.accepts record = answer ↔ StopsWith query.filters record answer :=
  allM_eq_iff h

theorem accepts_tryFilter (query : Query α ρ) (test : α → Result Bool) (record : α) :
    (query.tryFilter test).accepts record =
      match query.accepts record with
      | .ok true => test record
      | answer => answer := by
  have happend : (query.tryFilter test).accepts record = _ :=
    allM_append query.filters [test] record
  rw [happend, allM_singleton]
  rfl

theorem outcome_eq_none_iff : query.outcome record = none ↔ query.accepts record = .ok false := by
  rw [outcome]
  rcases query.accepts record with e | _ | _ <;> simp

theorem outcome_eq_error_iff : query.outcome record = some (.error e) ↔
    FailsWith query.filters query.projection record e := by
  rw [FailsWith, ← accepts_eq_true_iff, ← accepts_eq_iff (by simp), outcome]
  rcases query.accepts record with e | _ | _ <;> simp

theorem outcome_congr (haccepts : query.accepts record = query'.accepts record)
    (hprojection : Passes query.filters record →
      query.projection record = query'.projection record) :
    query.outcome record = query'.outcome record := by
  rcases hanswer : query.accepts record with e | _ | _
  · rw [outcome_of_error hanswer, outcome_of_error (haccepts ▸ hanswer)]
  · rw [outcome_of_rejects hanswer, outcome_of_rejects (haccepts ▸ hanswer)]
  · rw [outcome_of_accepts hanswer, outcome_of_accepts (haccepts ▸ hanswer),
      hprojection (accepts_eq_true_iff.1 hanswer)]

end RecordQuery.Query
