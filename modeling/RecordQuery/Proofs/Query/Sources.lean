import RecordQuery.Proofs.Query.Reordering

/-!
# Sources in parts and in another order

What becomes of a record depends on nothing but the record, so a source can be read in parts and in
any order. A cursor that comes to the end of one part goes on in the next (`Rows.next_append`), and
a query on two parts is the query on the first, followed by the query on the second if the first has
not failed (`rows_and_execute_append`). In another order the same rows come, each as often as
before, and only which failure is the first may change (`reorder_source`).
-/

namespace RecordQuery

variable {α : Type u} {ρ : Type v}

/-! ## Reading over a seam -/

namespace Rows

theorem scan_append (query : Query α ρ) (records later : List α) :
    scan query (records ++ later) =
      match scan query records with
      | (some row, unread) => (some row, unread ++ later)
      | (none, _) => scan query later := by
  induction records with
  | nil => rfl
  | cons record unread ih =>
    rw [List.cons_append, scan, scan]
    cases query.outcome record with
    | some row => rfl
    | none => exact ih

theorem next_append (query : Query α ρ) (records later : List α) :
    next ⟨query, records ++ later⟩ =
      match next ⟨query, records⟩ with
      | (some row, rest) => (some row, ⟨query, rest.unread ++ later⟩)
      | (none, _) => next ⟨query, later⟩ := by
  rw [next, next, scan_append]
  rcases scan query records with ⟨_ | row, unread⟩ <;> rfl

end Rows

namespace Query

variable {query : Query α ρ} {source source' : List α} {e : QueryError}

/-! ## One query on several sources -/

def withSource (query : Query α ρ) (source : List α) : Query α ρ :=
  { query with source := source }

theorem toList_withSource (query : Query α ρ) (source : List α) :
    (query.withSource source).rows.toList = source.filterMap query.outcome :=
  toList_rows (query.withSource source)

theorem toList_withSource_append (query : Query α ρ) (source source' : List α) :
    (query.withSource (source ++ source')).rows.toList =
      (query.withSource source).rows.toList ++ (query.withSource source').rows.toList := by
  simp only [toList_withSource, List.filterMap_append]

theorem execute_withSource_append (query : Query α ρ) (source source' : List α) :
    (query.withSource (source ++ source')).execute =
      match (query.withSource source).execute, (query.withSource source').execute with
      | .error e, _ => .error e
      | .ok _, .error e => .error e
      | .ok items, .ok items' => .ok (items ++ items') := by
  simp only [execute_eq_mapM, toList_withSource_append, List.mapM_append]
  rcases (query.withSource source).rows.toList.mapM id with e | items
  · rfl
  · rcases (query.withSource source').rows.toList.mapM id with e | items' <;> rfl

theorem execute_withSource_append_of_error (h : (query.withSource source).execute = .error e)
    (later : List α) : (query.withSource (source ++ later)).execute = .error e := by
  rw [execute_withSource_append, h]

/-! ## The shortest part that fails -/

/-- The query fails on the records, and on no fewer of them from the front. -/
structure FailsFirstOn (query : Query α ρ) (front : List α) (e : QueryError) : Prop where
  fails : (query.withSource front).execute = .error e
  shortest : ∀ shorter, shorter <+: front → shorter ≠ front →
    ∃ items, (query.withSource shorter).execute = .ok items

/-- Executing fails exactly if a shortest part from the front does, and with its failure. -/
theorem execute_withSource_eq_error_iff : (query.withSource source).execute = .error e ↔
    ∃ front, front <+: source ∧ query.FailsFirstOn front e := by
  constructor
  · intro h
    obtain ⟨before, record, after, hsource, hbefore, hfails⟩ :=
      execute_eq_error_iff_failsWith.1 h
    obtain rfl : source = before ++ record :: after := hsource
    refine ⟨before ++ [record], ⟨after, by simp⟩, ?_, fun shorter hprefix hne => ?_⟩
    · exact execute_eq_error_iff_failsWith.2 ⟨before, record, [], rfl, hbefore, hfails⟩
    · -- a shorter part holds only records in front of the one that fails
      have hshorter : shorter <+: before :=
        (List.prefix_concat_iff.1 hprefix).resolve_left hne
      obtain ⟨items, hitems, -⟩ := @exists_execute_eq_ok _ _ (query.withSource shorter)
        fun earlier hearlier => hbefore earlier (hshorter.subset hearlier)
      exact ⟨items, hitems⟩
  · rintro ⟨front, ⟨later, rfl⟩, hfront⟩
    exact execute_withSource_append_of_error hfront.fails later

/-! ## A source in two parts -/

/-- **A source in two parts.** The rows are those of the first part and then those of the second,
also for a cursor that reads over the seam. Executing fails with the failure of the first part, else
with that of the second, and else returns the results of both. Thus nothing behind a failure counts,
and the shortest part from the front that fails decides. -/
theorem rows_and_execute_append (query : Query α ρ) (source source' : List α) :
    (query.withSource (source ++ source')).rows.toList =
      (query.withSource source).rows.toList ++ (query.withSource source').rows.toList ∧
    (∀ unread, Rows.next ⟨query, unread ++ source'⟩ =
      match Rows.next ⟨query, unread⟩ with
      | (some row, rest) => (some row, ⟨query, rest.unread ++ source'⟩)
      | (none, _) => Rows.next ⟨query, source'⟩) ∧
    (query.withSource (source ++ source')).execute =
      (match (query.withSource source).execute, (query.withSource source').execute with
      | .error e, _ => .error e
      | .ok _, .error e => .error e
      | .ok items, .ok items' => .ok (items ++ items')) ∧
    (∀ e, (query.withSource source).execute = .error e →
      ∀ later, (query.withSource (source ++ later)).execute = .error e) ∧
    (∀ e, (query.withSource source).execute = .error e ↔
      ∃ front, front <+: source ∧ query.FailsFirstOn front e) :=
  ⟨toList_withSource_append query source source',
    fun unread => Rows.next_append query unread source',
    execute_withSource_append query source source', fun _ => execute_withSource_append_of_error,
    fun _ => execute_withSource_eq_error_iff⟩

/-- The first part fails on 0, so that neither the 8 behind it nor the second failure counts. -/
theorem rows_and_execute_append_quotients :
    let query := ((ofSource []).filter (· ≠ 3)).trySelect fun n =>
      if n = 0 then .error (.divisionByZero "div")
      else if n = 9 then .error (.overflow "mul") else .ok (60 / n)
    (query.withSource [3, 5, 0]).execute = .error (.divisionByZero "div") ∧
      (query.withSource ([3, 5, 0] ++ [8, 9])).execute = .error (.divisionByZero "div") := by
  intro query
  have hfails : (query.withSource [3, 5, 0]).execute = .error (.divisionByZero "div") := by
    rw [execute_eq_mapM, toList_withSource]
    rfl
  exact ⟨hfails, (rows_and_execute_append query [3, 5, 0] []).2.2.2.1 _ hfails [8, 9]⟩

/-! ## A source in another order -/

theorem toList_withSource_perm (query : Query α ρ) (h : source'.Perm source) :
    (query.withSource source').rows.toList.Perm (query.withSource source).rows.toList := by
  rw [toList_withSource, toList_withSource]
  exact h.filterMap query.outcome

theorem exists_items_of_perm {items : List ρ} (h : source'.Perm source)
    (hok : (query.withSource source).execute = .ok items) :
    ∃ items', (query.withSource source').execute = .ok items' ∧ items'.Perm items := by
  have hrows := query.toList_withSource_perm h
  rcases hresult : (query.withSource source').execute with e | items'
  · obtain ⟨items', rest, hfails⟩ := execute_eq_error_iff.1 hresult
    have hmem : Except.error e ∈ (query.withSource source).rows.toList :=
      hrows.mem_iff.1 (by simp [hfails])
    simp [execute_eq_ok_iff.1 hok] at hmem
  · refine ⟨items', rfl, ?_⟩
    rw [← results_of_execute_ok hresult, ← results_of_execute_ok hok]
    exact hrows.filterMap Except.toOption

theorem error_mem_of_perm (h : source'.Perm source)
    (he : (query.withSource source).execute = .error e) :
    .error e ∈ (query.withSource source').rows.toList := by
  obtain ⟨items, rest, hrows⟩ := execute_eq_error_iff.1 he
  exact (query.toList_withSource_perm h).mem_iff.2 (by simp [hrows])

/-- **A source in another order.** The same rows come in another order, each of them as often as
before. If there are results for one order there are for the other, the same ones in another order;
if there are none, the failure that each order meets first is among the rows of the other. -/
theorem reorder_source (query : Query α ρ) (source source' : List α) (h : source'.Perm source) :
    (query.withSource source').rows.toList.Perm (query.withSource source).rows.toList ∧
    ((∃ items', (query.withSource source').execute = .ok items') ↔
      ∃ items, (query.withSource source).execute = .ok items) ∧
    (∀ items items', (query.withSource source).execute = .ok items →
      (query.withSource source').execute = .ok items' → items'.Perm items) ∧
    (∀ e e', (query.withSource source).execute = .error e →
      (query.withSource source').execute = .error e' →
      .error e ∈ (query.withSource source').rows.toList ∧
        .error e' ∈ (query.withSource source).rows.toList) := by
  refine ⟨query.toList_withSource_perm h, ⟨?_, ?_⟩, ?_, ?_⟩
  · rintro ⟨items', hok'⟩
    obtain ⟨items, hok, -⟩ := exists_items_of_perm h.symm hok'
    exact ⟨items, hok⟩
  · rintro ⟨items, hok⟩
    obtain ⟨items', hok', -⟩ := exists_items_of_perm h hok
    exact ⟨items', hok'⟩
  · intro items items' hok hok'
    obtain ⟨others, hothers, hperm⟩ := exists_items_of_perm h hok
    obtain rfl : others = items' := Except.ok.inj (hothers.symm.trans hok')
    exact hperm
  · exact fun e e' he he' => ⟨error_mem_of_perm h he, error_mem_of_perm h.symm he'⟩

/-- Two records fail, and the order decides with which failure executing ends. -/
theorem reorder_source_quotients :
    let query := ((ofSource []).filter (· ≠ 3)).trySelect fun n =>
      if n = 0 then .error (.divisionByZero "div")
      else if n = 9 then .error (.overflow "mul") else .ok (60 / n)
    [9, 5, 0].Perm [0, 5, 9] ∧
      (query.withSource [0, 5, 9]).execute = .error (.divisionByZero "div") ∧
      (query.withSource [9, 5, 0]).execute = .error (.overflow "mul") ∧
      .error (.divisionByZero "div") ∈ (query.withSource [9, 5, 0]).rows.toList ∧
      [5, 3, 4].Perm [3, 4, 5] ∧
      (query.withSource [3, 4, 5]).execute = .ok [15, 12] ∧
      (query.withSource [5, 3, 4]).execute = .ok [12, 15] ∧
      [12, 15].Perm [15, 12] := by
  intro query
  have hfailing : [9, 5, 0].Perm [0, 5, 9] := by decide
  have hworking : [5, 3, 4].Perm [3, 4, 5] := by decide
  have hrun (source : List Nat) :
      (query.withSource source).execute = (source.filterMap query.outcome).mapM id := by
    rw [execute_eq_mapM, toList_withSource]
  have he := hrun [0, 5, 9]
  have he' := hrun [9, 5, 0]
  have hok := hrun [3, 4, 5]
  have hok' := hrun [5, 3, 4]
  have hfails := (reorder_source query [0, 5, 9] [9, 5, 0] hfailing).2.2.2 _ _ he he'
  exact ⟨hfailing, he, he', hfails.1, hworking, hok, hok',
    (reorder_source query [3, 4, 5] [5, 3, 4] hworking).2.2.1 _ _ hok hok'⟩

end Query

end RecordQuery
