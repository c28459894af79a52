import Mathlib.Data.List.Basic
import RecordQuery.Proofs.Query.Acceptance
import RecordQuery.Query.Calls
import RecordQuery.Query.Rows

/-!
# What executing a query returns

`execute` collects the outcomes of the records in the order of the source and gives up at the first
failure. `execute_eq_ok_iff` and `execute_eq_error_iff` say when it does either, and
`execute_apply_ofSource` reads this off the calls by which the query was built: the filters in their
order and the last projection are all that counts.
-/

namespace RecordQuery

/-! ## Collecting a list of rows -/

section Collecting

variable {ε : Type u} {ρ : Type v} {rows : List (Except ε ρ)}

theorem eq_map_ok_or_first_error (rows : List (Except ε ρ)) :
    (∃ items : List ρ, rows = items.map .ok) ∨
      ∃ (items : List ρ) (e : ε) (rest : List (Except ε ρ)),
        rows = items.map .ok ++ .error e :: rest := by
  induction rows with
  | nil => exact .inl ⟨[], rfl⟩
  | cons row rows ih =>
    cases row with
    | error e => exact .inr ⟨[], e, rows, rfl⟩
    | ok item =>
      rcases ih with ⟨items, rfl⟩ | ⟨items, e, rest, rfl⟩
      · exact .inl ⟨item :: items, rfl⟩
      · exact .inr ⟨item :: items, e, rest, rfl⟩

theorem mapM_id_map_ok (items : List ρ) :
    (items.map (Except.ok (ε := ε))).mapM id = .ok items := by
  induction items with
  | nil => rfl
  | cons item items ih => rw [List.map_cons, List.mapM_cons, ih]; rfl

theorem mapM_id_first_error (items : List ρ) (e : ε) (rest : List (Except ε ρ)) :
    (items.map Except.ok ++ Except.error e :: rest).mapM id = .error e := by
  induction items with
  | nil => rw [List.map_nil, List.nil_append, List.mapM_cons]; rfl
  | cons item items ih => rw [List.map_cons, List.cons_append, List.mapM_cons, ih]; rfl

theorem mapM_id_eq_ok_iff {items : List ρ} :
    rows.mapM id = .ok items ↔ rows = items.map .ok := by
  constructor
  · intro h
    rcases eq_map_ok_or_first_error rows with ⟨items', rfl⟩ | ⟨items', e, rest, rfl⟩
    · rw [mapM_id_map_ok] at h
      cases h; rfl
    · rw [mapM_id_first_error] at h
      cases h
  · rintro rfl
    exact mapM_id_map_ok items

theorem mapM_id_eq_error_iff {e : ε} : rows.mapM id = .error e ↔
    ∃ (items : List ρ) (rest : List (Except ε ρ)),
      rows = items.map .ok ++ .error e :: rest := by
  constructor
  · intro h
    rcases eq_map_ok_or_first_error rows with ⟨items', rfl⟩ | ⟨items', e', rest, rfl⟩
    · rw [mapM_id_map_ok] at h
      cases h
    · rw [mapM_id_first_error] at h
      cases h
      exact ⟨items', rest, rfl⟩
  · rintro ⟨items, rest, rfl⟩
    exact mapM_id_first_error items e rest

end Collecting

/-! ## Executing a query -/

namespace Query

variable {α : Type u} {ρ : Type v} {query : Query α ρ} {items : List ρ} {e : QueryError}

theorem execute_eq_ok_iff : query.execute = .ok items ↔ query.rows.toList = items.map .ok := by
  rw [execute_eq_mapM, mapM_id_eq_ok_iff]

theorem execute_eq_error_iff : query.execute = .error e ↔
    ∃ (items : List ρ) (rest : List (Result ρ)),
      query.rows.toList = items.map .ok ++ .error e :: rest := by
  rw [execute_eq_mapM, mapM_id_eq_error_iff]

theorem exists_items_iff {records : List α} :
    (∃ items : List ρ, records.filterMap query.outcome = items.map .ok) ↔
      ∀ record ∈ records, ∀ e, ¬ FailsWith query.filters query.projection record e := by
  constructor
  · rintro ⟨items, h⟩ record hrecord e hf
    have hmem : Except.error e ∈ records.filterMap query.outcome :=
      List.mem_filterMap.2 ⟨record, hrecord, outcome_eq_error_iff.2 hf⟩
    simp [h] at hmem
  · intro h
    rcases eq_map_ok_or_first_error (records.filterMap query.outcome) with hok | ⟨_, e, _, he⟩
    · exact hok
    · have hmem : Except.error e ∈ records.filterMap query.outcome := by simp [he]
      obtain ⟨record, hrecord, ho⟩ := List.mem_filterMap.1 hmem
      exact absurd (outcome_eq_error_iff.1 ho) (h record hrecord e)

/-- The first failure among the rows comes from a record that fails, and the results before it come
from the records before that one. -/
theorem filterMap_outcome_eq_first_error_iff {records : List α} :
    (∃ rest, records.filterMap query.outcome = items.map .ok ++ .error e :: rest) ↔
      ∃ before record after, records = before ++ record :: after ∧
        before.filterMap query.outcome = items.map .ok ∧
        FailsWith query.filters query.projection record e := by
  constructor
  · rintro ⟨rest, h⟩
    obtain ⟨before, later, rfl, hb, hl⟩ := List.filterMap_eq_append_iff.1 h
    obtain ⟨skipped, record, after, rfl, hs, ho, -⟩ := List.filterMap_eq_cons_iff.1 hl
    refine ⟨before ++ skipped, record, after, by simp, ?_, outcome_eq_error_iff.1 ho⟩
    rw [List.filterMap_append, hb, List.filterMap_eq_nil_iff.2 hs, List.append_nil]
  · rintro ⟨before, record, after, rfl, hb, hf⟩
    refine ⟨after.filterMap query.outcome, ?_⟩
    rw [List.filterMap_append, hb, List.filterMap_cons_some (outcome_eq_error_iff.2 hf)]

theorem filterMap_outcome_of_not_failsWith {records : List α}
    (h : ∀ record ∈ records, ∀ e, ¬ FailsWith query.filters query.projection record e) :
    records.filterMap query.outcome =
      (records.filter (Passes query.filters ·)).map query.projection := by
  induction records with
  | nil => rfl
  | cons record records ih =>
    have ih := ih fun later hlater => h later (List.mem_cons_of_mem _ hlater)
    by_cases hp : Passes query.filters record
    · rw [List.filterMap_cons_some (outcome_of_accepts (accepts_eq_true_iff.2 hp)), ih,
        List.filter_cons_of_pos (by simpa using hp), List.map_cons]
    · have ho : query.outcome record = none := by
        rcases ha : query.accepts record with e | _ | _
        · have hs := (accepts_eq_iff (by simp)).1 ha
          exact absurd (.inl hs) (h record List.mem_cons_self e)
        · exact outcome_of_rejects ha
        · exact absurd (accepts_eq_true_iff.1 ha) hp
      rw [List.filterMap_cons_none ho, ih, List.filter_cons_of_neg (by simpa using hp)]

/-- A pass over records that do not fail returns what the projection makes of those that pass. -/
theorem exists_execute_eq_ok
    (h : ∀ record ∈ query.source, ∀ e, ¬ FailsWith query.filters query.projection record e) :
    ∃ items, query.execute = .ok items ∧
      items.map .ok = (query.source.filter (Passes query.filters ·)).map query.projection := by
  obtain ⟨items, hitems⟩ := exists_items_iff.2 h
  refine ⟨items, execute_eq_ok_iff.2 ?_, ?_⟩
  · rw [toList_rows, ← hitems]
  · rw [← hitems, filterMap_outcome_of_not_failsWith h]

/-- A pass ends with a failure at the first record that fails, and at no other. -/
theorem execute_eq_error_iff_failsWith : query.execute = .error e ↔
    ∃ before record after, query.source = before ++ record :: after ∧
      (∀ earlier ∈ before, ∀ e', ¬ FailsWith query.filters query.projection earlier e') ∧
      FailsWith query.filters query.projection record e := by
  rw [execute_eq_error_iff, toList_rows]
  constructor
  · rintro ⟨items, h⟩
    obtain ⟨before, record, after, hs, hb, hf⟩ := filterMap_outcome_eq_first_error_iff.1 h
    exact ⟨before, record, after, hs, exists_items_iff.1 ⟨items, hb⟩, hf⟩
  · rintro ⟨before, record, after, hs, hb, hf⟩
    obtain ⟨items, hitems⟩ := exists_items_iff.2 hb
    exact ⟨items,
      filterMap_outcome_eq_first_error_iff.2 ⟨before, record, after, hs, hitems, hf⟩⟩

/-! ## Queries with the same answers -/

/-- Two queries answer the same, record by record, row by row and as a whole. -/
structure SameAnswers (query query' : Query α ρ) : Prop where
  accepts : ∀ record, query.accepts record = query'.accepts record
  rows : query.rows.toList = query'.rows.toList
  execute : query.execute = query'.execute

theorem SameAnswers.refl (query : Query α ρ) : SameAnswers query query :=
  ⟨fun _ => rfl, rfl, rfl⟩

theorem toList_rows_congr {query query' : Query α ρ} (hsource : query.source = query'.source)
    (h : ∀ record ∈ query.source, query.outcome record = query'.outcome record) :
    query.rows.toList = query'.rows.toList := by
  rw [toList_rows, toList_rows, ← hsource]
  exact List.filterMap_congr h

/-- Only the answers of the filters count, not how many there are. -/
theorem SameAnswers.of_accepts {query query' : Query α ρ} (hsource : query.source = query'.source)
    (hprojection : query.projection = query'.projection)
    (haccepts : ∀ record, query.accepts record = query'.accepts record) :
    SameAnswers query query' := by
  have hrows : query.rows.toList = query'.rows.toList :=
    toList_rows_congr hsource fun record _ =>
      outcome_congr (haccepts record) fun _ => congrFun hprojection record
  exact ⟨haccepts, hrows, execute_eq_of_toList_eq hrows⟩

/-! ## Executing what was built -/

section Built

variable {α σ : Type u}

@[simp] theorem filters_apply_ofSource (source : List α) (calls : Calls α α σ) :
    (calls.apply (ofSource source)).filters = calls.filters := calls.filters_apply _

@[simp] theorem projection_apply_ofSource (source : List α) (calls : Calls α α σ) :
    (calls.apply (ofSource source)).projection = calls.projection := calls.projection_apply _

/-- **Meaning of a pipeline.** If no record of the source fails, the results are what the last
projection makes of the records that pass every filter, in the order of the source; otherwise the
first record that fails decides, whatever stands behind it. -/
theorem execute_apply_ofSource (source : List α) (calls : Calls α α σ) :
    ((∀ record ∈ source, ∀ e, ¬ FailsWith calls.filters calls.projection record e) →
      ∃ items, (calls.apply (ofSource source)).execute = .ok items ∧
        items.map .ok = (source.filter (Passes calls.filters ·)).map calls.projection) ∧
    (∀ e, (calls.apply (ofSource source)).execute = .error e ↔
      ∃ before record after, source = before ++ record :: after ∧
        (∀ earlier ∈ before, ∀ e', ¬ FailsWith calls.filters calls.projection earlier e') ∧
        FailsWith calls.filters calls.projection record e) ∧
    RecordQuery.query source calls.apply = (calls.apply (ofSource source)).execute := by
  refine ⟨fun h => ?_, fun e => ?_, rfl⟩
  · have h' : ∀ record ∈ (calls.apply (ofSource source)).source, ∀ e,
        ¬ FailsWith (calls.apply (ofSource source)).filters
          (calls.apply (ofSource source)).projection record e := by simpa using h
    simpa using exists_execute_eq_ok h'
  · simpa using @execute_eq_error_iff_failsWith _ _ (calls.apply (ofSource source)) e

/-- A source without failures, and one in which the second record fails behind one that passes. -/
theorem execute_apply_ofSource_quotients :
    let calls : Calls Nat Nat Nat := .filter (· ≠ 3) (.select (· + 1) (.tryFilter
      (fun n => if n = 0 then .error (.divisionByZero "div") else .ok (n < 9))
      (.trySelect (fun n => .ok (60 / n)) .done)))
    (∀ record ∈ [5, 3, 9, 6], ∀ e, ¬ FailsWith calls.filters calls.projection record e) ∧
    (∃ items : List Nat, (calls.apply (ofSource [5, 3, 9, 6])).execute = .ok items ∧
      (items.map .ok : List (Result Nat)) = [.ok 12, .ok 10]) ∧
    (calls.apply (ofSource [5, 0, 0])).execute = .error (.divisionByZero "div") := by
  intro calls
  have hok : ∀ record ∈ [5, 3, 9, 6], ∀ e,
      ¬ FailsWith calls.filters calls.projection record e := by
    intro record hrecord e hf
    have ho : (calls.apply (ofSource [])).outcome record = some (.error e) :=
      outcome_eq_error_iff.2 hf
    simp only [List.mem_cons, List.not_mem_nil, or_false] at hrecord
    rcases hrecord with rfl | rfl | rfl | rfl <;> cases ho
  refine ⟨hok, (execute_apply_ofSource [5, 3, 9, 6] calls).1 hok, ?_⟩
  refine ((execute_apply_ofSource [5, 0, 0] calls).2.1 _).2 ⟨[5], 0, [0], rfl, ?_, ?_⟩
  · intro earlier hearlier
    rw [List.mem_singleton.1 hearlier]
    exact hok 5 (by simp)
  · exact .inl ⟨by simp, [fun n => .ok (n ≠ 3)], _, [], rfl, by simp, rfl⟩

end Built

end Query

end RecordQuery
