import Mathlib.Data.List.Nodup
import RecordQuery.Proofs.Query.Patterns
import RecordQuery.Proofs.Query.Staging

/-!
# Filters that share out the records

Two conditions on the same operands of which one is the opposite of the other (`Complementary`)
share out the records of a query: a negation turns the answers around and leaves the failures as
they are, so either both conditions fail on a record or exactly one of them lets it through.
`complementary_filters` says so of a query to which either condition is added as a filter. Records
may be equal to each other, so it is their positions in the source that are shared out
(`SharedOut`).
-/

namespace RecordQuery

variable {α : Type u} {β : Type} {yes no : β → Result Bool}

/-! ## Complementary conditions -/

/-- A condition and its opposite on the same operands, be it in the form of functions or with the
subject in front. -/
inductive Complementary : {β : Type} → (β → Result Bool) → (β → Result Bool) → Prop
  | like : Complementary (fun (text, pattern) => RecordQuery.like text pattern)
      fun (text, pattern) => notLike text pattern
  | thatLike : Complementary (fun (text, pattern) => (that text).like pattern)
      fun (text, pattern) => (that text).notLike pattern
  /-- With an engine in place of the library's own matching. -/
  | likeWith (engine : Like.Engine) :
    Complementary (fun (text, pattern) => LikeForm.like.askWith engine text pattern)
      fun (text, pattern) => LikeForm.notLike.askWith engine text pattern
  | isIn {γ : Type} [BEq γ] :
    Complementary (fun (value, members) => .ok (Condition.isIn (value : γ) members))
      fun (value, members) => .ok (Condition.notIn value members)
  | thatIsIn {γ : Type} [BEq γ] :
    Complementary (fun (value, members) => .ok ((that (value : γ)).isIn members))
      fun (value, members) => .ok ((that value).notIn members)
  | eq {γ : Type} [BEq γ] :
    Complementary (fun (a, b) => .ok (Condition.eq (a : γ) b)) fun (a, b) => .ok (Condition.ne a b)
  | isNull {γ : Type} :
    Complementary (fun value : Option γ => .ok (Condition.isNull value))
      fun value => .ok (Condition.isNotNull value)
  | not : Complementary (fun answer => .ok answer) fun answer => .ok (Condition.not answer)

theorem notLike_eq (text pattern : String) :
    notLike text pattern = (like text pattern).map Condition.not := by
  rw [notLike]
  rcases like text pattern with e | answer <;> rfl

theorem LikeForm.notLike_askWith (engine : Like.Engine) (text pattern : String) :
    notLike.askWith engine text pattern = (like.askWith engine text pattern).map Condition.not := by
  rw [askWith, askWith]
  rcases engine.like text pattern with e | answer <;> rfl

theorem Complementary.eq_map_not (h : Complementary yes no) (operands : β) :
    no operands = (yes operands).map Condition.not := by
  cases h with
  | like => exact notLike_eq operands.1 operands.2
  | thatLike => exact notLike_eq operands.1 operands.2
  | likeWith engine => exact LikeForm.notLike_askWith engine operands.1 operands.2
  | isIn => rfl
  | thatIsIn => rfl
  | eq => rfl
  | isNull => cases operands <;> rfl
  | not => rfl

theorem Complementary.bind_eq_map_not (h : Complementary yes no) (operands : Result β) :
    (do no (← operands)) = (do yes (← operands)).map Condition.not := by
  rcases operands with e | operands
  · rfl
  · exact h.eq_map_not operands

/-! ## Sharing out places -/

/-- Whether a place is not behind the other. -/
def upTo (place place' : α × Nat) : Bool := place.2 ≤ place'.2

theorem pairwise_merge_upTo {left right : List (α × Nat)}
    (hleft : left.Pairwise fun place later => place.2 ≤ later.2)
    (hright : right.Pairwise fun place later => place.2 ≤ later.2) :
    (left.merge right upTo).Pairwise fun place later => place.2 ≤ later.2 := by
  have htrans : ∀ a b c : α × Nat, upTo a b → upTo b c → upTo a c := by
    simpa [upTo] using fun _ _ _ _ _ _ => Nat.le_trans
  have htotal : ∀ a b : α × Nat, upTo a b || upTo b a := by
    simpa [upTo] using fun _ a _ b => Nat.le_total a b
  simpa [upTo] using List.pairwise_merge htrans htotal left right
    (by simpa [upTo] using hleft) (by simpa [upTo] using hright)

/-- Two lists of places share out a third, which is in the order of the source: each place is in one
of the two, and merged by position they are the third. -/
structure SharedOut (left right all : List (α × Nat)) : Prop where
  ordered : all.Pairwise fun place later => place.2 < later.2
  exactlyOne : ∀ place ∈ all, (place ∈ left ↔ place ∉ right)
  merged : left.merge right upTo = all

theorem sharedOut_filter {all : List (α × Nat)}
    (h : all.Pairwise fun place later => place.2 < later.2) (test : α × Nat → Bool) :
    SharedOut (all.filter test) (all.filter fun place => !test place) all := by
  refine ⟨h, fun place hplace => by simp [hplace], ?_⟩
  have hperm := (List.merge_perm_append upTo).trans (List.filter_append_perm test all)
  have hweak : all.Pairwise fun place later => place.2 ≤ later.2 := h.imp Nat.le_of_lt
  -- in a list that rises strictly a place is known by its position
  have hnodup : (all.map Prod.snd).Nodup := List.pairwise_map.2 (h.imp Nat.ne_of_lt)
  refine List.Perm.eq_of_pairwise (fun place place' hplace hplace' hle hge => ?_)
    (pairwise_merge_upTo (hweak.filter test) (hweak.filter fun place => !test place)) hweak hperm
  exact List.inj_on_of_nodup_map hnodup (hperm.subset hplace) hplace' (Nat.le_antisymm hle hge)

namespace Query

variable {ρ : Type v} {source : List α} {filters : List (α → Result Bool)} {record : α}
  {e : QueryError}

/-! ## Queries without a projection -/

/-- The records of the source that pass the filters, with their positions. -/
def passing (query : Query α ρ) : List (α × Nat) :=
  query.source.zipIdx.filter fun place => Passes query.filters place.1

theorem ordered_passing (query : Query α ρ) :
    query.passing.Pairwise fun place later => place.2 < later.2 := by
  refine List.Pairwise.filter _ (List.pairwise_map.1 ?_)
  rw [List.zipIdx_map_snd]
  exact List.pairwise_lt_range'

theorem mem_of_mem_passing {query : Query α ρ} {place : α × Nat} (h : place ∈ query.passing) :
    place.1 ∈ query.source ∧ Passes query.filters place.1 := by
  obtain ⟨hplace, hpasses⟩ := List.mem_filter.1 h
  exact ⟨List.mem_of_getElem? (List.mem_zipIdx_iff_getElem?.1 hplace),
    of_decide_eq_true hpasses⟩

theorem map_fst_passing (query : Query α ρ) :
    query.passing.map Prod.fst = query.source.filter (Passes query.filters ·) := by
  conv_rhs => rw [← List.zipIdx_map_fst 0 query.source, List.filter_map]
  rfl

theorem tryFilter_ofFilters (source : List α) (filters : List (α → Result Bool))
    (test : α → Result Bool) :
    (ofFilters source filters).tryFilter test = ofFilters source (filters ++ [test]) := by
  rw [ofFilters, ofFilters, List.foldl_append]
  rfl

theorem execute_ofFilters
    (h : ∀ record ∈ source, ∀ e, ¬ StopsWith filters record (.error e)) :
    (ofFilters source filters).execute = .ok ((ofFilters source filters).passing.map Prod.fst) := by
  have hnone : ∀ record ∈ (ofFilters source filters).source, ∀ e,
      ¬ FailsWith (ofFilters source filters).filters (ofFilters source filters).projection
        record e := by
    simpa only [source_ofFilters, failsWith_ofFilters_iff] using h
  rw [execute_eq_ok_iff, toList_rows, filterMap_outcome_of_not_failsWith hnone, map_fst_passing,
    projection_ofFilters]

theorem not_stopsWith_of_execute_ok {items : List α}
    (h : (ofFilters source filters).execute = .ok items) :
    ∀ record ∈ source, ∀ e, ¬ StopsWith filters record (.error e) := by
  rw [execute_eq_ok_iff, toList_rows] at h
  have hnone := exists_items_iff.1 ⟨items, h⟩
  simpa only [source_ofFilters, failsWith_ofFilters_iff] using hnone

/-! ## One more filter -/

variable {test test' : α → Result Bool}

theorem stopsWith_append_error_iff : StopsWith (filters ++ [test]) record (.error e) ↔
    StopsWith filters record (.error e) ∨ Passes filters record ∧ test record = .error e := by
  rw [← allM_eq_iff (by simp), ← allM_eq_iff (by simp), allM_append, allM_singleton,
    ← allM_eq_true_iff]
  generalize (filters.allM fun test => test record) = answer
  rcases answer with e' | _ | _ <;> simp

theorem passing_ofFilters_append (source : List α) (filters : List (α → Result Bool))
    (test : α → Result Bool) : (ofFilters source (filters ++ [test])).passing =
      (ofFilters source filters).passing.filter fun place => Passes [test] place.1 := by
  simp only [passing, source_ofFilters, filters_ofFilters, List.filter_filter]
  congr 1
  funext place
  rw [← Bool.decide_and, decide_eq_decide]
  simp [Passes, or_imp, forall_and, and_comm]

theorem stopsWith_opposite_iff (h : test' record = (test record).map Condition.not) :
    StopsWith (filters ++ [test']) record (.error e) ↔
      StopsWith (filters ++ [test]) record (.error e) := by
  have hfails : test' record = .error e ↔ test record = .error e := by
    rw [h]
    rcases test record with e' | answer <;> simp [Except.map]
  rw [stopsWith_append_error_iff, stopsWith_append_error_iff, hfails]

theorem passes_opposite_iff (h : test' record = (test record).map Condition.not)
    (hok : ∀ e, test record ≠ .error e) :
    Passes [test'] record ↔ ¬ Passes [test] record := by
  rw [passes_cons, passes_cons, h]
  rcases hanswer : test record with e | _ | _
  · exact absurd hanswer (hok e)
  · simp [Except.map, Condition.not]
  · simp [Except.map, Condition.not]

theorem execute_error_of_opposite (h : ∀ record, test' record = (test record).map Condition.not)
    (he : (ofFilters source (filters ++ [test])).execute = .error e) :
    (ofFilters source (filters ++ [test'])).execute = .error e := by
  rw [execute_eq_error_iff_failsWith] at he ⊢
  simpa only [source_ofFilters, failsWith_ofFilters_iff, stopsWith_opposite_iff (h _)] using he

/-- A test and its opposite share out the records that pass, unless they fail on one of them. -/
theorem sharedOut_passing (h : ∀ record, test' record = (test record).map Condition.not)
    (hok : ∀ record ∈ source, ∀ e, ¬ StopsWith (filters ++ [test]) record (.error e)) :
    SharedOut (ofFilters source (filters ++ [test])).passing
      (ofFilters source (filters ++ [test'])).passing (ofFilters source filters).passing := by
  have hopposite : (ofFilters source (filters ++ [test'])).passing =
      (ofFilters source filters).passing.filter fun place => !decide (Passes [test] place.1) := by
    rw [passing_ofFilters_append]
    refine List.filter_congr fun place hplace => ?_
    obtain ⟨hsource, hpasses⟩ := mem_of_mem_passing hplace
    rw [source_ofFilters] at hsource
    rw [filters_ofFilters] at hpasses
    rw [← decide_not, decide_eq_decide]
    refine passes_opposite_iff (h place.1) fun e he => ?_
    exact hok place.1 hsource e (stopsWith_append_error_iff.2 (.inr ⟨hpasses, he⟩))
  rw [hopposite, passing_ofFilters_append]
  exact sharedOut_filter (ordered_passing _) _

/-! ## A condition and its opposite as filters -/

/-- **A condition and its opposite share out the records.** Added as a filter to a query without a
projection, either both fail, with the same failure, or both succeed; then the query itself succeeds
too, and each of its results, known by the position of its record in the source, is a result of
exactly one of the two, so that both merged by position are the results of the query. -/
theorem complementary_filters (h : Complementary yes no) (operands : α → Result β)
    (source : List α) (filters : List (α → Result Bool)) :
    let query := ofFilters source filters
    let asked := query.tryFilter fun record => do yes (← operands record)
    let denied := query.tryFilter fun record => do no (← operands record)
    (∃ e, asked.execute = .error e ∧ denied.execute = .error e) ∨
      (asked.execute = .ok (asked.passing.map Prod.fst) ∧
        denied.execute = .ok (denied.passing.map Prod.fst) ∧
        query.execute = .ok (query.passing.map Prod.fst) ∧
        SharedOut asked.passing denied.passing query.passing) := by
  intro query asked denied
  have hasked : asked = ofFilters source (filters ++ [_]) := tryFilter_ofFilters source filters _
  have hdenied : denied = ofFilters source (filters ++ [_]) := tryFilter_ofFilters source filters _
  have hopposite record := h.bind_eq_map_not (operands record)
  rw [hasked, hdenied]
  rcases hresult :
      (ofFilters source (filters ++ [fun record => do yes (← operands record)])).execute
    with e | items
  · exact .inl ⟨e, hresult, execute_error_of_opposite hopposite hresult⟩
  · have hok := not_stopsWith_of_execute_ok hresult
    refine .inr ⟨execute_ofFilters hok, execute_ofFilters fun record hrecord e => ?_,
      execute_ofFilters fun record hrecord e hstops => ?_, sharedOut_passing hopposite hok⟩
    · exact mt (stopsWith_opposite_iff (hopposite record)).1 (hok record hrecord e)
    · exact hok record hrecord e (stopsWith_append_error_iff.2 (.inl hstops))

/-- The quotients 12 of the two records 5 are among the members and the quotient 8 is not; on 0
there is no quotient, and both conditions fail. -/
theorem complementary_filters_quotients :
    let isIn : Nat × List Nat → Result Bool := fun (value, members) =>
      .ok (Condition.isIn value members)
    let notIn : Nat × List Nat → Result Bool := fun (value, members) =>
      .ok (Condition.notIn value members)
    let operands : Nat → Result (Nat × List Nat) := fun n =>
      if n = 0 then .error (.divisionByZero "div") else .ok (60 / n, [12, 20])
    let query (source : List Nat) := ofFilters source [fun n => .ok (n ≠ 3)]
    let asked (source : List Nat) := (query source).tryFilter fun n => do isIn (← operands n)
    let denied (source : List Nat) := (query source).tryFilter fun n => do notIn (← operands n)
    Complementary isIn notIn ∧
      (asked [5, 7, 3, 5]).passing = [(5, 0), (5, 3)] ∧
      (denied [5, 7, 3, 5]).passing = [(7, 1)] ∧
      SharedOut (asked [5, 7, 3, 5]).passing (denied [5, 7, 3, 5]).passing
        (query [5, 7, 3, 5]).passing ∧
      (asked [5, 0]).execute = .error (.divisionByZero "div") ∧
      (denied [5, 0]).execute = .error (.divisionByZero "div") := by
  intro isIn notIn operands query asked denied
  have h : Complementary isIn notIn := .isIn
  have hok : (asked [5, 7, 3, 5]).execute = .ok [5, 5] := by
    rw [execute_eq_mapM, toList_rows]
    rfl
  have hfails : (asked [5, 0]).execute = .error (.divisionByZero "div") := by
    rw [execute_eq_mapM, toList_rows]
    rfl
  have hshared : SharedOut (asked [5, 7, 3, 5]).passing (denied [5, 7, 3, 5]).passing
      (query [5, 7, 3, 5]).passing := by
    rcases complementary_filters h operands [5, 7, 3, 5] [fun n => .ok (n ≠ 3)] with
      ⟨e, he, -⟩ | ⟨-, -, -, hshared⟩
    · cases hok.symm.trans he
    · exact hshared
  have hfails' : (denied [5, 0]).execute = .error (.divisionByZero "div") := by
    rcases complementary_filters h operands [5, 0] [fun n => .ok (n ≠ 3)] with
      ⟨e, he, he'⟩ | ⟨hok', -⟩
    · cases hfails.symm.trans he
      exact he'
    · cases hfails.symm.trans hok'
  exact ⟨h, by decide, by decide, hshared, hfails, hfails'⟩

end Query

end RecordQuery
