import RecordQuery.Condition
import RecordQuery.Proofs.Query.Execution

/-!
# Several filters as one

A block of filters can be replaced by a single one in two ways. `inTurn` asks them one after the
other and stops where the query would stop: nothing tells it from the block. `allAsked` asks all of
them before it combines their answers, and so may fail where the block says no, but it differs from
the block in nothing else (`FailsForNo`). `fuse_filters` carries both from the block to the whole
query.
-/

namespace RecordQuery.Query

variable {α : Type u} {ρ : Type v} {tests before block block' after : List (α → Result Bool)}
  {first : α → Result Bool} {others : List (α → Result Bool)} {record : α}

/-! ## The two ways -/

/-- One filter for several: asks them in turn, up to the first that says no or fails. -/
def inTurn : List (α → Result Bool) → α → Result Bool
  | [], _ => return true
  | test :: tests, record => do
    if ← test record then inTurn tests record else return false

/-- What the filters say, all of them asked, or the first failure. -/
def askAll (tests : List (α → Result Bool)) (record : α) : Result (List Bool) :=
  tests.mapM fun test => test record

/-- One filter for several: asks all of them and combines what they say. -/
def allAsked (first : α → Result Bool) (others : List (α → Result Bool)) (record : α) :
    Result Bool := do
  let answer ← first record
  let answers ← askAll others record
  return answers.foldl Condition.and answer

/-- The first answer is the second, or else a failure in place of a no. -/
def FailsForNo (answer answer' : Result Bool) : Prop :=
  answer = answer' ∨ (∃ e, answer = .error e) ∧ answer' = .ok false

theorem FailsForNo.ok {answer answer' : Result Bool} {b : Bool} (h : FailsForNo answer answer')
    (hok : answer = .ok b) : answer' = .ok b := by
  rcases h with rfl | ⟨⟨e, he⟩, -⟩
  · exact hok
  · rw [hok] at he
    cases he

theorem FailsForNo.error {answer answer' : Result Bool} {e : QueryError}
    (h : FailsForNo answer answer') (he : answer' = .error e) : answer = .error e := by
  rcases h with rfl | ⟨-, hno⟩
  · exact he
  · rw [he] at hno
    cases hno

/-! ## The block itself -/

theorem inTurn_eq_allM (tests : List (α → Result Bool)) (record : α) :
    inTurn tests record = tests.allM fun test => test record := by
  induction tests with
  | nil => rfl
  | cons test tests ih => rw [inTurn, List.allM_cons, ih]

theorem foldl_and (answers : List Bool) (answer : Bool) :
    answers.foldl Condition.and answer = (answer :: answers).all id := by
  induction answers generalizing answer with
  | nil => simp
  | cons next answers ih =>
    rw [List.foldl_cons, ih]
    simp [Condition.and, Bool.and_assoc]

theorem askAll_cons (test : α → Result Bool) (tests : List (α → Result Bool)) (record : α) :
    askAll (test :: tests) record = do
      let answer ← test record
      let answers ← askAll tests record
      return answer :: answers :=
  List.mapM_cons

theorem allAsked_eq (first : α → Result Bool) (others : List (α → Result Bool))
    (record : α) :
    allAsked first others record = (askAll (first :: others) record).map (·.all id) := by
  rw [allAsked, askAll_cons]
  rcases first record with e | answer
  · rfl
  · rcases askAll others record with e | answers
    · rfl
    · exact congrArg Except.ok (foldl_and answers answer)

theorem exists_error_of_askAll {e : QueryError} (h : askAll tests record = .error e) :
    ∃ test ∈ tests, test record = .error e := by
  induction tests with
  | nil => cases h
  | cons test tests ih =>
    rw [askAll_cons] at h
    rcases htest : test record with e' | answer <;> rw [htest] at h
    · cases h
      exact ⟨test, List.mem_cons_self, htest⟩
    · rcases hlater : askAll tests record with e' | answers <;> rw [hlater] at h <;> cases h
      obtain ⟨later, hmem, hfails⟩ := ih hlater
      exact ⟨later, List.mem_cons_of_mem _ hmem, hfails⟩

/-- To ask all filters makes a difference only behind one that says no, and there only by a
failure. -/
theorem failsForNo_askAll (tests : List (α → Result Bool)) (record : α) :
    FailsForNo ((askAll tests record).map (·.all id)) (tests.allM fun test => test record) := by
  induction tests with
  | nil => exact .inl rfl
  | cons test tests ih =>
    rw [askAll_cons, List.allM_cons]
    rcases test record with e | _ | _
    · exact .inl rfl
    · rcases askAll tests record with e | answers
      · exact .inr ⟨⟨e, rfl⟩, rfl⟩
      · exact .inl rfl
    · rcases hanswers : askAll tests record with e | answers <;> rw [hanswers] at ih <;> exact ih

theorem failsForNo_allAsked (first : α → Result Bool) (others : List (α → Result Bool))
    (record : α) : FailsForNo (allAsked first others record)
      ((first :: others).allM fun test => test record) := by
  rw [allAsked_eq]
  exact failsForNo_askAll (first :: others) record

theorem allAsked_of_not_error (h : ∀ test ∈ first :: others, ∀ e, test record ≠ .error e) :
    allAsked first others record = (first :: others).allM fun test => test record := by
  rcases failsForNo_allAsked first others record with heq | ⟨⟨e, he⟩, -⟩
  · exact heq
  · rw [allAsked_eq] at he
    rcases hanswers : askAll (first :: others) record with e' | answers <;> rw [hanswers] at he
    · obtain ⟨test, htest, hfails⟩ := exists_error_of_askAll hanswers
      exact absurd hfails (h test htest e')
    · cases he

/-! ## The block among other filters -/

def withBlock (query : Query α ρ) (before after block : List (α → Result Bool)) :
    Query α ρ :=
  { query with filters := before ++ block ++ after }

theorem accepts_withBlock (query : Query α ρ) (before after block : List (α → Result Bool))
    (record : α) : (query.withBlock before after block).accepts record =
      match before.allM fun test => test record with
      | .ok true =>
        match block.allM fun test => test record with
        | .ok true => after.allM fun test => test record
        | answer => answer
      | answer => answer := by
  show (before ++ block ++ after).allM (fun test => test record) = _
  rw [allM_append, allM_append]
  generalize (before.allM fun test => test record) = answer
  rcases answer with e | _ | _ <;> rfl

theorem accepts_withBlock_congr (query : Query α ρ)
    (h : (block.allM fun test => test record) = block'.allM fun test => test record) :
    (query.withBlock before after block).accepts record =
      (query.withBlock before after block').accepts record := by
  rw [accepts_withBlock, accepts_withBlock, h]

theorem failsForNo_withBlock (query : Query α ρ)
    (h : FailsForNo (block.allM fun test => test record) (block'.allM fun test => test record)) :
    FailsForNo ((query.withBlock before after block).accepts record)
      ((query.withBlock before after block').accepts record) := by
  rcases h with h | ⟨⟨e, he⟩, hno⟩
  · exact .inl (accepts_withBlock_congr query h)
  · rw [accepts_withBlock, accepts_withBlock, he, hno]
    generalize (before.allM fun test => test record) = answer
    rcases answer with e' | _ | _
    · exact .inl rfl
    · exact .inl rfl
    · exact .inr ⟨⟨e, rfl⟩, rfl⟩

theorem execute_ok_of_failsForNo {query query' : Query α ρ} {items : List ρ}
    (hsource : query.source = query'.source) (hprojection : query.projection = query'.projection)
    (h : ∀ record, FailsForNo (query.accepts record) (query'.accepts record))
    (hok : query.execute = .ok items) : query'.execute = .ok items := by
  have hrows : query.rows.toList = query'.rows.toList := by
    refine toList_rows_congr hsource fun record hrecord => ?_
    rcases h record with heq | ⟨⟨e, he⟩, -⟩
    · exact outcome_congr heq fun _ => congrFun hprojection record
    · have hrow : .error e ∈ query.rows.toList := by
        rw [toList_rows]
        exact List.mem_filterMap.2 ⟨record, hrecord, outcome_of_error he⟩
      rw [execute_eq_ok_iff.1 hok] at hrow
      simp at hrow
  rw [← hok, execute_eq_of_toList_eq hrows]

/-- **Fusing filters.** One filter that asks a block of filters in turn can stand for the block. One
that asks all of them answers as the block does or fails where the block says no: what it accepts or
rejects the block accepts or rejects, where the block fails it fails with the same failure, and a
result it leads to is that of the block. Where the filters of the block cannot fail it can stand for
the block as well. -/
theorem fuse_filters (query : Query α ρ) (before after : List (α → Result Bool))
    (first : α → Result Bool) (others : List (α → Result Bool)) :
    let withBlock := query.withBlock before after
    let block := first :: others
    SameAnswers (withBlock [inTurn block]) (withBlock block) ∧
    (∀ record answer, (withBlock [allAsked first others]).accepts record = .ok answer →
      (withBlock block).accepts record = .ok answer) ∧
    (∀ record e, (withBlock block).accepts record = .error e →
      (withBlock [allAsked first others]).accepts record = .error e) ∧
    (∀ items, (withBlock [allAsked first others]).execute = .ok items →
      (withBlock block).execute = .ok items) ∧
    ((∀ test ∈ block, ∀ record e, test record ≠ .error e) →
      SameAnswers (withBlock [allAsked first others]) (withBlock block)) := by
  intro withBlock block
  have hasked (record : α) : FailsForNo ((withBlock [allAsked first others]).accepts record)
      ((withBlock block).accepts record) := by
    apply failsForNo_withBlock
    rw [allM_singleton]
    exact failsForNo_allAsked first others record
  refine ⟨.of_accepts rfl rfl fun record => ?_, fun record answer => (hasked record).ok,
    fun record e => (hasked record).error, fun items => execute_ok_of_failsForNo rfl rfl hasked,
    fun htotal => .of_accepts rfl rfl fun record => ?_⟩
  · apply accepts_withBlock_congr
    rw [allM_singleton, inTurn_eq_allM]
  · apply accepts_withBlock_congr
    rw [allM_singleton, allAsked_of_not_error fun test htest => htotal test htest record]

/-- On 0 the block says no before it comes to the division, the filter that asks all fails. -/
theorem fuse_filters_quotients :
    let nonzero : Nat → Result Bool := fun n => .ok (n ≠ 0)
    let divides : Nat → Result Bool := fun n =>
      if n = 0 then .error (.divisionByZero "rem") else .ok (600 % n = 0)
    let small : Nat → Result Bool := fun n =>
      if 99 < n then .error (.overflow "mul") else .ok (n < 20)
    let query := ofSource [3, 5, 7, 60]
    let withBlock := query.withBlock [fun n => .ok (n ≠ 3)] [fun n => .ok (n ≠ 12)]
    let block := withBlock [nonzero, divides, small]
    let asked := withBlock [allAsked nonzero [divides, small]]
    block.accepts 0 = .ok false ∧ asked.accepts 0 = .error (.divisionByZero "rem") ∧
      asked.accepts 5 = .ok true ∧ block.accepts 5 = .ok true ∧
      block.accepts 120 = .error (.overflow "mul") ∧
      asked.accepts 120 = .error (.overflow "mul") ∧
      asked.execute = .ok [5] ∧ block.execute = .ok [5] ∧
      (∀ test ∈ [nonzero, nonzero], ∀ n e, test n ≠ .error e) ∧
      SameAnswers (withBlock [allAsked nonzero [nonzero]]) (withBlock [nonzero, nonzero]) := by
  intro nonzero divides small query withBlock block asked
  have hfuse := fuse_filters query [fun n => .ok (n ≠ 3)] [fun n => .ok (n ≠ 12)] nonzero
  have htotal : ∀ test ∈ [nonzero, nonzero], ∀ n e, test n ≠ .error e := by simp [nonzero]
  have hasked : asked.execute = .ok [5] := by
    rw [execute_eq_mapM, toList_rows]
    rfl
  have hblock := hfuse [divides, small]
  exact ⟨rfl, rfl, rfl, hblock.2.1 5 true rfl, rfl, hblock.2.2.1 120 _ rfl, hasked,
    hblock.2.2.2.1 _ hasked, htotal, (hfuse [nonzero]).2.2.2.2 htotal⟩

end RecordQuery.Query
