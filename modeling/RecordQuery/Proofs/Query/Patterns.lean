import RecordQuery.Proofs.Like.Inclusion
import RecordQuery.Proofs.Query.Loops
import RecordQuery.Subject

/-!
# Like patterns in filters

A filter can compile its pattern anew for each record or use one that was compiled before. If the
pattern compiles, nothing tells the two apart. If it does not, the filter fails on every record that
comes to it, so that the failure shows only as far as the filters before let a record through
(`FailsOnAccepted`), and a negated form fails like the plain one. `compiled_once_or_for_each` says
so of all forms in which a text is held against a pattern.
-/

namespace RecordQuery

open Like

/-! ## The forms of the question -/

/-- The forms in which a text is held against a like pattern. -/
inductive LikeForm
  | like
  | notLike
  /-- With the text in front. -/
  | thatLike
  /-- With the text in front, negated. -/
  | thatNotLike
  deriving DecidableEq, Repr

namespace LikeForm

variable {form : LikeForm} {text pattern : String}

def ask : LikeForm → (text pattern : String) → Result Bool
  | like, text, pattern => RecordQuery.like text pattern
  | notLike, text, pattern => RecordQuery.notLike text pattern
  | thatLike, text, pattern => (that text).like pattern
  | thatNotLike, text, pattern => (that text).notLike pattern

def answer : LikeForm → Bool → Bool
  | like, matched => matched
  | notLike, matched => !matched
  | thatLike, matched => matched
  | thatNotLike, matched => !matched

def askWith (form : LikeForm) (engine : Engine) (text pattern : String) : Result Bool :=
  return form.answer (← engine.like text pattern)

theorem ask_eq (form : LikeForm) (text pattern : String) :
    form.ask text pattern = return form.answer (← RecordQuery.like text pattern) := by
  cases form with
  | like => exact (bind_pure (RecordQuery.like text pattern)).symm
  | notLike => rfl
  | thatLike => exact (bind_pure (RecordQuery.like text pattern)).symm
  | thatNotLike => rfl

theorem ask_of_ok {compiled : LikePattern} (h : LikePattern.compile pattern = .ok compiled) :
    form.ask text pattern = .ok (form.answer (compiled.isMatch text)) := by
  rw [ask_eq, RecordQuery.like, h]
  rfl

theorem ask_of_error {e : QueryError} (h : LikePattern.compile pattern = .error e) :
    form.ask text pattern = .error e := by
  rw [ask_eq, RecordQuery.like, h]
  rfl

theorem askWith_of_ok {engine : Engine} {regex : engine.Regex}
    (h : engine.compile (expression pattern) = .ok regex) :
    form.askWith engine text pattern = .ok (form.answer (engine.isMatch regex text)) := by
  rw [askWith, Engine.like, h]
  rfl

theorem askWith_of_error {engine : Engine} {fault : PatternFault}
    (h : engine.compile (expression pattern) = .error fault) :
    form.askWith engine text pattern = .error (.invalidPattern fault) := by
  rw [askWith, Engine.like, h]
  rfl

end LikeForm

/-! ## Patterns that are refused -/

theorem LikePattern.exists_fault {pattern : String} {e : QueryError}
    (h : LikePattern.compile pattern = .error e) : ∃ fault, e = .invalidPattern fault := by
  unfold compile at h
  split at h <;> cases h
  exact ⟨_, rfl⟩

theorem LikePattern.compile_of_lt {pattern : String}
    (h : sizeLimit < compiledSize (tokens pattern.toList)) :
    compile pattern = .error (.invalidPattern (.tooBig sizeLimit)) :=
  dif_neg (Nat.not_le.2 h)

theorem reading_compile_of_lt {pattern : String}
    (h : sizeLimit < compiledSize (tokens pattern.toList)) :
    reading.compile (expression pattern) = .error (.tooBig sizeLimit) := by
  rw [expression_eq, reading_compile]
  exact if_neg (Nat.not_le.2 h)

theorem automatonSize_replicate (direction : Direction) (n : Nat) (t : Token) :
    automatonSize direction (List.replicate n t) =
      direction.frameSize + n * t.compiledSize direction := by
  induction n with
  | zero => simp [automatonSize]
  | succ n ih =>
    rw [List.replicate_succ', automatonSize, List.foldl_append]
    show automatonSize direction (List.replicate n t) + t.compiledSize direction = _
    rw [ih, Nat.succ_mul, Nat.add_assoc]

/-! ## A filter that always fails -/

namespace Query

variable {α : Type u} {ρ σ : Type v} {e : QueryError} {answer : Result Bool}

/-- The rows of a record that fails with `e` if the filters before accept it. -/
def failuresFor (e : QueryError) : Result Bool → List (Result σ)
  | .ok true => [.error e]
  | .ok false => []
  | .error e' => [.error e']

theorem failuresFor_eq_nil_iff : (failuresFor e answer : List (Result σ)) = [] ↔
    answer = .ok false := by
  rcases answer with e' | _ | _ <;> simp [failuresFor]

theorem ok_not_mem_failuresFor (item : σ) : .ok item ∉ failuresFor e answer := by
  rcases answer with e' | _ | _ <;> simp [failuresFor]

/-- The whole fails with `e` on each record that the query accepts, and decides the others as the
query does. There are no results but for a source of which every record is rejected. -/
structure FailsOnAccepted (query : Query α ρ) (e : QueryError) (whole : Query α σ) : Prop where
  accepts : ∀ record, whole.accepts record =
    match query.accepts record with
    | .ok true => .error e
    | answer => answer
  rows : whole.rows.toList = query.source.flatMap fun record => failuresFor e (query.accepts record)
  execute : ∀ items, whole.execute = .ok items ↔
    items = [] ∧ ∀ record ∈ query.source, query.accepts record = .ok false

theorem accepts_apply (query : Query α ρ) (after : Calls α ρ σ) (record : α) :
    (after.apply query).accepts record =
      match query.accepts record with
      | .ok true => after.filters.allM fun test => test record
      | answer => answer := by
  rw [accepts, after.filters_apply]
  exact allM_append query.filters after.filters record

/-- No filter behind one that always fails is ever asked. -/
theorem accepts_apply_tryFilter_error (query : Query α ρ) (after : Calls α ρ σ)
    (e : QueryError) (record : α) :
    (after.apply (query.tryFilter fun _ => .error e)).accepts record =
      match query.accepts record with
      | .ok true => .error e
      | answer => answer := by
  rw [accepts_apply, accepts_tryFilter]
  rcases query.accepts record with e' | _ | _ <;> rfl

theorem toList_apply_tryFilter_error (query : Query α ρ) (after : Calls α ρ σ)
    (e : QueryError) : (after.apply (query.tryFilter fun _ => .error e)).rows.toList =
      query.source.flatMap fun record => failuresFor e (query.accepts record) := by
  rw [toList_eq_flatMap, after.source_apply]
  show query.source.flatMap _ = query.source.flatMap _
  congr 1
  funext record
  rw [accepts_apply_tryFilter_error]
  rcases query.accepts record with e' | _ | _ <;> rfl

theorem failsOnAccepted_apply_tryFilter (query : Query α ρ) (after : Calls α ρ σ)
    (e : QueryError) :
    FailsOnAccepted query e (after.apply (query.tryFilter fun _ => .error e)) := by
  have hrows := toList_apply_tryFilter_error query after e
  refine ⟨accepts_apply_tryFilter_error query after e, hrows, fun items => ?_⟩
  rw [execute_eq_ok_iff, hrows]
  constructor
  · intro h
    -- a result would be a row, but all rows are failures
    obtain rfl : items = [] := by
      refine List.eq_nil_iff_forall_not_mem.2 fun item hitem => ?_
      have hrow : .ok item ∈ items.map (.ok : σ → Result σ) := List.mem_map_of_mem hitem
      rw [← h, List.mem_flatMap] at hrow
      obtain ⟨record, -, hmem⟩ := hrow
      exact ok_not_mem_failuresFor item hmem
    exact ⟨rfl, fun record hrecord =>
      failuresFor_eq_nil_iff.1 (List.flatMap_eq_nil_iff.1 h record hrecord)⟩
  · rintro ⟨rfl, hrejects⟩
    exact List.flatMap_eq_nil_iff.2 fun record hrecord =>
      failuresFor_eq_nil_iff.2 (hrejects record hrecord)

/-! ## Compiled once or for each record -/

/-- **To compile a pattern once or for each record.** If the pattern compiles, a filter that
compiles it for each record and one that uses the compiled pattern lead to the same answers,
whatever filters and projections stand before and behind, and in all forms of the question. If it
does not compile, the failure comes, unnegated, for each record that the filters before accept, and
nothing behind is asked. The same goes for every engine, which compiles from the pattern alone. -/
theorem compiled_once_or_for_each (query : Query α ρ) (after : Calls α ρ σ) (form : LikeForm)
    (text : α → String) (pattern : String) :
    let forEach := after.apply (query.tryFilter fun record => form.ask (text record) pattern)
    let forEachWith (engine : Engine) :=
      after.apply (query.tryFilter fun record => form.askWith engine (text record) pattern)
    (∀ compiled, LikePattern.compile pattern = .ok compiled →
      SameAnswers forEach
        (after.apply (query.filter fun record => form.answer (compiled.isMatch (text record))))) ∧
    (∀ e, LikePattern.compile pattern = .error e →
      (∃ fault, e = .invalidPattern fault) ∧ FailsOnAccepted query e forEach) ∧
    ∀ engine : Engine,
      (∀ regex, engine.compile (expression pattern) = .ok regex →
        SameAnswers (forEachWith engine)
          (after.apply
            (query.filter fun record => form.answer (engine.isMatch regex (text record))))) ∧
      (∀ fault, engine.compile (expression pattern) = .error fault →
        FailsOnAccepted query (.invalidPattern fault) (forEachWith engine)) := by
  refine ⟨fun compiled h => ?_, fun e h => ⟨LikePattern.exists_fault h, ?_⟩,
    fun engine => ⟨fun regex h => ?_, fun fault h => ?_⟩⟩
  · simp only [LikeForm.ask_of_ok h]
    exact .refl _
  · simp only [LikeForm.ask_of_error h]
    exact failsOnAccepted_apply_tryFilter query after e
  · simp only [LikeForm.askWith_of_ok h]
    exact .refl _
  · simp only [LikeForm.askWith_of_error h]
    exact failsOnAccepted_apply_tryFilter query after (.invalidPattern fault)

/-- A negated pattern in front of which one filter rejects `Bob` and fails on a missing name; too
many wildcards are refused. -/
theorem compiled_once_or_for_each_refused :
    let noName : QueryError := .raised (.ofText "no name")
    let tooBig : PatternFault := .tooBig sizeLimit
    let query := (ofSource ["Ann", "", "Bob", "Eve"]).tryFilter fun name =>
      if name = "" then .error noName else .ok (name ≠ "Bob")
    let after : Calls String String Nat := .filter (· ≠ "Eva") (.select String.length .done)
    let starting : LikePattern := ⟨"A%", by decide⟩
    let refused := String.ofList (List.replicate 20000 wildcardChar)
    let forEach (pattern : String) :=
      after.apply (query.tryFilter fun name => LikeForm.thatNotLike.ask name pattern)
    let forEachWith (engine : Engine) (pattern : String) :=
      after.apply (query.tryFilter fun name => LikeForm.thatNotLike.askWith engine name pattern)
    LikePattern.compile "A%" = .ok starting ∧
      SameAnswers (forEach "A%") (after.apply (query.filter fun name => !starting.isMatch name)) ∧
      LikePattern.compile refused = .error (.invalidPattern tooBig) ∧
      (forEach refused).rows.toList =
        [.error (.invalidPattern tooBig), .error noName, .error (.invalidPattern tooBig)] ∧
      reading.compile (expression "A%") = .ok (tokens "A%".toList) ∧
      SameAnswers (forEachWith reading "A%")
        (after.apply (query.filter fun name => !reading.isMatch (tokens "A%".toList) name)) ∧
      reading.compile (expression refused) = .error tooBig ∧
      (forEachWith reading refused).accepts "Eve" = .error (.invalidPattern tooBig) := by
  intro noName tooBig query after starting refused forEach forEachWith
  have hstarting : LikePattern.compile "A%" = .ok starting := LikePattern.compile_eq_ok_iff.2 rfl
  have hread : reading.compile (expression "A%") = .ok (tokens "A%".toList) := by
    rw [expression_eq, reading_compile]
    exact if_pos starting.fits
  have hsize : sizeLimit < compiledSize (tokens refused.toList) := by
    rw [String.toList_ofList, tokens_replicate_wildcardChar]
    refine Nat.lt_of_lt_of_le ?_ (Nat.le_max_right _ _)
    rw [automatonSize_replicate]
    decide
  have hrefused := LikePattern.compile_of_lt hsize
  have hrefused' := reading_compile_of_lt hsize
  have honce := compiled_once_or_for_each query after .thatNotLike id
  refine ⟨hstarting, (honce "A%").1 starting hstarting, hrefused, ?_, hread,
    ((honce "A%").2.2 reading).1 _ hread, hrefused', ?_⟩
  · exact ((honce refused).2.1 _ hrefused).2.rows
  · exact (((honce refused).2.2 reading).2 _ hrefused').accepts "Eve"

end Query

end RecordQuery
