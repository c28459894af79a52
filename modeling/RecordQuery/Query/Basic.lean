import RecordQuery.Error

/-!
# Queries

A query holds its source, the filters in the order in which they were added, and one projection, the
last that was chosen. Nothing is evaluated while it is built. `accepts` runs the filters on a single
record and stops at the first that rejects it or fails; `outcome` is all that a record contributes
to the result.
-/

namespace RecordQuery

/-- A query over records of type `α` with results of type `ρ`. -/
structure Query (α : Type u) (ρ : Type v) where
  source : List α
  /-- The filters, the first to run first. -/
  filters : List (α → Result Bool)
  projection : α → Result ρ
  /-- Whether a projection was ever chosen. -/
  hasProjection : Bool

namespace Query

variable {α : Type u} {ρ : Type v} {σ : Type w}

/-! ## Building -/

/-- The query whose results are the records themselves. -/
def ofSource (source : List α) : Query α α := ⟨source, [], .ok, false⟩

def tryFilter (query : Query α ρ) (test : α → Result Bool) : Query α ρ :=
  { query with filters := query.filters ++ [test] }

def filter (query : Query α ρ) (test : α → Bool) : Query α ρ :=
  query.tryFilter fun record => .ok (test record)

/-- Chooses a projection that may fail in place of the present one. -/
def trySelect (query : Query α ρ) (projection : α → Result σ) : Query α σ :=
  ⟨query.source, query.filters, projection, true⟩

/-- Chooses a projection in place of the present one. -/
def select (query : Query α ρ) (projection : α → σ) : Query α σ :=
  query.trySelect fun record => .ok (projection record)

/-! ## What is known before a run -/

def sourceLength (query : Query α ρ) : Nat := query.source.length

def filterCount (query : Query α ρ) : Nat := query.filters.length

/-! ## One record -/

/-- Whether all filters hold of a record, in order up to the first that does not. -/
def accepts (query : Query α ρ) (record : α) : Result Bool :=
  query.filters.allM fun test => test record

/-- What a record contributes: nothing if it is rejected, else a result or a failure. -/
def outcome (query : Query α ρ) (record : α) : Option (Result ρ) :=
  match query.accepts record with
  | .ok true => some (query.projection record)
  | .ok false => none
  | .error e => some (.error e)

@[simp] theorem source_ofSource (source : List α) : (ofSource source).source = source := rfl

@[simp] theorem accepts_ofSource (source : List α) (record : α) :
    (ofSource source).accepts record = .ok true := rfl

@[simp] theorem source_trySelect (query : Query α ρ) (projection : α → Result σ) :
    (query.trySelect projection).source = query.source := rfl

@[simp] theorem accepts_trySelect (query : Query α ρ) (projection : α → Result σ)
    (record : α) :
    (query.trySelect projection).accepts record = query.accepts record := rfl

theorem outcome_of_accepts {query : Query α ρ} {record : α}
    (h : query.accepts record = .ok true) :
    query.outcome record = some (query.projection record) := by
  simp [outcome, h]

theorem outcome_of_rejects {query : Query α ρ} {record : α}
    (h : query.accepts record = .ok false) : query.outcome record = none := by
  simp [outcome, h]

theorem outcome_of_error {query : Query α ρ} {record : α} {e : QueryError}
    (h : query.accepts record = .error e) : query.outcome record = some (.error e) := by
  simp [outcome, h]

end Query

end RecordQuery
