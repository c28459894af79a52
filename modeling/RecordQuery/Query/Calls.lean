import RecordQuery.Query.Basic

/-!
# Sequences of building calls

A query is built by any number of calls, each of which adds a filter or chooses a projection, and a
projection may change the type of the results. `Calls α ρ σ` is such a sequence as a value. What
it leaves behind are its filters in their order and its last projection (`filters_apply`,
`projection_apply`).
-/

namespace RecordQuery.Query

/-- A sequence of calls that turns queries with results in `ρ` into queries with results in
`σ`. -/
inductive Calls (α : Type u) : Type v → Type v → Type (max u (v + 1))
  | done {ρ : Type v} : Calls α ρ ρ
  | filter {ρ σ : Type v} (test : α → Bool) (rest : Calls α ρ σ) : Calls α ρ σ
  | tryFilter {ρ σ : Type v} (test : α → Result Bool) (rest : Calls α ρ σ) : Calls α ρ σ
  | select {ρ τ σ : Type v} (projection : α → τ) (rest : Calls α τ σ) : Calls α ρ σ
  | trySelect {ρ τ σ : Type v} (projection : α → Result τ) (rest : Calls α τ σ) :
    Calls α ρ σ

namespace Calls

variable {α : Type u} {ρ σ : Type v}

def apply {ρ σ : Type v} : Calls α ρ σ → Query α ρ → Query α σ
  | done, query => query
  | filter test rest, query => rest.apply (query.filter test)
  | tryFilter test rest, query => rest.apply (query.tryFilter test)
  | select projection rest, query => rest.apply (query.select projection)
  | trySelect projection rest, query => rest.apply (query.trySelect projection)

def filters {ρ σ : Type v} : Calls α ρ σ → List (α → Result Bool)
  | done => []
  | filter test rest => (fun record => .ok (test record)) :: rest.filters
  | tryFilter test rest => test :: rest.filters
  | select _ rest => rest.filters
  | trySelect _ rest => rest.filters

/-- The last projection that the calls choose, or else the one given. -/
def lastFrom {ρ σ : Type v} :
    Calls α ρ σ → Option (α → Result ρ) → Option (α → Result σ)
  | done, last => last
  | filter _ rest, last => rest.lastFrom last
  | tryFilter _ rest, last => rest.lastFrom last
  | select projection rest, _ => rest.lastFrom (some fun record => .ok (projection record))
  | trySelect projection rest, _ => rest.lastFrom (some projection)

def lastProjection (calls : Calls α ρ σ) : Option (α → Result σ) := calls.lastFrom none

/-- The last projection that the calls choose, in place of the one given. -/
def projectionFrom {ρ σ : Type v} : Calls α ρ σ → (α → Result ρ) → (α → Result σ)
  | done, last => last
  | filter _ rest, last => rest.projectionFrom last
  | tryFilter _ rest, last => rest.projectionFrom last
  | select projection rest, _ => rest.projectionFrom fun record => .ok (projection record)
  | trySelect projection rest, _ => rest.projectionFrom projection

/-- The last projection that the calls choose; if they choose none, the records stay as they are. -/
def projection {α σ : Type v} (calls : Calls α α σ) : α → Result σ :=
  calls.projectionFrom .ok

@[simp] theorem source_apply (calls : Calls α ρ σ) (query : Query α ρ) :
    (calls.apply query).source = query.source := by
  induction calls with
  | done => rfl
  | filter test rest ih => exact ih _
  | tryFilter test rest ih => exact ih _
  | select projection rest ih => exact ih _
  | trySelect projection rest ih => exact ih _

theorem filters_apply (calls : Calls α ρ σ) (query : Query α ρ) :
    (calls.apply query).filters = query.filters ++ calls.filters := by
  induction calls with
  | done => simp [apply, filters]
  | filter test rest ih => simp [apply, filters, ih, Query.filter, Query.tryFilter]
  | tryFilter test rest ih => simp [apply, filters, ih, Query.tryFilter]
  | select projection rest ih => simp [apply, filters, ih, Query.select, Query.trySelect]
  | trySelect projection rest ih => simp [apply, filters, ih, Query.trySelect]

theorem projection_apply (calls : Calls α ρ σ) (query : Query α ρ) :
    (calls.apply query).projection = calls.projectionFrom query.projection := by
  induction calls with
  | done => rfl
  | filter test rest ih => exact ih _
  | tryFilter test rest ih => exact ih _
  | select projection rest ih => exact ih _
  | trySelect projection rest ih => exact ih _

theorem lastFrom_some (calls : Calls α ρ σ) (last : α → Result ρ) :
    calls.lastFrom (some last) = some (calls.projectionFrom last) := by
  induction calls with
  | done => rfl
  | filter test rest ih => exact ih _
  | tryFilter test rest ih => exact ih _
  | select projection rest ih => exact ih _
  | trySelect projection rest ih => exact ih _

end Calls

end RecordQuery.Query
