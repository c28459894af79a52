import RecordQuery.Query.Calls
import RecordQuery.Query.Rows

/-!
# The order of building calls

Filters and projections are kept apart while a query is built, so the order between them leaves no
trace. `apply_eq` says what a sequence of calls makes of a query; two sequences with the same
filters and the same last projection make the same of it. `indistinguishable_of_calls` draws the
conclusion for everything that can be asked of a query, and for the counts that it keeps of its
calls.
-/

namespace RecordQuery.Query

namespace Calls

variable {α : Type u} {ρ σ : Type v}

/-! ## What the calls are -/

inductive Part
  | filter
  | projection
  deriving DecidableEq

def parts {ρ σ : Type v} : Calls α ρ σ → List Part
  | done => []
  | filter _ rest => .filter :: rest.parts
  | tryFilter _ rest => .filter :: rest.parts
  | select _ rest => .projection :: rest.parts
  | trySelect _ rest => .projection :: rest.parts

theorem length_filters (calls : Calls α ρ σ) :
    calls.filters.length = calls.parts.count .filter := by
  induction calls with
  | done => rfl
  | filter test rest ih => simp [filters, parts, ih]
  | tryFilter test rest ih => simp [filters, parts, ih]
  | select projection rest ih => simp [filters, parts, ih]
  | trySelect projection rest ih => simp [filters, parts, ih]

theorem isSome_lastFrom (calls : Calls α ρ σ) (last : Option (α → Result ρ)) :
    (calls.lastFrom last).isSome ↔ last.isSome ∨ .projection ∈ calls.parts := by
  induction calls with
  | done => simp [lastFrom, parts]
  | filter test rest ih => simp [lastFrom, parts, ih]
  | tryFilter test rest ih => simp [lastFrom, parts, ih]
  | select projection rest ih => simp [lastFrom, parts, lastFrom_some]
  | trySelect projection rest ih => simp [lastFrom, parts, lastFrom_some]

theorem isSome_lastProjection (calls : Calls α ρ σ) :
    calls.lastProjection.isSome ↔ .projection ∈ calls.parts := by
  simp [lastProjection, isSome_lastFrom]

/-! ## The last projection -/

theorem lastFrom_of_mem {calls : Calls α ρ σ} (h : .projection ∈ calls.parts)
    (last last' : Option (α → Result ρ)) : calls.lastFrom last = calls.lastFrom last' := by
  induction calls with
  | done => simp [parts] at h
  | filter test rest ih => exact ih (by simpa [parts] using h) last last'
  | tryFilter test rest ih => exact ih (by simpa [parts] using h) last last'
  | select projection rest ih => rfl
  | trySelect projection rest ih => rfl

theorem lastProjection_of_mem {calls : Calls α ρ σ} (h : .projection ∈ calls.parts)
    (last : α → Result ρ) : calls.lastProjection = some (calls.projectionFrom last) := by
  rw [← lastFrom_some]
  exact lastFrom_of_mem h none (some last)

/-- Calls that choose no projection leave the one before them in place, and with it the type of the
results. -/
theorem projectionFrom_of_not_mem {calls : Calls α ρ σ} (h : .projection ∉ calls.parts) :
    ∃ same : ρ = σ, ∀ last, calls.projectionFrom last = same ▸ last := by
  induction calls with
  | done => exact ⟨rfl, fun _ => rfl⟩
  | filter test rest ih => exact ih (by simpa [parts] using h)
  | tryFilter test rest ih => exact ih (by simpa [parts] using h)
  | select projection rest ih => simp [parts] at h
  | trySelect projection rest ih => simp [parts] at h

theorem projectionFrom_eq {calls calls' : Calls α ρ σ}
    (h : calls'.lastProjection = calls.lastProjection) (last : α → Result ρ) :
    calls'.projectionFrom last = calls.projectionFrom last := by
  have hmem : .projection ∈ calls'.parts ↔ .projection ∈ calls.parts := by
    rw [← isSome_lastProjection, ← isSome_lastProjection, h]
  by_cases hp : .projection ∈ calls.parts
  · rw [lastProjection_of_mem hp last, lastProjection_of_mem (hmem.2 hp) last] at h
    exact Option.some.inj h
  · -- neither chooses a projection, so both have the type of the results as it was
    obtain ⟨rfl, hkept⟩ := projectionFrom_of_not_mem hp
    obtain ⟨_, hkept'⟩ := projectionFrom_of_not_mem (mt hmem.1 hp)
    rw [hkept, hkept']

/-! ## What the calls make of a query -/

theorem hasProjection_apply (calls : Calls α ρ σ) (query : Query α ρ) :
    (calls.apply query).hasProjection = (query.hasProjection || calls.lastProjection.isSome) := by
  rw [Bool.eq_iff_iff, Bool.or_eq_true, isSome_lastProjection]
  induction calls with
  | done => simp [apply, parts]
  | filter test rest ih => simp [apply, parts, ih, Query.filter, Query.tryFilter]
  | tryFilter test rest ih => simp [apply, parts, ih, Query.tryFilter]
  | select projection rest ih => simp [apply, parts, ih, Query.select, Query.trySelect]
  | trySelect projection rest ih => simp [apply, parts, ih, Query.trySelect]

theorem apply_eq (calls : Calls α ρ σ) (query : Query α ρ) :
    calls.apply query =
      ⟨query.source, query.filters ++ calls.filters, calls.projectionFrom query.projection,
        query.hasProjection || calls.lastProjection.isSome⟩ := by
  rw [← calls.source_apply query, ← filters_apply, ← projection_apply,
    ← hasProjection_apply]

theorem apply_eq_apply {calls calls' : Calls α ρ σ} (hfilters : calls'.filters = calls.filters)
    (hprojection : calls'.lastProjection = calls.lastProjection) (query : Query α ρ) :
    calls'.apply query = calls.apply query := by
  rw [apply_eq, apply_eq, hfilters, hprojection, projectionFrom_eq hprojection]

/-- A projection that is replaced leaves nothing behind, whatever it would have done. -/
theorem apply_trySelect_eq {calls : Calls α ρ σ} (h : .projection ∈ calls.parts)
    (query : Query α τ) (replaced replaced' : α → Result ρ) :
    calls.apply (query.trySelect replaced) = calls.apply (query.trySelect replaced') := by
  have hprojection : calls.projectionFrom replaced = calls.projectionFrom replaced' := by
    have h' := lastProjection_of_mem h replaced
    rw [lastProjection_of_mem h replaced'] at h'
    exact Option.some.inj h'.symm
  rw [apply_eq, apply_eq]
  simp only [Query.trySelect, hprojection]

end Calls

/-! ## What can be asked of a query -/

section Asked

variable {α : Type u} {ρ : Type v}

/-- No question to the one query is answered otherwise by the other. -/
structure Indistinguishable (query query' : Query α ρ) : Prop where
  accepts : ∀ record, query.accepts record = query'.accepts record
  rows : query.rows.toList = query'.rows.toList
  execute : query.execute = query'.execute
  sourceLength : query.sourceLength = query'.sourceLength
  filterCount : query.filterCount = query'.filterCount
  hasProjection : query.hasProjection = query'.hasProjection

theorem Indistinguishable.refl (query : Query α ρ) : Indistinguishable query query :=
  ⟨fun _ => rfl, rfl, rfl, rfl, rfl, rfl⟩

end Asked

variable {α σ : Type u}

/-- **The order between filters and projections does not count.** Sequences of calls with the same
filters and the same last projection build queries that nothing tells apart, and a projection that
is replaced later does not count even if it would fail on every record. A query knows the number of
its records and of its filters and whether a projection was chosen. -/
theorem indistinguishable_of_calls (source : List α) (calls : Calls α α σ) :
    (∀ calls' : Calls α α σ, calls'.filters = calls.filters →
      calls'.lastProjection = calls.lastProjection →
      Indistinguishable (calls'.apply (ofSource source)) (calls.apply (ofSource source))) ∧
    (∀ (ρ τ : Type u) (before : Calls α α ρ) (replaced replaced' : α → Result τ)
        (after : Calls α τ σ), .projection ∈ after.parts →
      Indistinguishable (after.apply ((before.apply (ofSource source)).trySelect replaced))
        (after.apply ((before.apply (ofSource source)).trySelect replaced'))) ∧
    (calls.apply (ofSource source)).filterCount = calls.parts.count .filter ∧
    ((calls.apply (ofSource source)).hasProjection ↔ .projection ∈ calls.parts) ∧
    (calls.apply (ofSource source)).sourceLength = source.length := by
  refine ⟨fun calls' hfilters hprojection => ?_,
    fun ρ τ before replaced replaced' after h => ?_,
    ?_, ?_, ?_⟩
  · rw [Calls.apply_eq_apply hfilters hprojection]
    exact .refl _
  · rw [Calls.apply_trySelect_eq h _ replaced replaced']
    exact .refl _
  · rw [Calls.apply_eq, ← Calls.length_filters]
    rfl
  · rw [Calls.apply_eq, ← Calls.isSome_lastProjection]
    rfl
  · rw [Calls.apply_eq]
    rfl

/-- A projection that fails on every record, with results of another type, makes no difference to
calls in another order; nor does one in front of all of them. -/
theorem indistinguishable_of_calls_failing :
    let failing : (τ : Type) → Nat → Result τ := fun _ _ => .error (.divisionByZero "div")
    let odd : Nat → Result Bool := fun n => .ok (n % 2 = 1)
    let calls : Calls Nat Nat Nat := .filter (· < 9) (.tryFilter odd (.select (· + 1) .done))
    let calls' : Calls Nat Nat Nat := .trySelect (failing String)
      (.filter (· < 9) (.select (· + 1) (.tryFilter odd .done)))
    let query := ofSource [7, 8, 11]
    calls'.filters = calls.filters ∧ calls'.lastProjection = calls.lastProjection ∧
      Indistinguishable (calls'.apply query) (calls.apply query) ∧
      .projection ∈ calls.parts ∧
      Indistinguishable (calls.apply (query.trySelect (failing Nat)))
        (calls.apply (query.trySelect .ok)) ∧
      (calls.apply query).filterCount = 2 := by
  intro failing odd calls calls' query
  have h := indistinguishable_of_calls [7, 8, 11] calls
  have hp : .projection ∈ calls.parts := by decide
  exact ⟨rfl, rfl, h.1 calls' rfl rfl, hp, h.2.1 Nat Nat .done (failing Nat) .ok calls hp,
    h.2.2.1⟩

end RecordQuery.Query
