import RecordQuery.Query.Basic

/-!
# Rows of a query

`Rows` is a query with the part of its source that is still unread. `next` reads on to the first
record that contributes something; reading on after a failure is possible. `toList` drains the rows,
`collect` stops at the first failure, and `execute` collects from the start. `toList_eq` and
`collect_eq` describe both by the outcomes of the unread records alone.
-/

namespace RecordQuery

/-- A position in a run of a query. -/
structure Rows (α : Type u) (ρ : Type v) where
  query : Query α ρ
  /-- The records that no row has been read from yet. -/
  unread : List α

variable {α : Type u} {ρ : Type v}

def Query.rows (query : Query α ρ) : Rows α ρ := ⟨query, query.source⟩

namespace Rows

/-! ## Reading a row -/

/-- The first row from a list of records, and the records behind it. -/
def scan (query : Query α ρ) : List α → Option (Result ρ) × List α
  | [] => (none, [])
  | record :: unread =>
    match query.outcome record with
    | some row => (some row, unread)
    | none => scan query unread

/-- The next row, if there is one, and the rows behind it. -/
def next (rows : Rows α ρ) : Option (Result ρ) × Rows α ρ :=
  let (row, unread) := scan rows.query rows.unread
  (row, ⟨rows.query, unread⟩)

/-- The least and the greatest number of rows to come, as far as is known without reading. -/
def sizeHint (rows : Rows α ρ) : Nat × Option Nat := (0, some rows.unread.length)

theorem length_scan_lt {query : Query α ρ} {records : List α} {row : Result ρ}
    (h : (scan query records).1 = some row) : (scan query records).2.length < records.length := by
  induction records with
  | nil => simp [scan] at h
  | cons record unread ih =>
    cases ho : query.outcome record with
    | some row' => simp [scan, ho]
    | none =>
      simp only [scan, ho] at h ⊢
      exact Nat.lt_succ_of_lt (ih h)

theorem unread_scan_of_none {query : Query α ρ} {records : List α}
    (h : (scan query records).1 = none) : (scan query records).2 = [] := by
  induction records with
  | nil => rfl
  | cons record unread ih =>
    cases ho : query.outcome record with
    | some row => simp [scan, ho] at h
    | none =>
      simp only [scan, ho] at h ⊢
      exact ih h

theorem eq_of_next_none {rows rest : Rows α ρ} (h : rows.next = (none, rest)) :
    rest = ⟨rows.query, []⟩ := by
  cases hs : scan rows.query rows.unread with
  | mk first unread =>
    simp only [next, hs, Prod.mk.injEq] at h
    obtain ⟨rfl, rfl⟩ := h
    have hunread := unread_scan_of_none (congrArg Prod.fst hs)
    rw [hs] at hunread
    exact congrArg (Rows.mk rows.query) hunread

theorem length_unread_lt {rows rest : Rows α ρ} {row : Result ρ}
    (h : rows.next = (some row, rest)) : rest.unread.length < rows.unread.length := by
  cases h' : scan rows.query rows.unread with
  | mk first unread =>
    simp only [next, h', Prod.mk.injEq] at h
    obtain ⟨rfl, rfl⟩ := h
    have := length_scan_lt (congrArg Prod.fst h')
    rwa [h'] at this

/-! ## Reading all rows -/

/-- All rows to come, failures included. -/
def toList (rows : Rows α ρ) : List (Result ρ) :=
  match _ : rows.next with
  | (none, _) => []
  | (some row, rest) => row :: rest.toList
termination_by rows.unread.length
decreasing_by exact length_unread_lt ‹_›

/-- The results of all rows to come, or the first failure among them. -/
def collect (rows : Rows α ρ) : Result (List ρ) :=
  match _ : rows.next with
  | (none, _) => .ok []
  | (some (.error e), _) => .error e
  | (some (.ok item), rest) => return item :: (← rest.collect)
termination_by rows.unread.length
decreasing_by exact length_unread_lt ‹_›

/-- Runs a loop over the rows to come, which may leave before the end. -/
protected def forIn {m : Type w → Type x} [Monad m] {β : Type w} (rows : Rows α ρ) (state : β)
    (step : Result ρ → β → m (ForInStep β)) : m β :=
  match _ : rows.next with
  | (none, _) => pure state
  | (some row, rest) => do
    match ← step row state with
    | .done state => pure state
    | .yield state => rest.forIn state step
termination_by rows.unread.length
decreasing_by exact length_unread_lt ‹_›

instance {m : Type w → Type x} [Monad m] : ForIn m (Rows α ρ) (Result ρ) := ⟨Rows.forIn⟩

/-! ## The outcomes of the records as rows -/

theorem next_of_outcome_some {query : Query α ρ} {record : α} {unread : List α}
    {row : Result ρ} (h : query.outcome record = some row) :
    next ⟨query, record :: unread⟩ = (some row, ⟨query, unread⟩) := by
  simp [next, scan, h]

theorem next_of_outcome_none {query : Query α ρ} {record : α} {unread : List α}
    (h : query.outcome record = none) :
    next ⟨query, record :: unread⟩ = next ⟨query, unread⟩ := by
  simp [next, scan, h]

theorem toList_of_next_none {rows rest : Rows α ρ} (h : rows.next = (none, rest)) :
    rows.toList = [] := by
  rw [toList]
  split <;> simp_all

theorem toList_of_next_some {rows rest : Rows α ρ} {row : Result ρ}
    (h : rows.next = (some row, rest)) : rows.toList = row :: rest.toList := by
  rw [toList]
  split <;> simp_all

theorem collect_of_next_error {rows rest : Rows α ρ} {e : QueryError}
    (h : rows.next = (some (.error e), rest)) : rows.collect = .error e := by
  rw [collect]
  split <;> simp_all

theorem collect_of_next_ok {rows rest : Rows α ρ} {item : ρ}
    (h : rows.next = (some (.ok item), rest)) :
    rows.collect = return item :: (← rest.collect) := by
  rw [collect]
  split <;> simp_all

theorem toList_eq (rows : Rows α ρ) : rows.toList = rows.unread.filterMap rows.query.outcome := by
  obtain ⟨query, records⟩ := rows
  induction records with
  | nil => rw [toList]; rfl
  | cons record unread ih =>
    cases h : query.outcome record with
    | some row =>
      rw [toList_of_next_some (next_of_outcome_some h), List.filterMap_cons_some h, ← ih]
    | none => rw [List.filterMap_cons_none h, ← ih, toList, toList, next_of_outcome_none h]

@[simp] theorem toList_nil (query : Query α ρ) : toList ⟨query, []⟩ = [] := by
  rw [toList_eq]
  rfl

theorem collect_eq (rows : Rows α ρ) :
    rows.collect = (rows.unread.filterMap rows.query.outcome).mapM id := by
  obtain ⟨query, records⟩ := rows
  induction records with
  | nil => rw [collect]; rfl
  | cons record unread ih =>
    cases h : query.outcome record with
    | some row =>
      rw [List.filterMap_cons_some h, List.mapM_cons, ← ih]
      cases row with
      | error e => exact collect_of_next_error (next_of_outcome_some h)
      | ok item => exact collect_of_next_ok (next_of_outcome_some h)
    | none => rw [List.filterMap_cons_none h, ← ih, collect, collect, next_of_outcome_none h]

end Rows

/-! ## Running a query -/

namespace Query

/-- The results for all accepted records in the order of the source, or the first failure. -/
def execute (query : Query α ρ) : Result (List ρ) := query.rows.collect

instance {m : Type w → Type x} [Monad m] : ForIn m (Query α ρ) (Result ρ) :=
  ⟨fun query => query.rows.forIn⟩

theorem toList_rows (query : Query α ρ) :
    query.rows.toList = query.source.filterMap query.outcome := query.rows.toList_eq

theorem execute_eq_mapM (query : Query α ρ) : query.execute = query.rows.toList.mapM id := by
  rw [execute, Rows.collect_eq, Rows.toList_eq]

theorem execute_eq_of_toList_eq {query query' : Query α ρ}
    (h : query.rows.toList = query'.rows.toList) : query.execute = query'.execute := by
  rw [execute_eq_mapM, execute_eq_mapM, h]

end Query

/-- Builds a query over `source` as `configure` says and executes it. -/
def query (source : List α) (configure : Query α α → Query α ρ) : Result (List ρ) :=
  (configure (Query.ofSource source)).execute

end RecordQuery
