import RecordQuery.Query.Basic
import RecordQuery.Text.Labelled

/-!
# The diagnostic form of a query

A query is shown by the counts of its parts, without its records and conditions.
-/

namespace RecordQuery.Query

variable {α : Type u} {ρ : Type v}

/-- The labelled parts of the diagnostic form. -/
def described (query : Query α ρ) : Text.Labelled :=
  ⟨"Query", [
    ("source_len", toString query.sourceLength),
    ("filters", toString query.filterCount),
    ("has_projection", if query.hasProjection then "true" else "false")]⟩

/-- The diagnostic form on one line. -/
def detail (query : Query α ρ) : String := query.described.line

/-- The diagnostic form with one part a line. -/
def detailBlock (query : Query α ρ) : String := query.described.block

end RecordQuery.Query
