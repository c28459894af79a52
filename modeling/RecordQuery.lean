import RecordQuery.Condition
import RecordQuery.Error
import RecordQuery.Like.Scan
import RecordQuery.Op
import RecordQuery.Proofs.Error.Messages
import RecordQuery.Proofs.Like.Composition
import RecordQuery.Proofs.Like.Escaping
import RecordQuery.Proofs.Like.Inclusion
import RecordQuery.Proofs.Like.Scanning
import RecordQuery.Proofs.Query.Agreement
import RecordQuery.Proofs.Query.Building
import RecordQuery.Proofs.Query.Complements
import RecordQuery.Proofs.Query.Fusion
import RecordQuery.Proofs.Query.Interleaving
import RecordQuery.Proofs.Query.Loops
import RecordQuery.Proofs.Query.Membership
import RecordQuery.Proofs.Query.Patterns
import RecordQuery.Proofs.Query.Progress
import RecordQuery.Proofs.Query.Pushdown
import RecordQuery.Proofs.Query.Reordering
import RecordQuery.Proofs.Query.Sources
import RecordQuery.Proofs.Query.Staging
import RecordQuery.Proofs.Value.Chains
import RecordQuery.Proofs.Value.Comparison
import RecordQuery.Proofs.Value.Division
import RecordQuery.Proofs.Value.Exactness
import RecordQuery.Proofs.Value.Inverses
import RecordQuery.Proofs.Value.Ordering
import RecordQuery.Query.Calls
import RecordQuery.Query.Cursors
import RecordQuery.Query.Described
import RecordQuery.Query.Rows
import RecordQuery.Subject
import RecordQuery.Value.Binary.Arithmetic
import RecordQuery.Value.ValueType
