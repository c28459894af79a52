import Mathlib.Logic.Function.Iterate
import RecordQuery.Error

/-!
# The failures beneath a failure

Message and sources of a failure are two recursions over it. Wrapping keeps them in step: each time
the same text comes in front of the message, and the message without it in front of the sources
(`message_iterate_wrapped`, `getElem?_sources_iterate_wrapped`), so that the sources spell out the
message level by level (`wrapped_keeps_history`). A program does not see the list of sources but
asks an error for the one beneath it, again and again: `Errors` is all that it sees, and a failure
of the library has its sources in any such view in which errors tell what they carry
(`Errors.Lawful`).
-/

namespace RecordQuery

/-! ## Errors as a program sees them -/

/-- The errors of a program, among them the library's, seen from outside: each shows a message, and
there may be another error beneath it. -/
structure Errors where
  Error : Type
  message : Error → String
  source : Error → Option Error
  ofQuery : QueryError → Error
  ofFault : PatternFault → Error
  ofFailure : Failure → Error

namespace Errors

variable {errors : Errors}

/-- The messages beneath an error, down to an error with none beneath it. -/
inductive Chain (errors : Errors) : errors.Error → List String → Prop
  | last {error : errors.Error} (h : errors.source error = none) : Chain errors error []
  | next {error beneath : errors.Error} {messages : List String}
    (h : errors.source error = some beneath) (rest : Chain errors beneath messages) :
    Chain errors error (errors.message beneath :: messages)

/-- The library's failures show their messages, and beneath each is the error that it carries. -/
structure Lawful (errors : Errors) : Prop where
  message_ofQuery (e : QueryError) : errors.message (errors.ofQuery e) = e.message
  message_ofFault (fault : PatternFault) : errors.message (errors.ofFault fault) = fault.message
  message_ofFailure (failure : Failure) :
    errors.message (errors.ofFailure failure) = failure.message
  source_invalidPattern (fault : PatternFault) :
    errors.source (errors.ofQuery (.invalidPattern fault)) = some (errors.ofFault fault)
  source_raised (failure : Failure) :
    errors.source (errors.ofQuery (.raised failure)) = some (errors.ofFailure failure)
  source_wrapped (inner : QueryError) :
    errors.source (errors.ofQuery (.wrapped inner)) = some (errors.ofQuery inner)
  source_unknownOperator (name : String) :
    errors.source (errors.ofQuery (.unknownOperator name)) = none
  source_divisionByZero (op : String) : errors.source (errors.ofQuery (.divisionByZero op)) = none
  source_overflow (op : String) : errors.source (errors.ofQuery (.overflow op)) = none
  source_ofFault (fault : PatternFault) : errors.source (errors.ofFault fault) = none
  chain_ofFailure (failure : Failure) : errors.Chain (errors.ofFailure failure) failure.sources

theorem Chain.unique {error : errors.Error} {messages messages' : List String}
    (h : errors.Chain error messages) (h' : errors.Chain error messages') :
    messages = messages' := by
  induction h generalizing messages' with
  | last hnone =>
    cases h' with
    | last => rfl
    | next hsome => cases hnone.symm.trans hsome
  | next hsome _ ih =>
    cases h' with
    | last hnone => cases hnone.symm.trans hsome
    | next hsome' hrest =>
      cases hsome.symm.trans hsome'
      rw [ih hrest]

theorem chain_ofQuery (h : errors.Lawful) (e : QueryError) :
    errors.Chain (errors.ofQuery e) e.sources := by
  induction e with
  | invalidPattern fault =>
    have hlast : errors.Chain (errors.ofFault fault) [] := .last (h.source_ofFault fault)
    have hchain := Chain.next (h.source_invalidPattern fault) hlast
    rwa [h.message_ofFault] at hchain
  | unknownOperator name => exact .last (h.source_unknownOperator name)
  | divisionByZero op => exact .last (h.source_divisionByZero op)
  | overflow op => exact .last (h.source_overflow op)
  | raised failure =>
    have hchain := Chain.next (h.source_raised failure) (h.chain_ofFailure failure)
    rwa [h.message_ofFailure] at hchain
  | wrapped inner ih =>
    have hchain := Chain.next (h.source_wrapped inner) ih
    rwa [h.message_ofQuery] at hchain

theorem chain_ofQuery_iff (h : errors.Lawful) {e : QueryError} {messages : List String} :
    errors.Chain (errors.ofQuery e) messages ↔ messages = e.sources := by
  constructor
  · intro hchain
    exact hchain.unique (chain_ofQuery h e)
  · rintro rfl
    exact chain_ofQuery h e

/-- Errors that are failures of the library, or else a message with the messages beneath it. -/
def library : Errors where
  Error := QueryError ⊕ String × List String
  message
    | .inl e => e.message
    | .inr (message, _) => message
  source
    | .inl (.invalidPattern fault) => some (.inr (fault.message, []))
    | .inl (.raised failure) => some (.inr (failure.message, failure.sources))
    | .inl (.wrapped inner) => some (.inl inner)
    | .inl _ => none
    | .inr (_, []) => none
    | .inr (_, message :: messages) => some (.inr (message, messages))
  ofQuery := .inl
  ofFault fault := .inr (fault.message, [])
  ofFailure failure := .inr (failure.message, failure.sources)

theorem chain_library (message : String) (messages : List String) :
    library.Chain (.inr (message, messages)) messages := by
  induction messages generalizing message with
  | nil => exact .last rfl
  | cons next messages ih => exact .next rfl (ih next)

theorem lawful_library : library.Lawful where
  message_ofQuery _ := rfl
  message_ofFault _ := rfl
  message_ofFailure _ := rfl
  source_invalidPattern _ := rfl
  source_raised _ := rfl
  source_wrapped _ := rfl
  source_unknownOperator _ := rfl
  source_divisionByZero _ := rfl
  source_overflow _ := rfl
  source_ofFault _ := rfl
  chain_ofFailure failure := chain_library failure.message failure.sources

end Errors

/-! ## Wrapping many times -/

namespace QueryError

/-- The text before the message of a failure of the caller's code, as often as given. -/
def leads (n : ℕ) : String := String.join (List.replicate n callbackLead)

@[simp] theorem leads_zero : leads 0 = "" := rfl

theorem leads_succ (n : ℕ) : leads (n + 1) = callbackLead ++ leads n := by
  rw [leads, List.replicate_succ, String.join_cons, leads]

theorem message_iterate_wrapped (n : ℕ) (e : QueryError) :
    (wrapped^[n] e).message = leads n ++ e.message := by
  induction n with
  | zero => simp
  | succ n ih =>
    rw [Function.iterate_succ_apply', message_wrapped, ih, leads_succ, String.append_assoc]

theorem length_sources_iterate_wrapped (n : ℕ) (e : QueryError) :
    (wrapped^[n] e).sources.length = n + e.sources.length := by
  induction n with
  | zero => simp
  | succ n ih =>
    rw [Function.iterate_succ_apply', sources_wrapped, List.length_cons, ih]
    omega

/-- The failure that was wrapped `k + 1` times is behind the `k` that came later. -/
theorem getElem?_sources_iterate_wrapped (k : ℕ) (e : QueryError) :
    (wrapped^[k + 1] e).sources[k]? = some e.message := by
  induction k with
  | zero => rfl
  | succ k ih => rw [Function.iterate_succ_apply', sources_wrapped, List.getElem?_cons_succ, ih]

theorem drop_sources_iterate_wrapped (n : ℕ) (e : QueryError) :
    (wrapped^[n] e).sources.drop n = e.sources := by
  induction n with
  | zero => rfl
  | succ n ih => rw [Function.iterate_succ_apply', sources_wrapped, List.drop_succ_cons, ih]

/-! ## The first source -/

def opening : ErrorKind → String
  | .invalidPattern => "invalid like pattern: "
  | .unknownOperator => "unknown operator '"
  | .divisionByZero => "integer division by zero in '"
  | .overflow => "integer overflow in '"
  | .callback => callbackLead

theorem sources_eq_nil (e : QueryError) (hpattern : e.kind ≠ .invalidPattern)
    (hcallback : e.kind ≠ .callback) : e.sources = [] := by
  cases e with
  | unknownOperator | divisionByZero | overflow => rfl
  | invalidPattern => exact absurd rfl hpattern
  | raised | wrapped => exact absurd rfl hcallback

theorem exists_first_source (e : QueryError) (h : e.kind = .invalidPattern ∨ e.kind = .callback) :
    ∃ first rest, e.sources = first :: rest ∧ e.message = opening e.kind ++ first := by
  cases e with
  | invalidPattern fault => exact ⟨fault.message, [], rfl, rfl⟩
  | raised failure => exact ⟨failure.message, failure.sources, rfl, rfl⟩
  | wrapped inner => exact ⟨inner.message, inner.sources, rfl, rfl⟩
  | unknownOperator | divisionByZero | overflow => simp [kind] at h

/-- **Wrapped failures keep their history.** A failure that was wrapped `n` times has the lead `n`
times before its message, and `n` more sources than before: the messages without the first of these
leads, without the first two, and so on, and behind them its own sources. Only failures of a pattern
or of the caller's code have sources at all. The first is the message without the text with which
all messages of the kind begin, and behind it are those of a wrapped failure. These sources are what
a program finds that asks each error for the one beneath it. -/
theorem wrapped_keeps_history (e : QueryError) (n : ℕ) (errors : Errors) (h : errors.Lawful) :
    let whole := wrapped^[n] e
    (whole.message = leads n ++ e.message ∧
      whole.sources.length = n + e.sources.length ∧
      (∀ k < n, ∃ entry,
        whole.sources[k]? = some entry ∧ whole.message = leads (k + 1) ++ entry) ∧
      whole.sources.drop n = e.sources) ∧
    (e.kind ≠ .invalidPattern → e.kind ≠ .callback → e.sources = []) ∧
    (e.kind = .invalidPattern ∨ e.kind = .callback →
      ∃ first rest, e.sources = first :: rest ∧ e.message = opening e.kind ++ first) ∧
    (wrapped e).sources.tail = e.sources ∧
    (∀ messages, errors.Chain (errors.ofQuery whole) messages ↔ messages = whole.sources) := by
  intro whole
  refine ⟨⟨message_iterate_wrapped n e, length_sources_iterate_wrapped n e, fun k hk => ?_,
    drop_sources_iterate_wrapped n e⟩, sources_eq_nil e, exists_first_source e, rfl,
    fun messages => Errors.chain_ofQuery_iff h⟩
  -- the entry at `k` is the message of what was wrapped by the last `k + 1` times
  obtain ⟨m, rfl⟩ : ∃ m, n = k + 1 + m := ⟨n - (k + 1), by omega⟩
  refine ⟨(wrapped^[m] e).message, ?_, ?_⟩
  · show (wrapped^[k + 1 + m] e).sources[k]? = _
    rw [Function.iterate_add_apply, getElem?_sources_iterate_wrapped]
  · show (wrapped^[k + 1 + m] e).message = _
    rw [Function.iterate_add_apply, message_iterate_wrapped]

/-- A pattern that was refused, passed on twice by the caller's code. -/
theorem wrapped_keeps_history_pattern :
    let refused : QueryError := .invalidPattern (.malformed "unclosed group")
    let whole := wrapped^[2] refused
    let overflow : QueryError := .overflow "add"
    Errors.library.Lawful ∧
      whole.message =
        "query callback failed: query callback failed: invalid like pattern: unclosed group" ∧
      whole.sources = ["query callback failed: invalid like pattern: unclosed group",
        "invalid like pattern: unclosed group", "unclosed group"] ∧
      (∃ entry, whole.sources[1]? = some entry ∧ whole.message = leads 2 ++ entry) ∧
      Errors.library.Chain (.inl whole) whole.sources ∧
      refused.kind = .invalidPattern ∧
      (∃ first rest, refused.sources = first :: rest ∧
        refused.message = opening refused.kind ++ first) ∧
      overflow.kind ≠ .invalidPattern ∧ overflow.kind ≠ .callback ∧
      overflow.sources = [] := by
  intro refused whole overflow
  obtain ⟨⟨-, -, hentry, -⟩, -, hfirst, -, hchain⟩ :=
    wrapped_keeps_history refused 2 Errors.library Errors.lawful_library
  have hnone := (wrapped_keeps_history overflow 0 Errors.library Errors.lawful_library).2.1
  have hpattern : overflow.kind ≠ .invalidPattern := by decide
  have hcallback : overflow.kind ≠ .callback := by decide
  exact ⟨Errors.lawful_library, by decide, by decide, hentry 1 (by decide), (hchain _).2 rfl, rfl,
    hfirst (.inl rfl), hpattern, hcallback, hnone hpattern hcallback⟩

end QueryError

end RecordQuery
