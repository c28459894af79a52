import RecordQuery.Proofs.Error.Sources

/-!
# Messages are unambiguous

A message is one text between the opening and the closing of its kind (`message_eq_framed`). The
text is free: it may contain quotes, or look like a message of another kind. Yet no opening begins
another (`opening_prefix_free`), so a text is framed for one kind only, and the kind decides what
stands in the frame (`framed_inj`). Hence a message tells the kind of a failure and the text that it
carries (`message_unambiguous`), and of a failure that was passed on, how often
(`message_iterate_wrapped_eq_iff`).
-/

namespace RecordQuery.QueryError

/-! ## Texts in a frame -/

def closing : ErrorKind → String
  | .invalidPattern | .callback => ""
  | .unknownOperator | .divisionByZero | .overflow => "'"

def framed (kind : ErrorKind) (text : String) : String :=
  opening kind ++ text ++ closing kind

theorem opening_prefix_free {kind kind' : ErrorKind}
    (h : (opening kind).toList <+: (opening kind').toList) : kind = kind' := by
  revert h
  cases kind <;> cases kind' <;> decide

theorem framed_inj {kind kind' : ErrorKind} {text text' : String}
    (h : framed kind text = framed kind' text') : kind = kind' ∧ text = text' := by
  have hl := congrArg String.toList h
  simp only [framed, String.toList_append, List.append_assoc] at hl
  have hkind : kind = kind' := by
    -- both openings begin the one message, so one of them begins the other
    have hbegins := List.prefix_append (opening kind).toList (text.toList ++ (closing kind).toList)
    rw [hl] at hbegins
    rcases List.prefix_or_prefix_of_prefix hbegins (List.prefix_append _ _) with hp | hp
    · exact opening_prefix_free hp
    · exact (opening_prefix_free hp).symm
  subst hkind
  rw [List.append_right_inj, List.append_left_inj] at hl
  exact ⟨rfl, String.toList_inj.1 hl⟩

/-! ## The text in a message -/

/-- The text that a failure carries into its message. -/
def embedded : QueryError → String
  | invalidPattern fault => fault.message
  | unknownOperator name => name
  | divisionByZero op => op
  | overflow op => op
  | raised failure => failure.message
  | wrapped inner => inner.message

theorem message_eq_framed (e : QueryError) : e.message = framed e.kind e.embedded := by
  cases e with
  | invalidPattern | raised | wrapped => exact String.append_empty.symm
  | unknownOperator | divisionByZero | overflow => rfl

theorem message_eq_iff {e e' : QueryError} :
    e.message = e'.message ↔ e.kind = e'.kind ∧ e.embedded = e'.embedded := by
  rw [message_eq_framed, message_eq_framed]
  constructor
  · exact framed_inj
  · rintro ⟨hkind, htext⟩
    rw [hkind, htext]

/-- Where there is a source, the text in the message is that of the source. -/
theorem head?_sources (e : QueryError) : e.sources.head? =
    if e.kind = .invalidPattern ∨ e.kind = .callback then some e.embedded else none := by
  cases e <;> rfl

theorem eq_of_sources_eq_nil {e e' : QueryError} (h : e.sources = []) (hkind : e.kind = e'.kind)
    (htext : e.embedded = e'.embedded) : e = e' := by
  cases e with
  | invalidPattern | raised | wrapped => cases h
  | unknownOperator name =>
    cases e' with
    | unknownOperator name' => exact congrArg unknownOperator htext
    | _ => cases hkind
  | divisionByZero op =>
    cases e' with
    | divisionByZero op' => exact congrArg divisionByZero htext
    | _ => cases hkind
  | overflow op =>
    cases e' with
    | overflow op' => exact congrArg overflow htext
    | _ => cases hkind

/-- **Messages are unambiguous.** Two failures show one message exactly if they are of one kind and
carry one text: the name that is unknown, the integer operation, or the message of the first
source. -/
theorem message_unambiguous (e e' : QueryError) :
    e.message = e'.message ↔
      e.kind = e'.kind ∧
      (∀ name, e = .unknownOperator name ↔ e' = .unknownOperator name) ∧
      (∀ op, e = .divisionByZero op ↔ e' = .divisionByZero op) ∧
      (∀ op, e = .overflow op ↔ e' = .overflow op) ∧
      e.sources.head? = e'.sources.head? := by
  rw [message_eq_iff]
  constructor
  · rintro ⟨hkind, htext⟩
    have hsame (failure : QueryError) (h : failure.sources = []) :
        e = failure ↔ e' = failure := by
      constructor
      · rintro rfl
        exact (eq_of_sources_eq_nil h hkind htext).symm
      · rintro rfl
        exact (eq_of_sources_eq_nil h hkind.symm htext.symm).symm
    refine ⟨hkind, fun name => hsame _ rfl, fun op => hsame _ rfl, fun op => hsame _ rfl, ?_⟩
    rw [head?_sources, head?_sources, hkind, htext]
  · rintro ⟨hkind, hname, hdivision, hoverflow, hsource⟩
    refine ⟨hkind, ?_⟩
    cases e with
    | unknownOperator name => rw [(hname name).1 rfl]
    | divisionByZero op => rw [(hdivision op).1 rfl]
    | overflow op => rw [(hoverflow op).1 rfl]
    | invalidPattern | raised | wrapped =>
      rw [head?_sources, head?_sources, ← hkind] at hsource
      exact Option.some.inj hsource

/-- The text can be a message itself, with its quotes: the caller's own words and a failure that was
passed on have one message, and one first source. -/
example : (raised (.ofText "integer overflow in 'add'")).message =
    (wrapped (.overflow "add")).message := by
  decide

/-! ## Failures passed on many times -/

theorem message_ne_message_wrapped {e : QueryError} (h : e.kind ≠ .callback)
    (inner : QueryError) : e.message ≠ (wrapped inner).message :=
  fun hmessage => h (message_eq_iff.1 hmessage).1

/-- Whatever the caller's code passed on, the message tells how often, unless the failure was the
caller's own from the start. -/
theorem message_iterate_wrapped_eq_iff {m n : ℕ} {e e' : QueryError} (he : e.kind ≠ .callback)
    (he' : e'.kind ≠ .callback) :
    (wrapped^[m] e).message = (wrapped^[n] e').message ↔ m = n ∧ e.message = e'.message := by
  induction m generalizing n with
  | zero =>
    cases n with
    | zero => simp
    | succ n =>
      rw [Function.iterate_succ_apply']
      exact iff_of_false (message_ne_message_wrapped he _) fun h => Nat.succ_ne_zero n h.1.symm
  | succ m ih =>
    rw [Function.iterate_succ_apply']
    cases n with
    | zero =>
      exact iff_of_false (message_ne_message_wrapped he' _).symm fun h => Nat.succ_ne_zero m h.1
    | succ n =>
      rw [Function.iterate_succ_apply', message_wrapped, message_wrapped,
        String.append_right_inj, ih, Nat.succ_inj]

end RecordQuery.QueryError
