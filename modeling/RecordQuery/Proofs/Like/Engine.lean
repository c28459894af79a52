import RecordQuery.Like.Pattern

/-!
# Like patterns by way of regular expressions

A like pattern can be left to any engine for regular expressions: its expression is compiled, and
the text is matched against what comes of it. `Denotes` says what the expressions written for
patterns mean, and `Engine.Decides` is all that is asked of an engine. `like_eq_reading_like` says
that the library itself matches as the engine does that reads an expression back.
-/

namespace RecordQuery.Like

/-! ## The meaning of an expression -/

/-- `Denotes body text`: the expression between the anchors, in which `.*` is the only operator,
matches the whole text. -/
inductive Denotes : List Char → List Char → Prop
  | nil : Denotes [] []
  | anyRun {body text : List Char} (run : List Char) (h : Denotes body text) :
    Denotes ('.' :: '*' :: body) (run ++ text)
  | escaped {c : Char} {body text : List Char} (hc : c ∈ metacharacters) (h : Denotes body text) :
    Denotes ('\\' :: c :: body) (c :: text)
  | plain {c : Char} {body text : List Char} (hc : c ∉ metacharacters) (h : Denotes body text) :
    Denotes (c :: body) (c :: text)

theorem Covers.denotes {ts : List Token} {text : List Char} (h : Covers ts text) :
    Denotes (body ts) text := by
  induction h with
  | nil => exact .nil
  | literal c _ ih =>
    by_cases hc : c ∈ metacharacters
    · rw [body_escaped hc]
      exact .escaped hc ih
    · rw [body_plain hc]
      exact .plain hc ih
  | wildcard run _ ih =>
    rw [body_wildcard]
    exact .anyRun run ih

theorem Denotes.covers {body text : List Char} (h : Denotes body text) :
    ∀ {ts : List Token}, readBody body = some ts → Covers ts text := by
  induction h with
  | nil =>
    intro ts h
    cases h
    exact .nil
  | anyRun run _ ih =>
    intro ts h
    rw [readBody_wildcard] at h
    obtain ⟨us, hus, rfl⟩ := Option.map_eq_some_iff.1 h
    exact .wildcard run (ih hus)
  | @escaped c _ _ hc _ ih =>
    intro ts h
    rw [readBody_escaped hc] at h
    obtain ⟨us, hus, rfl⟩ := Option.map_eq_some_iff.1 h
    exact .literal c (ih hus)
  | @plain c _ _ hc _ ih =>
    intro ts h
    rw [readBody_plain hc] at h
    obtain ⟨us, hus, rfl⟩ := Option.map_eq_some_iff.1 h
    exact .literal c (ih hus)

theorem denotes_body_iff {ts : List Token} {text : List Char} :
    Denotes (body ts) text ↔ Covers ts text :=
  ⟨fun h => h.covers (readBody_body ts), Covers.denotes⟩

/-! ## Engines -/

/-- An engine for regular expressions, which may refuse an expression. -/
structure Engine where
  Regex : Type
  compile : String → Except PatternFault Regex
  isMatch : Regex → String → Bool

/-- An expression between its anchors, with `.` for every character. -/
def anchored (body : List Char) : String := "(?s)^" ++ String.ofList body ++ "$"

theorem expression_eq (pattern : String) :
    expression pattern = anchored (body (tokens pattern.toList)) := rfl

namespace Engine

/-- The engine decides the meaning of the expressions that it does not refuse. -/
def Decides (engine : Engine) : Prop :=
  ∀ (ts : List Token) (regex : engine.Regex), engine.compile (anchored (body ts)) = .ok regex →
    ∀ text, engine.isMatch regex text = true ↔ Denotes (body ts) text.toList

def like (engine : Engine) (text pattern : String) : Result Bool :=
  match engine.compile (expression pattern) with
  | .ok regex => .ok (engine.isMatch regex text)
  | .error fault => .error (.invalidPattern fault)

end Engine

/-! ## The engine that reads expressions back -/

def readAnchored : List Char → Option (List Token)
  | '(' :: '?' :: 's' :: ')' :: '^' :: rest =>
    if rest.getLast? = some '$' then readBody rest.dropLast else none
  | _ => none

theorem readAnchored_anchored (ts : List Token) :
    readAnchored (anchored (body ts)).toList = some ts := by
  have h : (anchored (body ts)).toList = '(' :: '?' :: 's' :: ')' :: '^' :: (body ts ++ ['$']) := by
    simp [anchored]
  rw [h]
  simp [readAnchored, readBody_body]

def withinLimit (ts : List Token) : Except PatternFault (List Token) :=
  if compiledSize ts ≤ sizeLimit then .ok ts else .error (.tooBig sizeLimit)

/-- The engine that reads an expression back and covers the text with its tokens. -/
def reading : Engine where
  Regex := List Token
  compile source :=
    (readAnchored source.toList).elim (.error (.malformed "operator not supported")) withinLimit
  isMatch ts text := covered ts text.toList

theorem reading_compile (ts : List Token) :
    reading.compile (anchored (body ts)) = withinLimit ts := by
  show (readAnchored (anchored (body ts)).toList).elim _ withinLimit = withinLimit ts
  rw [readAnchored_anchored, Option.elim_some]

theorem reading_decides : reading.Decides := by
  intro ts regex h text
  rw [reading_compile] at h
  unfold withinLimit at h
  split at h
  · cases h
    rw [denotes_body_iff]
    exact covered_iff
  · cases h

theorem like_eq_reading_like (text pattern : String) :
    RecordQuery.like text pattern = reading.like text pattern := by
  unfold RecordQuery.like LikePattern.compile Engine.like
  rw [expression_eq, reading_compile]
  unfold withinLimit
  by_cases h : compiledSize (tokens pattern.toList) ≤ sizeLimit
  · rw [dif_pos h, if_pos h]
    rfl
  · rw [dif_neg h, if_neg h]
    rfl

end RecordQuery.Like
