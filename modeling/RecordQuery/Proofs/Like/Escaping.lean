import RecordQuery.Like.Expression
import RecordQuery.Like.Pieces

/-!
# Expressions are unambiguous

The body of an expression is the pieces of the pattern, each with its operators behind backslashes,
joined by `.*` (`body_tokens`). A piece can end in a backslash or look like an operator itself, but
the reader leaves every piece where the piece ends (`readBody_escape_append`), and it accepts
nothing that was not written for tokens (`readBody_eq_some_iff`). So a pattern is known by its
expression.
-/

namespace RecordQuery.Like

variable {text : List Char} {ts : List Token}

/-! ## Pieces behind backslashes -/

/-- A text with a backslash before each of its metacharacters. -/
def escape (text : List Char) : List Char :=
  text.flatMap fun c => if c ∈ metacharacters then ['\\', c] else [c]

theorem escape_eq_body (text : List Char) : escape text = body (text.map .literal) :=
  (List.flatMap_map Token.literal Token.written text).symm

/-- The reader takes an escaped text for its characters and goes on right behind it. -/
theorem readBody_escape_append (text rest : List Char) :
    readBody (escape text ++ rest) = (readBody rest).map (text.map .literal ++ ·) := by
  induction text with
  | nil => exact Option.map_id'.symm
  | cons c text ih =>
    rw [escape_eq_body] at ih ⊢
    by_cases h : c ∈ metacharacters
    · rw [List.map_cons, body_escaped h, List.cons_append, List.cons_append, readBody_escaped h,
        ih, Option.map_map]
      rfl
    · rw [List.map_cons, body_plain h, List.cons_append, readBody_plain h, ih, Option.map_map]
      rfl

theorem body_tokens (pattern : List Char) :
    body (tokens pattern) = ".*".toList.intercalate ((pieces pattern).map escape) := by
  induction pattern with
  | nil => rfl
  | cons c pattern ih =>
    obtain ⟨piece, ps, hp⟩ := List.exists_cons_of_ne_nil (pieces_ne_nil pattern)
    by_cases h : c = wildcardChar
    · subst h
      rw [tokens_cons_wildcardChar, body_wildcard, ih, pieces_cons_wildcardChar, hp, List.map_cons,
        List.map_cons, List.map_cons, List.intercalate_cons_cons]
      rfl
    · -- the character goes to the first piece, and what is written for it to the first escaped one
      have hb : body (.literal c :: tokens pattern) =
          (Token.literal c).written ++ body (tokens pattern) := rfl
      have he : escape (c :: piece) = (Token.literal c).written ++ escape piece := rfl
      rw [tokens_cons_of_ne h, hb, ih, pieces_cons_of_ne h, hp, List.modifyHead_cons, List.map_cons,
        List.map_cons, he]
      cases ps <;> simp [List.intercalate_cons_cons]

/-! ## Nothing else can be read -/

theorem eq_body_of_readBody (h : readBody text = some ts) : text = body ts := by
  fun_induction readBody text generalizing ts with
  | case1 =>
    cases h
    rfl
  | case3 c hc =>
    cases h
    exact (body_plain hc []).symm
  | case4 c rest hc ih =>
    obtain ⟨us, hus, rfl⟩ := Option.map_eq_some_iff.1 h
    rw [body_escaped hc, ih hus]
  | case6 rest _ ih =>
    obtain ⟨us, hus, rfl⟩ := Option.map_eq_some_iff.1 h
    rw [body_wildcard, ih hus]
  | case9 c d rest _ _ hc ih =>
    obtain ⟨us, hus, rfl⟩ := Option.map_eq_some_iff.1 h
    rw [body_plain hc, ih hus]
  -- a bare operator, or a backslash before a character that needs none
  | case2 | case5 | case7 | case8 => cases h

theorem readBody_eq_some_iff : readBody text = some ts ↔ text = body ts :=
  ⟨eq_body_of_readBody, fun h => h ▸ readBody_body ts⟩

/-! ## The expression of a pattern -/

theorem toList_expression (pattern : String) : (expression pattern).toList =
    "(?s)^".toList ++ body (tokens pattern.toList) ++ "$".toList := by
  simp [expression]

theorem eq_of_expression_eq {p q : String} (h : expression p = expression q) : p = q := by
  have hb := congrArg String.toList h
  rw [toList_expression, toList_expression, List.append_left_inj, List.append_right_inj] at hb
  have ht : tokens p.toList = tokens q.toList :=
    Option.some_inj.1 (by rw [← readBody_body, hb, readBody_body])
  have hl := congrArg (List.map Token.toChar) ht
  rw [map_toChar_tokens, map_toChar_tokens] at hl
  exact String.toList_inj.1 hl

/-- **Escaping is unambiguous.** Between its anchors an expression consists of the escaped pieces of
the pattern with `.*` between them. It is the one text that reads as a wildcard for each `%` and a
literal for each other character, in their order, and a piece reads as its own characters whatever
follows it. So no two patterns have one expression. -/
theorem expression_unambiguous (pattern : String) :
    (∃ body : List Char,
      (expression pattern).toList = "(?s)^".toList ++ body ++ "$".toList ∧
      body = ".*".toList.intercalate ((pieces pattern.toList).map escape) ∧
      ∀ text, readBody text =
        some (pattern.toList.map fun c => if c = '%' then .wildcard else .literal c) ↔
          text = body) ∧
    (∀ piece rest, readBody (escape piece ++ rest) =
      (readBody rest).map (piece.map .literal ++ ·)) ∧
    ∀ other, expression other = expression pattern ↔ other = pattern := by
  refine ⟨⟨body (tokens pattern.toList), ?_, ?_, ?_⟩, ?_, ?_⟩
  · exact toList_expression pattern
  · exact body_tokens pattern.toList
  · intro text
    exact readBody_eq_some_iff
  · exact readBody_escape_append
  · intro other
    exact ⟨eq_of_expression_eq, congrArg expression⟩

/-- A backslash, an operator and a wildcard in a row. -/
example : expression "a\\.%*" = "(?s)^a\\\\\\..*\\*$" := by decide

end RecordQuery.Like
