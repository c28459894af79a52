import RecordQuery.Like.Token

/-!
# Patterns as regular expressions

The regular expression that says the same as a like pattern, anchored at both ends and with `.`
for every character. A wildcard becomes `.*`, and a literal that is an operator of regular
expressions stands behind a backslash. `readBody` reads such a text back and refuses a bare
operator; `readBody_body` says that it always finds the tokens that were written.
-/

namespace RecordQuery.Like

/-- The characters that a regular expression does not take literally. -/
def metacharacters : List Char :=
  ['\\', '.', '+', '*', '?', '(', ')', '|', '[', ']', '\x7b', '\x7d', '^', '$', '#', '&', '-', '~']

def Token.written : Token → List Char
  | wildcard => ['.', '*']
  | literal c => if c ∈ metacharacters then ['\\', c] else [c]

/-- The expression between its anchors. -/
def body (ts : List Token) : List Char := ts.flatMap Token.written

theorem body_wildcard (ts : List Token) : body (.wildcard :: ts) = '.' :: '*' :: body ts := rfl

theorem body_escaped {c : Char} (h : c ∈ metacharacters) (ts : List Token) :
    body (.literal c :: ts) = '\\' :: c :: body ts := by
  simp [body, Token.written, h]

theorem body_plain {c : Char} (h : c ∉ metacharacters) (ts : List Token) :
    body (.literal c :: ts) = c :: body ts := by
  simp [body, Token.written, h]

def expression (pattern : String) : String :=
  "(?s)^" ++ String.ofList (body (tokens pattern.toList)) ++ "$"

/-! ## Reading an expression back -/

/-- The tokens that the text between the anchors stands for, if no operator in it is bare. -/
def readBody : List Char → Option (List Token)
  | [] => some []
  | [c] => if c ∈ metacharacters then none else some [.literal c]
  | c :: d :: rest =>
    if c = '\\' then
      if d ∈ metacharacters then (readBody rest).map (.literal d :: ·) else none
    else if c = '.' then
      if d = '*' then (readBody rest).map (.wildcard :: ·) else none
    else if c ∈ metacharacters then none
    else (readBody (d :: rest)).map (.literal c :: ·)

theorem readBody_escaped {c : Char} (h : c ∈ metacharacters) (rest : List Char) :
    readBody ('\\' :: c :: rest) = (readBody rest).map (.literal c :: ·) := by
  simp [readBody, h]

theorem readBody_wildcard (rest : List Char) :
    readBody ('.' :: '*' :: rest) = (readBody rest).map (.wildcard :: ·) := by
  simp [readBody]

theorem readBody_plain {c : Char} (h : c ∉ metacharacters) (rest : List Char) :
    readBody (c :: rest) = (readBody rest).map (.literal c :: ·) := by
  have hs : c ≠ '\\' := by rintro rfl; exact h (by decide)
  have hd : c ≠ '.' := by rintro rfl; exact h (by decide)
  cases rest with
  | nil => simp [readBody, h]
  | cons d rest => simp [readBody, h, hs, hd]

theorem readBody_body (ts : List Token) : readBody (body ts) = some ts := by
  induction ts with
  | nil => rfl
  | cons t ts ih =>
    cases t with
    | wildcard => rw [body_wildcard, readBody_wildcard, ih, Option.map_some]
    | literal c =>
      by_cases h : c ∈ metacharacters
      · rw [body_escaped h, readBody_escaped h, ih, Option.map_some]
      · rw [body_plain h, readBody_plain h, ih, Option.map_some]

end RecordQuery.Like
