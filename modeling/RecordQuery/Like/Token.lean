/-!
# Like patterns as tokens

In a like pattern the wildcard `%` stands for any run of characters and every other character for
itself; nothing is escaped. `Covers` states which texts a list of tokens covers.
-/

namespace RecordQuery.Like

def wildcardChar : Char := '%'

/-- One character of a pattern. -/
inductive Token
  | wildcard
  | literal (c : Char)
  deriving DecidableEq, Repr

namespace Token

def ofChar (c : Char) : Token :=
  if c = wildcardChar then wildcard else literal c

def toChar : Token → Char
  | wildcard => wildcardChar
  | literal c => c

@[simp] theorem toChar_ofChar (c : Char) : (ofChar c).toChar = c := by
  unfold ofChar
  split
  · exact (‹c = wildcardChar›).symm
  · rfl

end Token

/-- The tokens of a pattern, one a character. -/
def tokens (pattern : List Char) : List Token := pattern.map Token.ofChar

@[simp] theorem tokens_append (p q : List Char) : tokens (p ++ q) = tokens p ++ tokens q :=
  List.map_append

@[simp] theorem tokens_nil : tokens [] = [] := rfl

@[simp] theorem tokens_cons_wildcardChar (pattern : List Char) :
    tokens (wildcardChar :: pattern) = .wildcard :: tokens pattern := by
  simp [tokens, Token.ofChar]

theorem tokens_cons_of_ne {c : Char} (h : c ≠ wildcardChar) (pattern : List Char) :
    tokens (c :: pattern) = .literal c :: tokens pattern := by
  simp [tokens, Token.ofChar, h]

@[simp] theorem map_toChar_tokens (pattern : List Char) :
    (tokens pattern).map Token.toChar = pattern := by
  rw [tokens, List.map_map]
  exact List.map_id'' Token.toChar_ofChar pattern

/-- `Covers ts text`: the tokens cover the whole text, each wildcard some run of it, possibly empty,
and each literal its own character. -/
inductive Covers : List Token → List Char → Prop
  | nil : Covers [] []
  | literal {ts : List Token} {text : List Char} (c : Char) (h : Covers ts text) :
    Covers (.literal c :: ts) (c :: text)
  | wildcard {ts : List Token} {text : List Char} (run : List Char) (h : Covers ts text) :
    Covers (.wildcard :: ts) (run ++ text)

@[simp] theorem covers_nil_iff {text : List Char} : Covers [] text ↔ text = [] := by
  constructor
  · rintro ⟨⟩; rfl
  · rintro rfl; exact .nil

theorem covers_literal_iff {c : Char} {ts : List Token} {text : List Char} :
    Covers (.literal c :: ts) text ↔ ∃ rest, text = c :: rest ∧ Covers ts rest := by
  constructor
  · rintro ⟨⟩; exact ⟨_, rfl, ‹_›⟩
  · rintro ⟨rest, rfl, h⟩; exact .literal c h

theorem covers_wildcard_iff {ts : List Token} {text : List Char} :
    Covers (.wildcard :: ts) text ↔ ∃ rest, rest <:+ text ∧ Covers ts rest := by
  constructor
  · rintro ⟨⟩
    exact ⟨_, List.suffix_append _ _, ‹_›⟩
  · rintro ⟨rest, ⟨run, rfl⟩, h⟩
    exact .wildcard run h

end RecordQuery.Like
