import RecordQuery.Like.Token

/-!
# Deciding whether a pattern covers a text

The tokens are read from the left while all that may be left of the text is kept, the longest rest
first: a literal takes its character off every rest that begins with it, and since every rest is a
suffix of the first, a wildcard leaves exactly the suffixes of the first. No rest is kept twice, so
a pattern of `m` characters on a text of `n` takes at most `m * (n + 1)` steps. `covered_iff` says
that the empty rest is among those left at the end exactly if the tokens cover the text.
-/

namespace RecordQuery.Like

/-! ## Suffixes -/

/-- `found` from its last member to its first, in front of all suffixes of a list. -/
def suffixesAfter (found : List (List α)) : List α → List (List α)
  | [] => ([] :: found).reverse
  | a :: rest => suffixesAfter ((a :: rest) :: found) rest

def suffixes (xs : List α) : List (List α) := suffixesAfter [] xs

theorem suffixesAfter_eq (found : List (List α)) (xs : List α) :
    suffixesAfter found xs = found.reverse ++ suffixesAfter [] xs := by
  induction xs generalizing found with
  | nil => simp [suffixesAfter]
  | cons a xs ih => rw [suffixesAfter, suffixesAfter, ih, ih [a :: xs]]; simp

@[simp] theorem suffixes_nil : suffixes ([] : List α) = [[]] := rfl

@[simp] theorem suffixes_cons (a : α) (xs : List α) :
    suffixes (a :: xs) = (a :: xs) :: suffixes xs := by
  rw [suffixes, suffixesAfter, suffixesAfter_eq]; rfl

@[simp] theorem mem_suffixes {rest xs : List α} : rest ∈ suffixes xs ↔ rest <:+ xs := by
  induction xs with
  | nil => simp
  | cons a xs ih => simp [ih, List.suffix_cons_iff]

/-! ## The rests after each token -/

def Nested (rests : List (List Char)) : Prop :=
  rests.Pairwise fun longer shorter => shorter <:+ longer

theorem nested_suffixes (xs : List Char) : Nested (suffixes xs) := by
  induction xs with
  | nil => simp [Nested]
  | cons a xs ih =>
    rw [suffixes_cons]
    exact List.pairwise_cons.2
      ⟨fun rest h => (mem_suffixes.1 h).trans (List.suffix_cons a xs), ih⟩

/-- What is left behind a leading `c`. -/
def afterLiteral (c : Char) : List Char → Option (List Char)
  | [] => none
  | d :: rest => if d = c then some rest else none

theorem afterLiteral_eq_some_iff {c : Char} {text rest : List Char} :
    afterLiteral c text = some rest ↔ text = c :: rest := by
  cases text with
  | nil => simp [afterLiteral]
  | cons d text =>
    by_cases h : d = c <;> simp [afterLiteral, h]

/-- The rests that one more token leaves. -/
def advance (rests : List (List Char)) : Token → List (List Char)
  | .literal c => rests.filterMap (afterLiteral c)
  | .wildcard =>
    match rests with
    | [] => []
    | longest :: _ => suffixes longest

def restsAfter (ts : List Token) (text : List Char) : List (List Char) :=
  ts.foldl advance [text]

/-- Whether the tokens can leave nothing of the text. -/
def covered (ts : List Token) (text : List Char) : Bool :=
  (restsAfter ts text).any List.isEmpty

theorem Nested.advance {rests : List (List Char)} (h : Nested rests) (t : Token) :
    Nested (advance rests t) := by
  cases t with
  | literal c =>
    refine List.Pairwise.filterMap _ ?_ h
    intro longer shorter hs rest hrest rest' hrest'
    rw [afterLiteral_eq_some_iff] at hrest hrest'
    subst hrest hrest'
    rcases List.suffix_cons_iff.1 hs with heq | hs
    · cases heq; exact List.suffix_rfl
    · exact (List.suffix_cons c rest').trans hs
  | wildcard =>
    cases rests with
    | nil => exact .nil
    | cons longest _ => exact nested_suffixes longest

theorem mem_advance_literal {rests : List (List Char)} {c : Char} {rest : List Char} :
    rest ∈ advance rests (.literal c) ↔ (c :: rest) ∈ rests := by
  simp [advance, afterLiteral_eq_some_iff]

theorem mem_advance_wildcard {rests : List (List Char)} (h : Nested rests) {rest : List Char} :
    rest ∈ advance rests .wildcard ↔ ∃ start ∈ rests, rest <:+ start := by
  cases rests with
  | nil => simp [advance]
  | cons longest shorter =>
    simp only [advance, mem_suffixes, List.mem_cons, exists_eq_or_imp]
    constructor
    · exact .inl
    · rintro (h' | ⟨start, hstart, h'⟩)
      · exact h'
      · exact h'.trans ((List.pairwise_cons.1 h).1 start hstart)

theorem nil_mem_foldl_advance {rests : List (List Char)} (h : Nested rests) (ts : List Token) :
    [] ∈ ts.foldl advance rests ↔ ∃ text ∈ rests, Covers ts text := by
  induction ts generalizing rests with
  | nil => simp
  | cons t ts ih =>
    rw [List.foldl_cons, ih (h.advance t)]
    cases t with
    | literal c => simp only [mem_advance_literal, covers_literal_iff]; grind
    | wildcard => simp only [mem_advance_wildcard h, covers_wildcard_iff]; grind

theorem covered_iff {ts : List Token} {text : List Char} : covered ts text ↔ Covers ts text := by
  have h := nil_mem_foldl_advance (List.pairwise_singleton _ text) ts
  simp only [List.mem_singleton, exists_eq_left] at h
  rw [← h]
  simp [covered, restsAfter]

instance (ts : List Token) (text : List Char) : Decidable (Covers ts text) :=
  decidable_of_iff _ covered_iff

end RecordQuery.Like
