import RecordQuery.Like.Pieces

/-!
# What tokens cover

How the texts that a list of tokens covers depend on the tokens. Tokens in a row cover texts in a
row (`covers_append_iff`), a pattern covers just the texts that are woven from its pieces
(`covers_tokens_iff`), and a pattern that covers another one, taken as a text, covers all that the
other covers (`Covers.trans`).
-/

namespace RecordQuery.Like

variable {ts us : List Token} {text pattern : List Char}

/-! ## Tokens in a row -/

theorem covers_append_iff : Covers (ts ++ us) text ↔
    ∃ front back, text = front ++ back ∧ Covers ts front ∧ Covers us back := by
  induction ts generalizing text with
  | nil =>
    simp only [List.nil_append, covers_nil_iff]
    constructor
    · intro h
      exact ⟨[], text, rfl, rfl, h⟩
    · rintro ⟨_, _, rfl, rfl, h⟩
      exact h
  | cons t ts ih =>
    cases t with
    | literal c =>
      rw [List.cons_append, covers_literal_iff]
      constructor
      · rintro ⟨rest, rfl, h⟩
        obtain ⟨front, back, rfl, hf, hb⟩ := ih.1 h
        exact ⟨c :: front, back, rfl, .literal c hf, hb⟩
      · rintro ⟨front, back, rfl, hf, hb⟩
        obtain ⟨rest, rfl, hr⟩ := covers_literal_iff.1 hf
        exact ⟨rest ++ back, rfl, ih.2 ⟨rest, back, rfl, hr, hb⟩⟩
    | wildcard =>
      rw [List.cons_append, covers_wildcard_iff]
      constructor
      · rintro ⟨rest, ⟨run, rfl⟩, h⟩
        obtain ⟨front, back, rfl, hf, hb⟩ := ih.1 h
        exact ⟨run ++ front, back, by simp, .wildcard run hf, hb⟩
      · rintro ⟨front, back, rfl, hf, hb⟩
        obtain ⟨rest, ⟨run, rfl⟩, hr⟩ := covers_wildcard_iff.1 hf
        exact ⟨rest ++ back, ⟨run, by simp⟩, ih.2 ⟨rest, back, rfl, hr, hb⟩⟩

@[simp] theorem covers_singleton_wildcard : Covers [.wildcard] text := by
  have h := Covers.wildcard text .nil
  rwa [List.append_nil] at h

/-! ## Texts woven from the pieces of a pattern -/

theorem interleave_modifyHead (c : Char) {ps : List (List Char)} (h : ps ≠ [])
    (runs : List (List Char)) :
    interleave (ps.modifyHead (c :: ·)) runs = c :: interleave ps runs := by
  cases ps with
  | nil => exact absurd rfl h
  | cons piece ps => cases runs <;> rfl

/-- The text consists of the pieces in their order with one run between each two of them. -/
def Woven (ps : List (List Char)) (text : List Char) : Prop :=
  ∃ runs : List (List Char), runs.length + 1 = ps.length ∧ text = interleave ps runs

theorem woven_singleton {piece : List Char} : Woven [piece] text ↔ text = piece := by
  constructor
  · rintro ⟨runs, hlen, rfl⟩
    obtain rfl : runs = [] := List.length_eq_zero_iff.1 (by simpa using hlen)
    rfl
  · rintro rfl
    exact ⟨[], rfl, rfl⟩

theorem woven_nil_cons {ps : List (List Char)} (h : ps ≠ []) :
    Woven ([] :: ps) text ↔ ∃ rest, rest <:+ text ∧ Woven ps rest := by
  constructor
  · rintro ⟨runs, hlen, rfl⟩
    cases runs with
    | nil => exact absurd (by simpa using hlen) h
    | cons run runs =>
      exact ⟨interleave ps runs, ⟨run, rfl⟩, runs, by simpa using hlen, rfl⟩
  · rintro ⟨rest, ⟨run, rfl⟩, runs, hlen, rfl⟩
    exact ⟨run :: runs, by simp [hlen], rfl⟩

theorem woven_cons {piece : List Char} {ps : List (List Char)} (h : ps ≠ []) :
    Woven (piece :: ps) text ↔ ∃ rest, text = piece ++ rest ∧ Woven ([] :: ps) rest := by
  constructor
  · rintro ⟨runs, hlen, rfl⟩
    cases runs with
    | nil => exact absurd (by simpa using hlen) h
    | cons run runs =>
      exact ⟨run ++ interleave ps runs, by simp [interleave], run :: runs, hlen, rfl⟩
  · rintro ⟨rest, rfl, runs, hlen, rfl⟩
    cases runs with
    | nil => exact absurd (by simpa using hlen) h
    | cons run runs => exact ⟨run :: runs, hlen, by simp [interleave]⟩

/-- More text in front does no harm to a run. -/
theorem Woven.of_suffix {rest : List Char} {ps : List (List Char)} (h : Woven ([] :: ps) rest)
    (hps : ps ≠ []) (hs : rest <:+ text) : Woven ([] :: ps) text := by
  obtain ⟨back, hb, hw⟩ := (woven_nil_cons hps).1 h
  exact (woven_nil_cons hps).2 ⟨back, hb.trans hs, hw⟩

theorem woven_modifyHead {c : Char} {ps : List (List Char)} (h : ps ≠ []) :
    Woven (ps.modifyHead (c :: ·)) text ↔ ∃ rest, text = c :: rest ∧ Woven ps rest := by
  constructor
  · rintro ⟨runs, hlen, rfl⟩
    exact ⟨_, interleave_modifyHead c h runs, runs, by simpa using hlen, rfl⟩
  · rintro ⟨rest, rfl, runs, hlen, rfl⟩
    exact ⟨runs, by simpa using hlen, (interleave_modifyHead c h runs).symm⟩

theorem covers_tokens_iff : Covers (tokens pattern) text ↔ Woven (pieces pattern) text := by
  induction pattern generalizing text with
  | nil => rw [pieces_nil, woven_singleton]; exact covers_nil_iff
  | cons c pattern ih =>
    have hne := pieces_ne_nil pattern
    by_cases h : c = wildcardChar
    · subst h
      rw [pieces_cons_wildcardChar, woven_nil_cons hne, tokens_cons_wildcardChar,
        covers_wildcard_iff]
      simp only [ih]
    · rw [pieces_cons_of_ne h, woven_modifyHead hne, tokens_cons_of_ne h, covers_literal_iff]
      simp only [ih]

theorem covers_tokens_of_not_mem (h : wildcardChar ∉ pattern) :
    Covers (tokens pattern) text ↔ text = pattern := by
  rw [covers_tokens_iff, pieces_of_not_mem h, woven_singleton]

/-! ## Patterns as texts -/

theorem ne_wildcardChar_of_mem_tokens {c : Char} (h : .literal c ∈ tokens pattern) :
    c ≠ wildcardChar := by
  obtain ⟨d, -, hd⟩ := List.mem_map.1 h
  rintro rfl
  unfold Token.ofChar at hd
  split at hd
  · cases hd
  · cases hd
    contradiction

theorem literal_mem_tokens_iff {c : Char} :
    .literal c ∈ tokens pattern ↔ c ∈ pattern ∧ c ≠ wildcardChar := by
  constructor
  · intro h
    refine ⟨?_, ne_wildcardChar_of_mem_tokens h⟩
    have hc := List.mem_map_of_mem (f := Token.toChar) h
    rwa [map_toChar_tokens] at hc
  · rintro ⟨hc, hne⟩
    exact List.mem_map.2 ⟨c, hc, by simp [Token.ofChar, hne]⟩

theorem Covers.map {f : Char → Char} (h : Covers ts text)
    (hf : ∀ c, .literal c ∈ ts → f c = c) : Covers ts (text.map f) := by
  induction h with
  | nil => exact .nil
  | literal c _ ih =>
    rw [List.map_cons, hf c List.mem_cons_self]
    exact .literal c (ih fun d hd => hf d (List.mem_cons_of_mem _ hd))
  | wildcard run _ ih =>
    rw [List.map_append]
    exact .wildcard _ (ih fun d hd => hf d (List.mem_cons_of_mem _ hd))

/-- A pattern covers itself, and what it becomes when another character stands for every
wildcard. -/
theorem covers_tokens_map {f : Char → Char} (hf : ∀ c, c ≠ wildcardChar → f c = c)
    (pattern : List Char) : Covers (tokens pattern) (pattern.map f) := by
  induction pattern with
  | nil => exact .nil
  | cons c pattern ih =>
    by_cases h : c = wildcardChar
    · subst h
      rw [tokens_cons_wildcardChar]
      exact .wildcard [f wildcardChar] ih
    · rw [tokens_cons_of_ne h, List.map_cons, hf c h]
      exact .literal c ih

theorem covers_tokens_self (pattern : List Char) : Covers (tokens pattern) pattern := by
  simpa using covers_tokens_map (f := id) (fun _ _ => rfl) pattern

/-- Tokens that cover a pattern cover whatever the pattern covers. A wildcard of the pattern can
only lie in a run, so that the run grows by what the pattern's wildcard covers. -/
theorem Covers.trans (h : Covers ts pattern) (hts : .literal wildcardChar ∉ ts)
    (h' : Covers (tokens pattern) text) : Covers ts text := by
  induction h generalizing text with
  | nil => exact covers_nil_iff.1 h' ▸ .nil
  | literal c _ ih =>
    have hc : c ≠ wildcardChar := by
      rintro rfl
      exact hts List.mem_cons_self
    rw [tokens_cons_of_ne hc] at h'
    obtain ⟨rest, rfl, hr⟩ := covers_literal_iff.1 h'
    exact .literal c (ih (fun hm => hts (List.mem_cons_of_mem _ hm)) hr)
  | wildcard run _ ih =>
    rw [tokens_append] at h'
    obtain ⟨front, back, rfl, -, hb⟩ := covers_append_iff.1 h'
    exact .wildcard front (ih (fun hm => hts (List.mem_cons_of_mem _ hm)) hb)

end RecordQuery.Like
