import RecordQuery.Proofs.Like.Meaning

/-!
# Inclusion of like patterns

A pattern is a text as well, and matching decides inclusion: a pattern that matches another one
matches all that the other matches. For the converse a character that occurs in neither pattern is
put for the wildcards of the second; it can only be matched by wildcards of the first, so they
match the wildcards, too. `DecidesInclusion` collects this with what follows from it, for any way
to match, and `like_pattern_and_includes` says it of the library and of every engine.
-/

namespace RecordQuery

open Like

/-! ## A character in place of the wildcards -/

namespace Like

/-- `c` in place of the wildcard character. -/
def standIn (c d : Char) : Char := if d = wildcardChar then c else d

def standOut (c d : Char) : Char := if d = c then wildcardChar else d

theorem map_standOut_standIn {c : Char} {pattern : List Char} (h : c ∉ pattern) :
    (pattern.map (standIn c)).map (standOut c) = pattern := by
  have hd : ∀ d ∈ pattern, (standOut c ∘ standIn c) d = id d := by
    intro d hd
    show standOut c (standIn c d) = d
    unfold standOut standIn
    by_cases hw : d = wildcardChar
    · rw [if_pos hw, if_pos rfl, hw]
    · have hne : d ≠ c := by
        rintro rfl
        exact h hd
      rw [if_neg hw, if_neg hne]
  rw [List.map_map, List.map_congr_left hd, List.map_id]

/-- A pattern that covers another one with `c` for its wildcards covers that pattern. -/
theorem covers_of_covers_standIn {c : Char} {p q : List Char} (hp : c ∉ p) (hq : c ∉ q)
    (h : Covers (tokens p) (q.map (standIn c))) : Covers (tokens p) q := by
  have hf : ∀ d, .literal d ∈ tokens p → standOut c d = d := by
    intro d hd
    refine if_neg ?_
    rintro rfl
    exact hp (literal_mem_tokens_iff.1 hd).1
  have hm := h.map hf
  rwa [map_standOut_standIn hq] at hm

theorem covers_standIn (c : Char) (pattern : List Char) :
    Covers (tokens pattern) (pattern.map (standIn c)) :=
  covers_tokens_map (fun _ hd => if_neg hd) pattern

/-! ## More and fewer wildcards -/

theorem covers_replicate_wildcard (n : Nat) (text : List Char) :
    Covers (List.replicate (n + 1) .wildcard) text := by
  induction n with
  | zero => exact covers_singleton_wildcard
  | succ n ih => exact .wildcard [] ih

theorem tokens_replicate_wildcardChar (n : Nat) :
    tokens (List.replicate n wildcardChar) = List.replicate n .wildcard := by
  rw [tokens, List.map_replicate]
  rfl

theorem Covers.insert_wildcard {ts us : List Token} {text : List Char}
    (h : Covers (ts ++ us) text) : Covers (ts ++ [.wildcard] ++ us) text := by
  obtain ⟨front, back, rfl, hf, hb⟩ := covers_append_iff.1 h
  rw [List.append_assoc]
  exact covers_append_iff.2 ⟨front, back, rfl, hf, .wildcard [] hb⟩

theorem covers_replicate_wildcard_append_iff {ts us : List Token} {text : List Char} (n : Nat) :
    Covers (ts ++ List.replicate (n + 1) .wildcard ++ us) text ↔
      Covers (ts ++ [.wildcard] ++ us) text := by
  simp only [covers_append_iff, covers_replicate_wildcard, covers_singleton_wildcard]

end Like

/-! ## Inclusion -/

/-- All texts that `q` matches are matched by `p`. -/
def Includes (matching : String → String → Result Bool) (p q : String) : Prop :=
  ∀ text, matching text q = .ok true → matching text p = .ok true

def wildcards (n : Nat) : String := String.ofList (List.replicate n wildcardChar)

/-- Among the patterns that compile, matching one against another decides which of them matches
more, and extra wildcards never match less. -/
structure DecidesInclusion (compiles : String → Prop)
    (matching : String → String → Result Bool) : Prop where
  includes_of_matches {p q : String} (hp : compiles p) (hq : compiles q)
    (h : matching q p = .ok true) : Includes matching p q
  matches_of_includes {p q : String} {c : Char} (hp : compiles p) (hq : compiles q)
    (hcp : c ∉ p.toList) (hcq : c ∉ q.toList) (h : Includes matching p q) :
    matching q p = .ok true
  matches_self {p : String} (hp : compiles p) : matching p p = .ok true
  matches_trans {p q r : String} (hp : compiles p) (hq : compiles q) (hr : compiles r)
    (hpq : matching q p = .ok true) (hqr : matching r q = .ok true) : matching r p = .ok true
  includes_insert_wildcard {u v : String} (h : compiles (u ++ v))
    (hw : compiles (u ++ "%" ++ v)) : Includes matching (u ++ "%" ++ v) (u ++ v)
  matching_wildcards {u v : String} {n : Nat} (h : compiles (u ++ wildcards (n + 1) ++ v))
    (hw : compiles (u ++ "%" ++ v)) (text : String) :
    matching text (u ++ wildcards (n + 1) ++ v) = matching text (u ++ "%" ++ v)

namespace Like.Engine

variable {engine : Engine} {p q u v : String}

theorem includes_of_like (hd : engine.Decides) (h : engine.like q p = .ok true) :
    Includes engine.like p q := by
  intro text ht
  obtain ⟨hp, hpq⟩ := (like_eq_true_iff hd).1 h
  obtain ⟨-, hqt⟩ := (like_eq_true_iff hd).1 ht
  exact (like_eq_true_iff hd).2
    ⟨hp, hpq.trans (fun hm => (literal_mem_tokens_iff.1 hm).2 rfl) hqt⟩

theorem like_of_includes {c : Char} (hd : engine.Decides) (hq : engine.Compiles q)
    (hcp : c ∉ p.toList) (hcq : c ∉ q.toList) (h : Includes engine.like p q) :
    engine.like q p = .ok true := by
  -- one text that `q` matches stands for all of them: `q` itself with `c` for its wildcards
  have hs : engine.like (String.ofList (q.toList.map (standIn c))) q = .ok true :=
    (like_eq_true_iff hd).2 ⟨hq, by simpa using covers_standIn c q.toList⟩
  obtain ⟨hp, hps⟩ := (like_eq_true_iff hd).1 (h _ hs)
  rw [String.toList_ofList] at hps
  exact (like_eq_true_iff hd).2 ⟨hp, covers_of_covers_standIn hcp hcq hps⟩

theorem like_self (hd : engine.Decides) (h : engine.Compiles p) : engine.like p p = .ok true :=
  (like_eq_true_iff hd).2 ⟨h, covers_tokens_self p.toList⟩

theorem includes_insert_wildcard (hd : engine.Decides) (hw : engine.Compiles (u ++ "%" ++ v)) :
    Includes engine.like (u ++ "%" ++ v) (u ++ v) := by
  intro text ht
  obtain ⟨-, ht⟩ := (like_eq_true_iff hd).1 ht
  refine (like_eq_true_iff hd).2 ⟨hw, ?_⟩
  simp only [String.toList_append, tokens_append] at ht ⊢
  exact ht.insert_wildcard

theorem like_wildcards {n : Nat} (hd : engine.Decides)
    (h : engine.Compiles (u ++ wildcards (n + 1) ++ v)) (hw : engine.Compiles (u ++ "%" ++ v))
    (text : String) :
    engine.like text (u ++ wildcards (n + 1) ++ v) = engine.like text (u ++ "%" ++ v) := by
  rw [like_of_compiles hd h, like_of_compiles hd hw, Except.ok.injEq, Bool.eq_iff_iff,
    covered_iff, covered_iff]
  have h1 : "%".toList = [wildcardChar] := rfl
  simp only [wildcards, String.toList_append, String.toList_ofList, tokens_append, h1,
    tokens_replicate_wildcardChar]
  exact covers_replicate_wildcard_append_iff n

theorem decidesInclusion (hd : engine.Decides) :
    DecidesInclusion engine.Compiles engine.like where
  includes_of_matches _ _ h := includes_of_like hd h
  matches_of_includes _ hq hcp hcq h := like_of_includes hd hq hcp hcq h
  matches_self hp := like_self hd hp
  matches_trans _ _ _ hpq hqr := includes_of_like hd hpq _ hqr
  includes_insert_wildcard _ hw := includes_insert_wildcard hd hw
  matching_wildcards h hw text := like_wildcards hd h hw text

end Like.Engine

/-- **Matching decides inclusion.** A pattern that matches another one includes it, and the converse
holds if some character occurs in neither. So matching between patterns is reflexive and transitive,
one more wildcard includes what was matched without it, and a run of wildcards is as good as one.
This holds of the library's matching and of every engine that decides the expressions of
patterns. -/
theorem like_pattern_and_includes :
    DecidesInclusion LikePattern.Compiles like ∧
    ∀ engine : Engine, engine.Decides → DecidesInclusion engine.Compiles engine.like := by
  refine ⟨?_, fun engine hd => Engine.decidesInclusion hd⟩
  rw [like_eq_reading, compiles_eq_reading]
  exact Engine.decidesInclusion reading_decides

/-- `a%b` includes `a%c%b` and matches it, as the converse confirms with `z` for the wildcards. -/
theorem like_pattern_and_includes_nested :
    LikePattern.Compiles "a%b" ∧ LikePattern.Compiles "a%c%b" ∧ Includes like "a%b" "a%c%b" ∧
      like "a%c%b" "a%b" = .ok true ∧
      reading.Decides ∧ reading.Compiles "a%b" ∧ reading.Compiles "a%c%b" ∧
      Includes reading.like "a%b" "a%c%b" ∧ reading.like "a%c%b" "a%b" = .ok true ∧
      Includes reading.like "a%%b" "a%b" ∧
      reading.like "a%\nb" "a%%%b" = reading.like "a%\nb" "a%b" := by
  have hp : LikePattern.Compiles "a%b" := by decide
  have hq : LikePattern.Compiles "a%c%b" := by decide
  have hrp : reading.Compiles "a%b" := reading_compiles_iff.2 hp
  have hrq : reading.Compiles "a%c%b" := reading_compiles_iff.2 hq
  have hlike := like_pattern_and_includes.1
  have hread := like_pattern_and_includes.2 reading reading_decides
  have hi : Includes like "a%b" "a%c%b" :=
    hlike.includes_of_matches hp hq (like_eq_true_iff.2 ⟨hp, by decide⟩)
  have hri : Includes reading.like "a%b" "a%c%b" :=
    hread.includes_of_matches hrp hrq
      ((Engine.like_eq_true_iff reading_decides).2 ⟨hrp, by decide⟩)
  have hz : 'z' ∉ "a%b".toList ∧ 'z' ∉ "a%c%b".toList := by decide
  refine ⟨hp, hq, hi, hlike.matches_of_includes hp hq hz.1 hz.2 hi, reading_decides, hrp, hrq,
    hri, hread.matches_of_includes hrp hrq hz.1 hz.2 hri, ?_, ?_⟩
  · exact hread.includes_insert_wildcard (u := "a%") (v := "b") hrp (by decide)
  · exact hread.matching_wildcards (u := "a") (v := "b") (n := 2) (by decide) hrp "a%\nb"

end RecordQuery
