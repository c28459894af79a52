import RecordQuery.Proofs.Like.Meaning

/-!
# Patterns in a row and patterns read backwards

Two patterns in a row match the texts in a row that they match (`like_append_iff`), wherever the
wildcards stand, since tokens know nothing of the pieces that meet at the seam. A pattern read
backwards matches the texts read backwards (`like_reversed`), although every matcher reads from the
left: what tokens cover has no direction (`covers_reverse_iff`).
-/

namespace RecordQuery

namespace Like

variable {ts : List Token} {text front back rest : List Char}

/-! ## Patterns in a row -/

theorem covers_tokens_append_iff {p q text : String} :
    Covers (tokens (p ++ q).toList) text.toList ↔
      ∃ u v : String, text = u ++ v ∧ Covers (tokens p.toList) u.toList ∧
        Covers (tokens q.toList) v.toList := by
  rw [String.toList_append, tokens_append, covers_append_iff]
  constructor
  · rintro ⟨front, back, ht, hf, hb⟩
    refine ⟨String.ofList front, String.ofList back, ?_, ?_, ?_⟩
    · rw [← String.toList_inj, String.toList_append, String.toList_ofList, String.toList_ofList,
        ht]
    · rwa [String.toList_ofList]
    · rwa [String.toList_ofList]
  · rintro ⟨u, v, rfl, hu, hv⟩
    exact ⟨u.toList, v.toList, String.toList_append, hu, hv⟩

/-! ## Patterns read backwards -/

theorem tokens_reverse (pattern : List Char) : tokens pattern.reverse = (tokens pattern).reverse :=
  List.map_reverse

theorem Covers.reverse (h : Covers ts text) : Covers ts.reverse text.reverse := by
  -- the first token becomes the last, so each step is a row of two parts
  induction h with
  | nil => exact .nil
  | literal c _ ih =>
    rw [List.reverse_cons, List.reverse_cons]
    exact covers_append_iff.2 ⟨_, [c], rfl, ih, .literal c .nil⟩
  | wildcard run _ ih =>
    rw [List.reverse_cons, List.reverse_append]
    exact covers_append_iff.2 ⟨_, run.reverse, rfl, ih, covers_singleton_wildcard⟩

theorem covers_reverse_iff : Covers ts.reverse text.reverse ↔ Covers ts text := by
  refine ⟨fun h => ?_, Covers.reverse⟩
  have hr := h.reverse
  rwa [List.reverse_reverse, List.reverse_reverse] at hr

/-! ## Anchoring at both ends -/

theorem prefix_of_covers (h : Covers (tokens (front ++ rest)) text) (hf : wildcardChar ∉ front) :
    front <+: text := by
  rw [tokens_append] at h
  obtain ⟨u, v, rfl, hu, -⟩ := covers_append_iff.1 h
  rw [covers_tokens_of_not_mem hf] at hu
  exact ⟨v, by rw [hu]⟩

theorem suffix_of_covers (h : Covers (tokens (rest ++ back)) text) (hb : wildcardChar ∉ back) :
    back <:+ text := by
  -- the end is the beginning of the pattern read backwards
  have hr := h.reverse
  rw [← tokens_reverse, List.reverse_append] at hr
  exact List.reverse_prefix.1 (prefix_of_covers hr (by simpa using hb))

end Like

open Like

/-! ## Concatenation -/

/-- **Patterns in a row match texts in a row.** Two patterns, one behind the other, match a text
exactly if it can be cut in two so that each pattern matches its part. So answers `like`, and so
does every engine that decides the expressions of the patterns. -/
theorem like_append_iff (p q text : String) :
    (LikePattern.Compiles p → LikePattern.Compiles q → LikePattern.Compiles (p ++ q) →
      (like text (p ++ q) = .ok true ↔
        ∃ u v, text = u ++ v ∧ like u p = .ok true ∧ like v q = .ok true)) ∧
    ∀ engine : Engine, engine.Decides →
      engine.Compiles p → engine.Compiles q → engine.Compiles (p ++ q) →
      (engine.like text (p ++ q) = .ok true ↔
        ∃ u v, text = u ++ v ∧ engine.like u p = .ok true ∧ engine.like v q = .ok true) := by
  constructor
  · intro hp hq h
    rw [like_eq_true_iff, and_iff_right h, covers_tokens_append_iff]
    simp only [like_eq_true_iff, hp, hq, true_and]
  · intro engine hd hp hq h
    rw [Engine.like_eq_true_iff hd, and_iff_right h, covers_tokens_append_iff]
    simp only [Engine.like_eq_true_iff hd, hp, hq, true_and]

/-- At the seam of `a%b` and `b%` two pieces become one, and two wildcards meet in `%` and `%c`. -/
theorem like_append_iff_seam :
    LikePattern.Compiles "a%b" ∧ LikePattern.Compiles "b%" ∧
      LikePattern.Compiles ("a%b" ++ "b%") ∧
      like "abbb" ("a%b" ++ "b%") = .ok true ∧
      reading.Decides ∧ reading.Compiles "%" ∧ reading.Compiles "%c" ∧
      reading.Compiles ("%" ++ "%c") ∧ reading.like "bc" ("%" ++ "%c") = .ok true := by
  have hp : LikePattern.Compiles "a%b" := by decide
  have hq : LikePattern.Compiles "b%" := by decide
  have h : LikePattern.Compiles ("a%b" ++ "b%") := by decide
  have hp' : reading.Compiles "%" := by decide
  have hq' : reading.Compiles "%c" := by decide
  have h' : reading.Compiles ("%" ++ "%c") := by decide
  refine ⟨hp, hq, h, ?_, reading_decides, hp', hq', h', ?_⟩
  · refine ((like_append_iff "a%b" "b%" "abbb").1 hp hq h).2 ⟨"ab", "bb", rfl, ?_, ?_⟩
    · exact like_eq_true_iff.2 ⟨hp, by decide⟩
    · exact like_eq_true_iff.2 ⟨hq, by decide⟩
  · refine ((like_append_iff "%" "%c" "bc").2 reading reading_decides hp' hq' h').2
      ⟨"b", "c", rfl, ?_, ?_⟩
    · exact (Engine.like_eq_true_iff reading_decides).2 ⟨hp', by decide⟩
    · exact (Engine.like_eq_true_iff reading_decides).2 ⟨hq', by decide⟩

/-! ## Reversal -/

def reversed (text : String) : String := String.ofList text.toList.reverse

theorem covered_tokens_reversed (pattern text : String) :
    covered (tokens (reversed pattern).toList) (reversed text).toList =
      covered (tokens pattern.toList) text.toList := by
  rw [Bool.eq_iff_iff, covered_iff, covered_iff, reversed, reversed, String.toList_ofList,
    String.toList_ofList, tokens_reverse, covers_reverse_iff]

/-- The literals at either end of the pattern stand at that end of the text. -/
def SharesEnds (pattern text : String) : Prop :=
  ∀ stretch rest : String, wildcardChar ∉ stretch.toList →
    (pattern = stretch ++ rest → stretch.toList <+: text.toList) ∧
    (pattern = rest ++ stretch → stretch.toList <:+ text.toList)

theorem sharesEnds_of_covers {pattern text : String}
    (h : Covers (tokens pattern.toList) text.toList) : SharesEnds pattern text := by
  intro stretch rest hs
  constructor
  · rintro rfl
    rw [String.toList_append] at h
    exact prefix_of_covers h hs
  · rintro rfl
    rw [String.toList_append] at h
    exact suffix_of_covers h hs

/-- **Matching has no direction.** A pattern read backwards gives the same answer on the text read
backwards, with `like` as with every engine that decides the two expressions. In particular the
literals at either end of a pattern stand at that end of each text that is matched. -/
theorem like_reversed (pattern text : String) :
    (LikePattern.Compiles pattern → LikePattern.Compiles (reversed pattern) →
      like (reversed text) (reversed pattern) = like text pattern) ∧
    (∀ engine : Engine, engine.Decides →
      engine.Compiles pattern → engine.Compiles (reversed pattern) →
      engine.like (reversed text) (reversed pattern) = engine.like text pattern) ∧
    (like text pattern = .ok true → SharesEnds pattern text) ∧
    ∀ engine : Engine, engine.Decides →
      engine.like text pattern = .ok true → SharesEnds pattern text := by
  refine ⟨fun h hr => ?_, fun engine hd h hr => ?_, fun h => ?_, fun engine hd h => ?_⟩
  · rw [like_of_compiles h, like_of_compiles hr, covered_tokens_reversed]
  · rw [Engine.like_of_compiles hd h, Engine.like_of_compiles hd hr, covered_tokens_reversed]
  · exact sharesEnds_of_covers (like_eq_true_iff.1 h).2
  · exact sharesEnds_of_covers ((Engine.like_eq_true_iff hd).1 h).2

/-- `ab%c` matches `abbc`, so `c%ba` matches `cbba`, and `abbc` begins with `ab` and ends with
`c`. -/
theorem like_reversed_anchored :
    LikePattern.Compiles "ab%c" ∧ LikePattern.Compiles (reversed "ab%c") ∧
      like (reversed "abbc") (reversed "ab%c") = .ok true ∧
      reading.Decides ∧ reading.Compiles "ab%c" ∧ reading.Compiles (reversed "ab%c") ∧
      reading.like (reversed "abc!") (reversed "ab%c") = .ok false ∧
      wildcardChar ∉ "ab".toList ∧ like "abbc" "ab%c" = .ok true ∧
      "ab%c" = "ab" ++ "%c" ∧ "ab".toList <+: "abbc".toList ∧
      wildcardChar ∉ "c".toList ∧ reading.like "abbc" "ab%c" = .ok true ∧
      "ab%c" = "ab%" ++ "c" ∧ "c".toList <:+ "abbc".toList := by
  have h : LikePattern.Compiles "ab%c" := by decide
  have hr : LikePattern.Compiles (reversed "ab%c") := by decide
  have he : reading.Compiles "ab%c" := reading_compiles_iff.2 h
  have her : reading.Compiles (reversed "ab%c") := reading_compiles_iff.2 hr
  have hy : like "abbc" "ab%c" = .ok true := like_eq_true_iff.2 ⟨h, by decide⟩
  have hye : reading.like "abbc" "ab%c" = .ok true := by rw [← like_eq_reading_like, hy]
  have hrev := like_reversed "ab%c" "abbc"
  refine ⟨h, hr, ?_, reading_decides, he, her, ?_, by decide, hy, rfl, ?_, by decide, hye, rfl,
    ?_⟩
  · rw [hrev.1 h hr, hy]
  · rw [(like_reversed "ab%c" "abc!").2.1 reading reading_decides he her,
      Engine.like_of_compiles reading_decides he]
    rfl
  · exact (hrev.2.2.1 hy "ab" "%c" (by decide)).1 rfl
  · exact (hrev.2.2.2 reading reading_decides hye "c" "ab%" (by decide)).2 rfl

end RecordQuery
