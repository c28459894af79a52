import RecordQuery.Proofs.Like.Covering
import RecordQuery.Proofs.Like.Engine

/-!
# What a like pattern means

`like_iff_woven`: a pattern that is not refused matches a text exactly if the text is woven from the
pieces of the pattern, and any engine for regular expressions that decides what the pattern's
expression denotes answers the same.
-/

namespace RecordQuery

open Like

/-! ## Matching as covering -/

namespace Like.Engine

variable {engine : Engine} {text pattern : String} {answer : Bool}

/-- The engine does not refuse the expression of the pattern. -/
def Compiles (engine : Engine) (pattern : String) : Prop :=
  ∃ regex, engine.compile (expression pattern) = .ok regex

theorem like_eq_ok_iff (hd : engine.Decides) : engine.like text pattern = .ok answer ↔
    engine.Compiles pattern ∧ (answer = true ↔ Covers (tokens pattern.toList) text.toList) := by
  unfold Engine.like Compiles
  cases hc : engine.compile (expression pattern) with
  | error fault => simp
  | ok regex =>
    have hm := hd (tokens pattern.toList) regex hc text
    rw [denotes_body_iff] at hm
    show Except.ok _ = Except.ok _ ↔ _
    rw [← hm, Except.ok.injEq, ← Bool.eq_iff_iff]
    simpa using eq_comm

theorem like_of_compiles (hd : engine.Decides) (h : engine.Compiles pattern) :
    engine.like text pattern = .ok (covered (tokens pattern.toList) text.toList) :=
  (like_eq_ok_iff hd).2 ⟨h, covered_iff⟩

theorem like_eq_true_iff (hd : engine.Decides) : engine.like text pattern = .ok true ↔
    engine.Compiles pattern ∧ Covers (tokens pattern.toList) text.toList := by
  simp [like_eq_ok_iff hd]

end Like.Engine

/-- The pattern is not refused. -/
def LikePattern.Compiles (pattern : String) : Prop :=
  ∃ compiled, LikePattern.compile pattern = .ok compiled

section

variable {text pattern : String} {answer : Bool}

theorem LikePattern.compiles_iff : LikePattern.Compiles pattern ↔
    compiledSize (tokens pattern.toList) ≤ sizeLimit := by
  constructor
  · rintro ⟨compiled, h⟩
    rw [← compile_eq_ok_iff.1 h]
    exact compiled.fits
  · intro h
    exact ⟨⟨pattern, h⟩, compile_eq_ok_iff.2 rfl⟩

theorem reading_compiles_iff : reading.Compiles pattern ↔ LikePattern.Compiles pattern := by
  rw [LikePattern.compiles_iff]
  unfold Engine.Compiles
  rw [expression_eq, reading_compile]
  unfold withinLimit
  by_cases h : compiledSize (tokens pattern.toList) ≤ sizeLimit
  · rw [if_pos h]
    exact iff_of_true ⟨_, rfl⟩ h
  · rw [if_neg h]
    refine iff_of_false ?_ h
    rintro ⟨regex, hr⟩
    cases hr

theorem like_eq_reading : like = reading.like := by
  funext text pattern
  exact like_eq_reading_like text pattern

theorem compiles_eq_reading : LikePattern.Compiles = reading.Compiles := by
  funext pattern
  exact propext reading_compiles_iff.symm

instance : Decidable (LikePattern.Compiles pattern) :=
  decidable_of_iff _ LikePattern.compiles_iff.symm

instance : Decidable (reading.Compiles pattern) :=
  decidable_of_iff _ reading_compiles_iff.symm

theorem like_eq_ok_iff : like text pattern = .ok answer ↔ LikePattern.Compiles pattern ∧
    (answer = true ↔ Covers (tokens pattern.toList) text.toList) := by
  rw [like_eq_reading_like, Engine.like_eq_ok_iff reading_decides, reading_compiles_iff]

theorem like_of_compiles (h : LikePattern.Compiles pattern) :
    like text pattern = .ok (covered (tokens pattern.toList) text.toList) :=
  like_eq_ok_iff.2 ⟨h, covered_iff⟩

theorem like_eq_true_iff : like text pattern = .ok true ↔
    LikePattern.Compiles pattern ∧ Covers (tokens pattern.toList) text.toList := by
  simp [like_eq_ok_iff]

theorem like_eq_false_iff : like text pattern = .ok false ↔
    LikePattern.Compiles pattern ∧ ¬ Covers (tokens pattern.toList) text.toList := by
  simp [like_eq_ok_iff]

end

/-! ## The texts that a pattern matches -/

/-- **Meaning of a like pattern.** A text is matched exactly if it consists of the pieces of the
pattern in their order with one run of characters, possibly empty, between each two of them. So
answers `like`, and so does every engine that decides the expression of the pattern. -/
theorem like_iff_woven (pattern text : String) :
    (LikePattern.Compiles pattern →
      (like text pattern = .ok true ↔ Woven (pieces pattern.toList) text.toList) ∧
      (like text pattern = .ok false ↔ ¬ Woven (pieces pattern.toList) text.toList)) ∧
    ∀ engine : Engine, engine.Decides → engine.Compiles pattern →
      (engine.like text pattern = .ok true ↔ Woven (pieces pattern.toList) text.toList) ∧
      (engine.like text pattern = .ok false ↔ ¬ Woven (pieces pattern.toList) text.toList) := by
  rw [← covers_tokens_iff]
  refine ⟨fun h => ⟨?_, ?_⟩, fun engine hd h => ⟨?_, ?_⟩⟩
  · rw [like_eq_true_iff, and_iff_right h]
  · rw [like_eq_false_iff, and_iff_right h]
  · simp [Engine.like_eq_ok_iff hd, h]
  · simp [Engine.like_eq_ok_iff hd, h]

/-- The pieces `ab` and `ba` do not overlap, and a run may hold a line break and a wildcard. -/
theorem like_iff_woven_overlap :
    LikePattern.Compiles "ab%ba" ∧ like "ab\n%ba" "ab%ba" = .ok true ∧
      like "aba" "ab%ba" = .ok false ∧
      reading.Decides ∧ reading.Compiles "ab%ba" ∧ reading.like "aba" "ab%ba" = .ok false := by
  have h : LikePattern.Compiles "ab%ba" := LikePattern.compiles_iff.2 (by decide)
  have hr : reading.Compiles "ab%ba" := reading_compiles_iff.2 h
  have hw : ¬ Woven (pieces "ab%ba".toList) "aba".toList := by
    rw [← covers_tokens_iff]
    decide
  refine ⟨h, ?_, ?_, reading_decides, hr, ?_⟩
  · exact ((like_iff_woven "ab%ba" "ab\n%ba").1 h).1.2 ⟨[['\n', '%']], rfl, rfl⟩
  · exact ((like_iff_woven "ab%ba" "aba").1 h).2.2 hw
  · exact ((like_iff_woven "ab%ba" "aba").2 reading reading_decides hr).2.2 hw

end RecordQuery
