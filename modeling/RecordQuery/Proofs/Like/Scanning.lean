import Mathlib.Data.List.Basic
import RecordQuery.Like.Scan
import RecordQuery.Proofs.Like.Meaning

/-!
# Matching needs no backtracking

A text is matched exactly if the scan from left to right succeeds, which takes every piece where it
first occurs. What any other occurrence leaves of the text is left by the first as well
(`exists_behindFirst?`), and a text that is woven from the remaining pieces behind a run stays so
with more in front of it (`Woven.of_suffix`), so no choice is better than the first
(`woven_nil_cons_cons`).
-/

namespace RecordQuery

namespace Like

variable {c : Char} {pattern piece text before rest : List Char} {ps : List (List Char)}

/-! ## First occurrences -/

theorem behindFirst?_append (piece rest : List Char) :
    behindFirst? piece (piece ++ rest) = some rest := by
  have h : piece.isPrefixOf? (piece ++ rest) = some rest :=
    List.isPrefixOf?_eq_some_iff_append_eq.2 rfl
  unfold behindFirst?
  rw [h]

theorem isPrefixOf?_eq_none_iff : piece.isPrefixOf? text = none ↔ ¬ piece <+: text := by
  rw [← Option.not_isSome_iff_eq_none, List.isSome_isPrefixOf?_eq_isPrefixOf,
    List.isPrefixOf_iff_prefix]

theorem behindFirst?_cons (h : ¬ piece <+: c :: text) :
    behindFirst? piece (c :: text) = behindFirst? piece text := by
  rw [behindFirst?, isPrefixOf?_eq_none_iff.2 h]

/-- The piece stands in the text behind `before`, with `rest` behind it, and begins nowhere
earlier. -/
structure FirstOccurrence (piece text before rest : List Char) : Prop where
  eq_append : text = before ++ piece ++ rest
  not_prefix_drop : ∀ n < before.length, ¬ piece <+: text.drop n

theorem FirstOccurrence.cons (h : FirstOccurrence piece text before rest)
    (hc : ¬ piece <+: c :: text) : FirstOccurrence piece (c :: text) (c :: before) rest := by
  refine ⟨by rw [h.eq_append]; rfl, ?_⟩
  rintro (_ | n) hn
  · exact hc
  · exact h.not_prefix_drop n (Nat.lt_of_succ_lt_succ hn)

theorem FirstOccurrence.tail (h : FirstOccurrence piece (c :: text) (c :: before) rest) :
    FirstOccurrence piece text before rest :=
  ⟨(List.cons.inj h.eq_append).2, fun n hn => h.not_prefix_drop (n + 1) (Nat.succ_lt_succ hn)⟩

theorem exists_firstOccurrence (h : behindFirst? piece text = some rest) :
    ∃ before, FirstOccurrence piece text before rest := by
  fun_induction behindFirst? piece text with
  | case1 text back hb =>
    cases h
    exact ⟨[], (List.isPrefixOf?_eq_some_iff_append_eq.1 hb).symm, nofun⟩
  | case2 => cases h
  | case3 c text hp ih =>
    obtain ⟨before, hf⟩ := ih h
    exact ⟨c :: before, hf.cons (isPrefixOf?_eq_none_iff.1 hp)⟩

theorem FirstOccurrence.behindFirst? (h : FirstOccurrence piece text before rest) :
    behindFirst? piece text = some rest := by
  induction before generalizing text with
  | nil =>
    rw [h.eq_append]
    exact behindFirst?_append piece rest
  | cons c before ih =>
    obtain rfl : text = c :: (before ++ piece ++ rest) := h.eq_append
    rw [behindFirst?_cons (h.not_prefix_drop 0 (Nat.succ_pos _)), ih h.tail]

theorem behindFirst?_eq_some_iff :
    behindFirst? piece text = some rest ↔ ∃ before, FirstOccurrence piece text before rest :=
  ⟨exists_firstOccurrence, fun ⟨_, h⟩ => h.behindFirst?⟩

theorem exists_behindFirst? (before piece after : List Char) :
    ∃ rest, behindFirst? piece (before ++ piece ++ after) = some rest ∧ after <:+ rest := by
  induction before with
  | nil => exact ⟨after, behindFirst?_append piece after, List.suffix_rfl⟩
  | cons c before ih =>
    by_cases hp : piece <+: c :: (before ++ piece ++ after)
    · -- an earlier occurrence: both rests end the text, and the later one is no longer
      obtain ⟨rest, hr⟩ := hp
      refine ⟨rest, by rw [List.cons_append, List.cons_append, ← hr, behindFirst?_append], ?_⟩
      refine List.suffix_of_suffix_length_le (List.suffix_append (c :: (before ++ piece)) after)
        ⟨piece, hr⟩ ?_
      have hl := congrArg List.length hr
      simp only [List.length_append, List.length_cons] at hl
      omega
    · obtain ⟨rest, hr, hs⟩ := ih
      exact ⟨rest, by rw [List.cons_append, List.cons_append, behindFirst?_cons hp, hr], hs⟩

/-! ## Weaving with the first occurrences -/

/-- The exchange: a piece behind a run may be taken where it first occurs. -/
theorem woven_nil_cons_cons (h : ps ≠ []) : Woven ([] :: piece :: ps) text ↔
    ∃ rest, behindFirst? piece text = some rest ∧ Woven ([] :: ps) rest := by
  rw [woven_nil_cons (List.cons_ne_nil piece ps)]
  constructor
  · rintro ⟨_, ⟨before, rfl⟩, hw⟩
    obtain ⟨after, rfl, ha⟩ := (woven_cons h).1 hw
    obtain ⟨rest, hr, hs⟩ := exists_behindFirst? before piece after
    exact ⟨rest, by rw [← List.append_assoc, hr], ha.of_suffix h hs⟩
  · rintro ⟨rest, hr, hw⟩
    obtain ⟨before, hb⟩ := behindFirst?_eq_some_iff.1 hr
    exact ⟨piece ++ rest, ⟨before, by rw [hb.eq_append, List.append_assoc]⟩,
      (woven_cons h).2 ⟨rest, rfl, hw⟩⟩

theorem woven_nil_pair {last : List Char} : Woven [[], last] text ↔ last <:+ text := by
  rw [woven_nil_cons (List.cons_ne_nil last [])]
  simp only [woven_singleton, exists_eq_right]

/-- What says the same of the last piece as the scan, and goes on behind first occurrences, is what
the scan decides. -/
theorem scanPieces_iff (P : List (List Char) → List Char → Prop)
    (hlast : ∀ {last text}, P [last] text ↔ last <:+ text)
    (hcons : ∀ {piece ps text}, ps ≠ [] →
      (P (piece :: ps) text ↔ ∃ rest, behindFirst? piece text = some rest ∧ P ps rest))
    (h : ps ≠ []) : scanPieces ps text ↔ P ps text := by
  fun_induction scanPieces ps text with
  | case1 => exact absurd rfl h
  | case2 last text => rw [hlast, List.isSuffixOf_iff_suffix]
  | case3 piece next ps text rest hr ih =>
    have hne := List.cons_ne_nil next ps
    rw [hcons hne, ih hne, hr]
    simp
  | case4 piece next ps text hr =>
    rw [hcons (List.cons_ne_nil next ps), hr]
    simp

theorem scanPieces_iff_woven (h : ps ≠ []) : scanPieces ps text ↔ Woven ([] :: ps) text :=
  scanPieces_iff (fun ps text => Woven ([] :: ps) text) woven_nil_pair woven_nil_cons_cons h

theorem scan_of_pieces_eq_singleton (h : pieces pattern = [piece]) :
    scan pattern text ↔ text = piece := by
  unfold scan
  rw [h, beq_iff_eq]

theorem scan_of_pieces_eq_cons {first next : List Char} (h : pieces pattern = first :: next :: ps) :
    scan pattern text ↔ ∃ rest, text = first ++ rest ∧ scanPieces (next :: ps) rest := by
  unfold scan
  rw [h]
  constructor
  · intro hs
    cases hr : first.isPrefixOf? text with
    | none => simp [hr] at hs
    | some rest =>
      exact ⟨rest, (List.isPrefixOf?_eq_some_iff_append_eq.1 hr).symm, by simpa [hr] using hs⟩
  · rintro ⟨rest, rfl, hs⟩
    have hr : first.isPrefixOf? (first ++ rest) = some rest :=
      List.isPrefixOf?_eq_some_iff_append_eq.2 rfl
    simpa [hr] using hs

theorem scan_iff_woven : scan pattern text ↔ Woven (pieces pattern) text := by
  obtain ⟨first, ps, h⟩ := List.exists_cons_of_ne_nil (pieces_ne_nil pattern)
  cases ps with
  | nil => rw [scan_of_pieces_eq_singleton h, h, woven_singleton]
  | cons next ps =>
    have hne := List.cons_ne_nil next ps
    rw [scan_of_pieces_eq_cons h, h, woven_cons hne]
    simp only [scanPieces_iff_woven hne]

/-! ## The scan without a program -/

/-- The pieces stand in the text one behind the other: each but the last where it first occurs
behind the one before it, and the last at the end. -/
inductive FoundInTurn : List (List Char) → List Char → Prop
  | last {piece text : List Char} (h : piece <:+ text) : FoundInTurn [piece] text
  | next {piece text before rest : List Char} {ps : List (List Char)}
    (h : FirstOccurrence piece text before rest) (hps : FoundInTurn ps rest) :
    FoundInTurn (piece :: ps) text

theorem foundInTurn_singleton : FoundInTurn [piece] text ↔ piece <:+ text := by
  refine ⟨?_, .last⟩
  rintro (h | ⟨-, ⟨⟩⟩)
  exact h

theorem foundInTurn_cons (h : ps ≠ []) : FoundInTurn (piece :: ps) text ↔
    ∃ rest, behindFirst? piece text = some rest ∧ FoundInTurn ps rest := by
  constructor
  · rintro (_ | ⟨hf, hps⟩)
    · exact absurd rfl h
    · exact ⟨_, behindFirst?_eq_some_iff.2 ⟨_, hf⟩, hps⟩
  · rintro ⟨rest, hr, hps⟩
    obtain ⟨before, hf⟩ := behindFirst?_eq_some_iff.1 hr
    exact .next hf hps

theorem scanPieces_iff_foundInTurn (h : ps ≠ []) : scanPieces ps text ↔ FoundInTurn ps text :=
  scanPieces_iff FoundInTurn foundInTurn_singleton foundInTurn_cons h

theorem scan_of_not_mem (h : wildcardChar ∉ pattern) : scan pattern text ↔ text = pattern :=
  scan_of_pieces_eq_singleton (pieces_of_not_mem h)

theorem scan_of_mem (h : wildcardChar ∈ pattern) : scan pattern text ↔
    ∃ first ps rest,
      pieces pattern = first :: ps ∧ text = first ++ rest ∧ FoundInTurn ps rest := by
  obtain ⟨first, next, ps, hp⟩ := exists_pieces_eq_of_mem h
  rw [scan_of_pieces_eq_cons hp]
  simp [hp, scanPieces_iff_foundInTurn (List.cons_ne_nil next ps)]

theorem scan_eq_covered (pattern text : List Char) :
    scan pattern text = covered (tokens pattern) text := by
  rw [Bool.eq_iff_iff, scan_iff_woven, covered_iff, covers_tokens_iff]

end Like

open Like

/-- **Matching needs no backtracking.** A pattern matches what the scan finds: without wildcards the
text that is the pattern, and otherwise a text that begins with the first piece and in the rest of
which the others are found, each but the last where it first occurs behind the one before it, and
the last at the end. Every engine that decides the expression of the pattern agrees. -/
theorem like_eq_scan (pattern text : String) :
    (LikePattern.Compiles pattern →
      like text pattern = .ok (scan pattern.toList text.toList)) ∧
    (∀ engine : Engine, engine.Decides → engine.Compiles pattern →
      engine.like text pattern = .ok (scan pattern.toList text.toList)) ∧
    (wildcardChar ∉ pattern.toList → (scan pattern.toList text.toList ↔ text = pattern)) ∧
    (wildcardChar ∈ pattern.toList → (scan pattern.toList text.toList ↔
      ∃ first ps rest, pieces pattern.toList = first :: ps ∧ text.toList = first ++ rest ∧
        FoundInTurn ps rest)) := by
  refine ⟨fun h => ?_, fun engine hd h => ?_, fun h => ?_, scan_of_mem⟩
  · rw [like_of_compiles h, scan_eq_covered]
  · rw [Engine.like_of_compiles hd h, scan_eq_covered]
  · rw [scan_of_not_mem h, String.toList_inj]

/-- Behind `a` the piece `aba` first occurs one character in, and `ba` may not share its end. -/
theorem like_eq_scan_overlap :
    LikePattern.Compiles "a%aba%ba" ∧ like "abababa" "a%aba%ba" = .ok true ∧
      like "ababa" "a%aba%ba" = .ok false ∧
      reading.Decides ∧ reading.Compiles "a%aba%ba" ∧
      reading.like "ababa" "a%aba%ba" = .ok false ∧
      wildcardChar ∉ "aba".toList ∧ scan "aba".toList "aba".toList ∧
      wildcardChar ∈ "a%aba%ba".toList ∧
      ∃ first ps rest,
        pieces "a%aba%ba".toList = first :: ps ∧ "abababa".toList = first ++ rest ∧
        FoundInTurn ps rest := by
  have h : LikePattern.Compiles "a%aba%ba" := by decide
  have hr : reading.Compiles "a%aba%ba" := reading_compiles_iff.2 h
  have hm : wildcardChar ∈ "a%aba%ba".toList := by decide
  have hn : wildcardChar ∉ "aba".toList := by decide
  have hyes := like_eq_scan "a%aba%ba" "abababa"
  have hno := like_eq_scan "a%aba%ba" "ababa"
  have hscan : scan "a%aba%ba".toList "abababa".toList = true := by decide
  refine ⟨h, ?_, ?_, reading_decides, hr, ?_, hn, ?_, hm, ?_⟩
  · rw [hyes.1 h, hscan]
  · exact hno.1 h
  · exact hno.2.1 reading reading_decides hr
  · exact ((like_eq_scan "aba" "aba").2.2.1 hn).2 rfl
  · exact (hyes.2.2.2 hm).1 hscan

end RecordQuery
