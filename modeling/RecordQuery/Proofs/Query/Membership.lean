import RecordQuery.Proofs.Query.Staging
import RecordQuery.Proofs.Value.Ordering
import RecordQuery.Subject

/-!
# Membership by comparisons

A value is in a list if it equals some member, so a filter that keeps the values outside a list can
be exchanged for one comparison with each member (`accepts_withoutEach`), and neither the order of
the members nor how often each is listed makes a difference. Equality is symmetric and transitive on
all values that conditions compare (`ValueType.partialEquivBEq`), but a value need not equal itself;
one that does not is in no list. `membership_as_comparisons` says all this of any query and any such
equality.
-/

namespace RecordQuery

variable {β : Type w} [BEq β] {v : β} {members members' : List β}

/-! ## Lists of members -/

namespace Condition

theorem notIn_eq_all (v : β) (members : List β) : notIn v members = members.all (ne v ·) :=
  List.not_any_eq_all_not

theorem foldl_or_eq (v : β) (members : List β) (found : Bool) :
    members.foldl (fun found member => or found (eq v member)) found =
      or found (isIn v members) := by
  induction members generalizing found with
  | nil => exact (Bool.or_false found).symm
  | cons member members ih =>
    rw [List.foldl_cons, ih]
    exact Bool.or_assoc found (v == member) (isIn v members)

theorem isIn_append (v : β) (members members' : List β) :
    isIn v (members ++ members') = or (isIn v members) (isIn v members') :=
  List.any_append

theorem isIn_congr (h : ∀ x, x ∈ members' ↔ x ∈ members) (v : β) :
    isIn v members' = isIn v members := by
  rw [Bool.eq_iff_iff, isIn, isIn, List.any_eq_true, List.any_eq_true]
  simp only [h]

theorem notIn_congr (h : ∀ x, x ∈ members' ↔ x ∈ members) (v : β) :
    notIn v members' = notIn v members := by
  rw [notIn, notIn, isIn_congr h]

/-- A value that equals a member equals itself by way of that member. -/
theorem eq_self_of_isIn [PartialEquivBEq β] (h : isIn v members = true) : eq v v = true := by
  obtain ⟨member, -, hmember⟩ := List.any_eq_true.1 h
  exact BEq.trans hmember (BEq.symm hmember)

end Condition

/-! ## Equality of the values of conditions -/

theorem partialEquivBEq_of_comparable {α : Type u} [BEq α] [Comparable α] [LawfulComparable α]
    [PartiallyOrdered α] : PartialEquivBEq α where
  symm {a b} h := by
    rw [LawfulComparable.beq_iff] at h ⊢
    rw [← PartiallyOrdered.swap, h]
    rfl
  trans {a b c} hab hbc := by
    rw [LawfulComparable.beq_iff] at hab hbc ⊢
    exact PartiallyOrdered.eq_trans hab hbc

theorem ValueType.partialEquivBEq (t : ValueType) : PartialEquivBEq t.Value :=
  partialEquivBEq_of_comparable

/-! ## One filter for each member -/

namespace Query

variable {α : Type u} {ρ : Type v}

/-- The query with one more filter for each member, which keeps the records whose value is not the
member. -/
def withoutEach (query : Query α ρ) (value : α → β) (members : List β) : Query α ρ :=
  members.foldl
    (fun query member => query.filter fun record => Condition.ne (value record) member) query

theorem withoutEach_eq (query : Query α ρ) (value : α → β) (members : List β) :
    query.withoutEach value members =
      { query with filters := query.filters ++
          members.map fun member record => .ok (Condition.ne (value record) member) } := by
  rw [← foldl_tryFilter_eq, List.foldl_map]
  rfl

theorem accepts_withoutEach (query : Query α ρ) (value : α → β) (members : List β)
    (record : α) :
    (query.withoutEach value members).accepts record =
      (query.filter fun record => Condition.notIn (value record) members).accepts record := by
  rw [withoutEach_eq, Query.filter, accepts_tryFilter, accepts, allM_append, allM_map_ok,
    Condition.notIn_eq_all]
  rfl

/-- **Membership by comparisons.** To keep the records whose value is outside a list is to compare
the value with each member by a filter of its own, in any order and any number of times: nothing
tells the two queries apart. To be in a list is to equal one member or another. Hence a value is in
two lists together if it is in one of them, the order and repetitions of the members do not count,
nothing is in the empty list, and a value that does not equal itself is in no list. The forms with
the value in front say the same. -/
theorem membership_as_comparisons [PartialEquivBEq β] (query : Query α ρ) (value : α → β)
    (members : List β) :
    (∀ members' : List β, (∀ x, x ∈ members' ↔ x ∈ members) →
      SameAnswers (query.filter fun record => Condition.notIn (value record) members)
        (query.withoutEach value members')) ∧
    (∀ v : β,
      Condition.isIn v members =
        members.foldl (fun found member => Condition.or found (Condition.eq v member)) false ∧
      (∀ members' : List β, Condition.isIn v (members ++ members') =
        Condition.or (Condition.isIn v members) (Condition.isIn v members')) ∧
      (∀ members' : List β, (∀ x, x ∈ members' ↔ x ∈ members) →
        Condition.isIn v members' = Condition.isIn v members) ∧
      Condition.isIn v [] = false ∧
      (Condition.eq v v = false → Condition.isIn v members = false) ∧
      (that v).isIn members = Condition.isIn v members ∧
      (that v).notIn members = Condition.notIn v members) := by
  refine ⟨fun members' h => ?_, fun v => ⟨?_, Condition.isIn_append v members,
    fun members' h => Condition.isIn_congr h v, rfl, fun hself => ?_, rfl, rfl⟩⟩
  · have haccepts (record : α) :
        (query.filter fun record => Condition.notIn (value record) members).accepts record =
          (query.withoutEach value members').accepts record := by
      rw [accepts_withoutEach]
      simp only [Condition.notIn_congr h]
    rw [withoutEach_eq] at haccepts ⊢
    exact .of_accepts rfl rfl haccepts
  · rw [Condition.foldl_or_eq]
    rfl
  · rw [Bool.eq_false_iff] at hself ⊢
    exact mt Condition.eq_self_of_isIn hself

/-- What is not a number equals no member, not even itself as one, and so it stays under either
query. -/
theorem membership_as_comparisons_option :
    let t : ValueType := .option (.float .double)
    let one : Binary .double := ⟨.ofNat _ 0x3ff0000000000000⟩
    let value : Nat → t.Value :=
      fun n => if n = 0 then some .nan else if n = 1 then some one else none
    let members : List t.Value := [some .nan, some one]
    let members' : List t.Value := [some one, some .nan, some one]
    let query := (ofSource [1, 0, 2, 5]).tryFilter fun n =>
      if n = 9 then .error (.divisionByZero "rem") else .ok (n ≠ 5)
    (∀ x, x ∈ members' ↔ x ∈ members) ∧
      SameAnswers (query.filter fun n => Condition.notIn (value n) members)
        (query.withoutEach value members') ∧
      (query.filter fun n => Condition.notIn (value n) members).execute = .ok [0, 2] ∧
      (query.withoutEach value members').execute = .ok [0, 2] ∧
      Condition.isIn (some one) members' = Condition.isIn (some one) members ∧
      Condition.eq (value 0) (value 0) = false ∧ Condition.isIn (value 0) members = false := by
  intro t one value members members' query
  have := t.partialEquivBEq
  have hsame : ∀ x, x ∈ members' ↔ x ∈ members := by
    intro x
    simp only [members, members', List.mem_cons, List.not_mem_nil, or_false]
    tauto
  obtain ⟨hfilters, hlaws⟩ := membership_as_comparisons query value members
  have hexecute :
      (query.filter fun n => Condition.notIn (value n) members).execute = .ok [0, 2] := by
    rw [execute_eq_mapM, toList_rows]
    decide
  have hself : Condition.eq (value 0) (value 0) = false := by decide
  refine ⟨hsame, hfilters members' hsame, hexecute, ?_,
    (hlaws (some one)).2.2.1 members' hsame, hself,
    (hlaws (value 0)).2.2.2.2.1 hself⟩
  rw [← (hfilters members' hsame).execute, hexecute]

end Query

end RecordQuery
