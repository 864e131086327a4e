import TextPattern.Predicate.Basic

/-!
# Tests of composite predicates

Negation turns every test around, and a conjunction or a disjunction tests its
operands, whatever was left out when the predicate was built.  So negation
exchanges the two.
-/

namespace TextPattern

namespace Predicate

theorem testAll_iff {operands : List Predicate} {c : Char} :
    testAll operands c = true ↔
      ∀ operand ∈ operands, operand.test c = true := by
  induction operands with
  | nil => simp [testAll]
  | cons operand operands ih => simp [testAll, ih]

theorem testAny_iff {operands : List Predicate} {c : Char} :
    testAny operands c = true ↔
      ∃ operand ∈ operands, operand.test c = true := by
  induction operands with
  | nil => simp [testAny]
  | cons operand operands ih => simp [testAny, ih]

theorem test_negate (predicate : Predicate) (c : Char) :
    predicate.negate.test c = !predicate.test c := by
  cases predicate <;> simp [negate, test, bne]

theorem test_allOf_iff (operands : List Predicate) (c : Char) :
    (allOf operands).test c = true ↔
      ∀ operand ∈ operands, operand.test c = true := by
  match operands with
  | [] => simp [allOf, test]
  | [operand] => simp [allOf]
  | first :: second :: operands => exact testAll_iff

theorem test_anyOf_iff (operands : List Predicate) (c : Char) :
    (anyOf operands).test c = true ↔
      ∃ operand ∈ operands, operand.test c = true := by
  match operands with
  | [] => simp [anyOf, test]
  | [operand] => simp [anyOf]
  | first :: second :: operands => exact testAny_iff

theorem test_negate_iff {predicate : Predicate} {c : Char} :
    predicate.negate.test c = true ↔ ¬ predicate.test c = true := by
  rw [test_negate, Bool.not_eq_true', Bool.not_eq_true]

theorem test_negate_allOf (operands : List Predicate) (c : Char) :
    (allOf operands).negate.test c = (anyOf (operands.map negate)).test c := by
  apply Bool.eq_iff_iff.mpr
  rw [test_negate_iff, test_allOf_iff, test_anyOf_iff]
  constructor
  · intro notAll
    simp only [Classical.not_forall] at notAll
    obtain ⟨operand, member, fails⟩ := notAll
    exact ⟨operand.negate, List.mem_map_of_mem member,
      test_negate_iff.mpr fails⟩
  · rintro ⟨negated, member, passes⟩ everyPasses
    obtain ⟨operand, inside, rfl⟩ := List.mem_map.mp member
    exact test_negate_iff.mp passes (everyPasses operand inside)

theorem test_negate_anyOf (operands : List Predicate) (c : Char) :
    (anyOf operands).negate.test c = (allOf (operands.map negate)).test c := by
  apply Bool.eq_iff_iff.mpr
  rw [test_negate_iff, test_anyOf_iff, test_allOf_iff]
  simp only [List.forall_mem_map, test_negate_iff, not_exists, not_and]

theorem test_and (left right : Predicate) (c : Char) :
    (left.and right).test c = (left.test c && right.test c) := by
  apply Bool.eq_iff_iff.mpr
  rw [and, test_allOf_iff, List.forall_mem_cons, List.forall_mem_singleton,
    Bool.and_eq_true]

theorem test_or (left right : Predicate) (c : Char) :
    (left.or right).test c = (left.test c || right.test c) := by
  apply Bool.eq_iff_iff.mpr
  rw [or, test_anyOf_iff, Bool.or_eq_true]
  simp only [List.mem_cons, List.not_mem_nil, or_false, exists_eq_or_imp,
    exists_eq_left]

end Predicate

end TextPattern
