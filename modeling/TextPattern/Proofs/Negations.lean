import TextPattern.Predicate.Equality
import TextPattern.Proofs.PredicateAlgebra

/-!
# Negations of predicates

Most predicates have an opposite among the constructors, and negation changes
to it or takes a negation off.  A negation of its own is left for the others,
so two negations of a predicate that was built give back that predicate, and
not only its test.
-/

namespace TextPattern

namespace Predicate

/-! ## Nodes -/

/-- The predicates directly below the root. -/
def operands : Predicate → List Predicate
  | not operand => [operand]
  | all operands => operands
  | any operands => operands
  | _ => []

/-- The property holds of every node of the tree. -/
inductive Everywhere (property : Predicate → Prop) : Predicate → Prop where
  | node {predicate : Predicate} :
      property predicate →
      (∀ operand ∈ predicate.operands, Everywhere property operand) →
      Everywhere property predicate

section

variable {property : Predicate → Prop}

theorem Everywhere.root {predicate : Predicate}
    (everywhere : predicate.Everywhere property) : property predicate := by
  cases everywhere with
  | node holds _ => exact holds

theorem Everywhere.operand {predicate : Predicate}
    (everywhere : predicate.Everywhere property) :
    ∀ operand ∈ predicate.operands, operand.Everywhere property := by
  cases everywhere with
  | node _ operands => exact operands

theorem Everywhere.leaf {predicate : Predicate} (holds : property predicate)
    (leaf : predicate.operands = []) : predicate.Everywhere property := by
  refine .node holds fun operand member => ?_
  rw [leaf] at member
  cases member

/-- A conjunction or disjunction becomes a node only of two operands or
more. -/
theorem combined_holds (combine node : List Predicate → Predicate)
    {unit : Predicate} (empty : combine [] = unit)
    (single : ∀ operand, combine [operand] = operand)
    (several : ∀ first second others,
      combine (first :: second :: others) = node (first :: second :: others))
    {operands : List Predicate} (unitHolds : property unit)
    (operandsHold : ∀ operand ∈ operands, property operand)
    (nodeHolds : 2 ≤ operands.length → property (node operands)) :
    property (combine operands) := by
  match operands with
  | [] =>
      rw [empty]
      exact unitHolds
  | [operand] =>
      rw [single]
      exact operandsHold operand List.mem_cons_self
  | first :: second :: others =>
      rw [several]
      exact nodeHolds (by simp)

theorem allOf_holds {operands : List Predicate} (unitHolds : property always)
    (operandsHold : ∀ operand ∈ operands, property operand)
    (nodeHolds : 2 ≤ operands.length → property (all operands)) :
    property (allOf operands) :=
  combined_holds allOf all rfl (fun _ => rfl) (fun _ _ _ => rfl) unitHolds
    operandsHold nodeHolds

theorem anyOf_holds {operands : List Predicate} (unitHolds : property never)
    (operandsHold : ∀ operand ∈ operands, property operand)
    (nodeHolds : 2 ≤ operands.length → property (any operands)) :
    property (anyOf operands) :=
  combined_holds anyOf any rfl (fun _ => rfl) (fun _ _ _ => rfl) unitHolds
    operandsHold nodeHolds

end

/-! ## Opposites -/

/-- The predicate has an opposite without a negation of its own. -/
def Paired : Predicate → Prop
  | always | never | is _ | isNot _ | range _ _ | notRange _ _ | among _
  | notAmong _ | not _ => True
  | _ => False

/-- A negation stands only where there is no opposite to change to. -/
def NegationNeeded : Predicate → Prop
  | not operand => ¬ operand.Paired
  | _ => True

theorem negate_eq_not {predicate : Predicate}
    (unpaired : ¬ predicate.Paired) : predicate.negate = not predicate := by
  cases predicate with
  | always | never | is _ | isNot _ | range _ _ | notRange _ _ | among _
  | notAmong _ | not _ => exact absurd trivial unpaired
  | _ => rfl

theorem negate_ne_not {predicate : Predicate} (paired : predicate.Paired) :
    predicate.negate ≠ not predicate := by
  intro same
  cases predicate with
  | not operand =>
      -- The operand would be a negation of its own negation.
      have size := congrArg sizeOf same
      simp only [negate, not.sizeOf_spec] at size
      omega
  | always | never | is _ | isNot _ | range _ _ | notRange _ _ | among _
  | notAmong _ => cases same
  | _ => exact paired

/-- Two negations give a predicate back unless it negates what has an
opposite. -/
theorem negate_negate_eq_iff {predicate : Predicate} :
    predicate.negate.negate = predicate ↔ predicate.NegationNeeded := by
  cases predicate with
  | not operand =>
      constructor
      · intro same paired
        exact negate_ne_not paired same
      · intro unpaired
        exact negate_eq_not unpaired
  | _ => exact ⟨fun _ => trivial, fun _ => rfl⟩

/-! ## Predicates that are built -/

/-- The predicate comes from constructors and operators, and every negation in
it from the operator. -/
inductive Built : Predicate → Prop where
  | leaf {predicate : Predicate} : predicate.operands = [] → Built predicate
  | all {operands : List Predicate} :
      (∀ operand ∈ operands, Built operand) → Built (all operands)
  | any {operands : List Predicate} :
      (∀ operand ∈ operands, Built operand) → Built (any operands)
  | negate {operand : Predicate} : Built operand → Built operand.negate
  | allOf {operands : List Predicate} :
      (∀ operand ∈ operands, Built operand) → Built (allOf operands)
  | anyOf {operands : List Predicate} :
      (∀ operand ∈ operands, Built operand) → Built (anyOf operands)

/-- Negation needs no negation that was not needed before. -/
theorem negate_everywhere {predicate : Predicate}
    (needed : predicate.Everywhere NegationNeeded) :
    predicate.negate.Everywhere NegationNeeded := by
  by_cases paired : predicate.Paired
  · cases predicate with
    | not operand => exact needed.operand operand List.mem_cons_self
    | always | never | is _ | isNot _ | range _ _ | notRange _ _ | among _
    | notAmong _ => exact .leaf trivial rfl
    | _ => exact paired.elim
  · rw [negate_eq_not paired]
    refine .node paired fun operand member => ?_
    rw [List.mem_singleton.mp member]
    exact needed

theorem Built.negations_needed {predicate : Predicate}
    (built : predicate.Built) : predicate.Everywhere NegationNeeded := by
  induction built with
  | @leaf predicate noOperands =>
      apply Everywhere.leaf _ noOperands
      cases predicate with
      | not operand => cases noOperands
      | _ => trivial
  | all _ ih => exact .node trivial ih
  | any _ ih => exact .node trivial ih
  | negate _ ih => exact negate_everywhere ih
  | allOf _ ih =>
      exact allOf_holds (.leaf trivial rfl) ih fun _ => .node trivial ih
  | anyOf _ ih =>
      exact anyOf_holds (.leaf trivial rfl) ih fun _ => .node trivial ih

/-! ## Equality -/

theorem agreeBelow_self (accepts : Char → Bool) (bound : Nat) :
    agreeBelow accepts accepts bound = true := by
  induction bound with
  | zero => rfl
  | succ bound ih => simp [agreeBelow, ih]

mutual

theorem same_self (predicate : Predicate) :
    same predicate predicate = true := by
  cases predicate with
  | not operand => exact same_self operand
  | all operands => exact sameList_self operands
  | any operands => exact sameList_self operands
  | custom name accepts => simp [same, agreeBelow_self]
  | _ => simp [same]

theorem sameList_self (predicates : List Predicate) :
    sameList predicates predicates = true := by
  cases predicates with
  | nil => rfl
  | cons head tail =>
      rw [sameList, same_self head, sameList_self tail, Bool.and_self]

end

/-- The operators are the Boolean operations on tests, and on predicates that
were built negation is its own inverse: every negation in them is needed, and
two more give the predicate back. -/
theorem operators_boolean :
    (∀ (predicate : Predicate) (c : Char),
      predicate.negate.test c = !predicate.test c) ∧
    (∀ (operands : List Predicate) (c : Char),
      (allOf operands).test c = true ↔
        ∀ operand ∈ operands, operand.test c = true) ∧
    (∀ (operands : List Predicate) (c : Char),
      (anyOf operands).test c = true ↔
        ∃ operand ∈ operands, operand.test c = true) ∧
    (∀ (left right : Predicate) (c : Char),
      (left.and right).test c = (left.test c && right.test c) ∧
      (left.or right).test c = (left.test c || right.test c)) ∧
    (∀ (operands : List Predicate) (c : Char),
      (allOf operands).negate.test c =
        (anyOf (operands.map negate)).test c ∧
      (anyOf operands).negate.test c =
        (allOf (operands.map negate)).test c) ∧
    ∀ predicate : Predicate, predicate.Built →
      predicate.Everywhere NegationNeeded ∧
      predicate.negate.negate = predicate ∧
      (predicate.negate.negate == predicate) = true := by
  refine ⟨test_negate, test_allOf_iff, test_anyOf_iff, ?_, ?_, ?_⟩
  · intro left right c
    exact ⟨test_and left right c, test_or left right c⟩
  · intro operands c
    exact ⟨test_negate_allOf operands c, test_negate_anyOf operands c⟩
  · intro predicate built
    have needed := built.negations_needed
    have restored := negate_negate_eq_iff.mpr needed.root
    refine ⟨needed, restored, ?_⟩
    rw [restored]
    exact same_self predicate

/-- A conjunction of one operand that was not made by the operator, with a
negation inside and one outside. -/
theorem operators_boolean_nested :
    Built (negate (all [negate digit])) ∧
      negate (negate (negate (all [negate digit]))) =
        negate (all [negate digit]) := by
  have built : Built (negate (all [negate digit])) := by
    refine .negate (.all fun operand member => ?_)
    rw [List.mem_singleton.mp member]
    exact .negate (.leaf rfl)
  exact ⟨built, (operators_boolean.2.2.2.2.2 _ built).2.1⟩

end Predicate

end TextPattern
