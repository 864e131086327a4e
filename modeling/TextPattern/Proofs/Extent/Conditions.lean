import TextPattern.Proofs.Extent.Operations
import TextPattern.Proofs.Extent.Repetition

/-!
# Conditions

A negation looks only at whether its operand matches, so it turns operations on
several operands into each other.  A condition is a choice between what follows
it and what follows its negation, and what comes before a choice or a selection
can be moved into the operands.
-/

namespace TextPattern

namespace Extent

variable {left right head : Extent} {operands : List Extent}

/-! ## Negations -/

theorem lookahead_eq_negation (operand : Extent) :
    lookahead operand = negation (negation operand) := by
  funext text
  simp only [lookahead, negation]
  cases operand text <;> rfl

/-- A negation does not see how long a match is. -/
theorem negation_congr
    (same : ∀ text, left text = none ↔ right text = none) :
    negation left = negation right := by
  funext text
  have here := same text
  simp only [negation]
  cases leftResult : left text with
  | none => rw [here.mp leftResult]
  | some length =>
      cases rightResult : right text with
      | none =>
          rw [here.mpr rightResult] at leftResult
          cases leftResult
      | some other => rfl

theorem negation_longest (operands : List Extent) :
    negation (longest operands) = negation (choice operands) :=
  negation_congr fun _ => longest_eq_none_iff.trans choice_eq_none_iff.symm

theorem negation_shortest (operands : List Extent) :
    negation (shortest operands) = negation (choice operands) :=
  negation_congr fun _ => shortest_eq_none_iff.trans choice_eq_none_iff.symm

theorem negation_choice (operands : List Extent) :
    negation (choice operands) = conjunction (operands.map negation) := by
  funext text
  induction operands with
  | nil => rfl
  | cons operand operands ih =>
      rw [List.map_cons, conjunction_cons, ← ih]
      simp only [negation, choice_cons]
      cases operand text with
      | none => cases choice operands text <;> rfl
      | some length => rfl

theorem negation_conjunction (operands : List Extent) :
    negation (conjunction operands) = choice (operands.map negation) := by
  funext text
  induction operands with
  | nil => rfl
  | cons operand operands ih =>
      rw [List.map_cons, choice_cons, ← ih]
      simp only [negation, conjunction_cons]
      cases operand text with
      | none => rfl
      | some length => cases conjunction operands text <;> rfl

/-! ## Conditions as choices -/

theorem conditional_eq_choice (condition consequence alternative : Extent) :
    conditional condition consequence alternative =
      choice [sequence [condition, consequence],
        sequence [negation condition, alternative]] := by
  funext text
  simp only [choice_joins.pair, sequence_pair, conditional, negation]
  cases condition text with
  | none => simp
  | some length => simp

theorem optional_eq_choice (operand : Extent) :
    optional operand = choice [operand, always] := by
  funext text
  simp only [choice_joins.pair, optional, always]
  cases operand text <;> rfl

theorem optional_eq_repeated (operand : Extent) :
    optional operand = repeated 0 (some 1) operand := by
  funext text
  rw [repeated_zero]
  rcases idle_or_moves operand text with idle | ⟨length, moves⟩
  · rw [more_of_idle idle]
    rcases idle with mismatch | empty
    · simp only [optional, mismatch, Option.getD_none]
    · simp only [optional, empty, Option.getD_some]
  · simp only [optional, more, moves, atMost_succ_of_moves moves, atMost,
      Option.getD_some, Nat.add_zero]

/-! ## Distribution -/

/-- What comes before an operation can be moved into the operands if it can be
moved into two of them.  Where there is no operand to move it into, it must not
count. -/
theorem Associates.distribute {operation : List Extent → Extent}
    (associates : Associates operation)
    (pair : ∀ first second,
      sequence [head, operation [first, second]] =
        operation [sequence [head, first], sequence [head, second]])
    (empty : operands = [] → sequence [head, operation []] = operation []) :
    sequence [head, operation operands] =
      operation (operands.map fun operand => sequence [head, operand]) := by
  induction operands with
  | nil => exact empty rfl
  | cons operand operands ih =>
      cases operands with
      | nil =>
          rw [List.map_singleton, associates.single, associates.single]
      | cons second others =>
          have later := ih fun impossible => nomatch impossible
          calc
            sequence [head, operation (operand :: second :: others)]
            _ = sequence [head,
                  operation [operand, operation (second :: others)]] := by
              rw [associates.cons]
            _ = operation [sequence [head, operand],
                  sequence [head, operation (second :: others)]] :=
              pair operand (operation (second :: others))
            _ = operation ((operand :: second :: others).map
                  fun operand => sequence [head, operand]) := by
              rw [later]
              exact (associates.cons _ _).symm

/-- Results may be joined before or after a length is added to both. -/
theorem Joins.distribute {operation : List Extent → Extent}
    {join : Option Nat → Option Nat → Option Nat}
    (joins : Joins operation join) (mismatch : join none none = none)
    (shift : ∀ length first second,
      (join first second).map (length + ·) =
        join (first.map (length + ·)) (second.map (length + ·)))
    (empty : operands = [] → sequence [head, operation []] = operation []) :
    sequence [head, operation operands] =
      operation (operands.map fun operand => sequence [head, operand]) := by
  refine joins.associates.distribute (fun first second => ?_) empty
  funext text
  simp only [sequence_pair, joins.pair]
  cases head text with
  | none => exact mismatch.symm
  | some length => exact shift length _ _

/-- Nothing matches before a mismatch. -/
theorem sequence_pair_never (head : Extent) :
    sequence [head, never] = never := by
  apply sequence_eq_never
  simp

theorem sequence_choice (head : Extent) (operands : List Extent) :
    sequence [head, choice operands] =
      choice (operands.map fun operand => sequence [head, operand]) := by
  refine choice_joins.distribute rfl ?_ fun _ => sequence_pair_never head
  intro length first second
  cases first <;> rfl

theorem sequence_longest (head : Extent) (operands : List Extent) :
    sequence [head, longest operands] =
      longest (operands.map fun operand => sequence [head, operand]) := by
  refine longest_joins.distribute rfl ?_ fun _ => sequence_pair_never head
  intro length first second
  cases first <;> cases second <;> simp [Nat.add_max_add_left]

theorem sequence_shortest (head : Extent) (operands : List Extent) :
    sequence [head, shortest operands] =
      shortest (operands.map fun operand => sequence [head, operand]) := by
  refine shortest_joins.distribute rfl ?_ fun _ => sequence_pair_never head
  intro length first second
  cases first <;> cases second <;> simp [Nat.add_min_add_left]

/-- The conjunction of no operands matches, whatever comes before it. -/
theorem sequence_conjunction (head : Extent) (nonempty : operands ≠ []) :
    sequence [head, conjunction operands] =
      conjunction (operands.map fun operand => sequence [head, operand]) := by
  refine conjunction_joins.distribute rfl ?_
    fun empty => absurd empty nonempty
  intro length first second
  cases first <;> cases second <;> simp [both, Nat.add_max_add_left]

end Extent

end TextPattern
