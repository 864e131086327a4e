import TextPattern.Proofs.Extent.Repetition

/-!
# One character at a time

A test of one character and a literal that must not start take one character or
none.  A repetition of such an operand goes on up to the first place where the
operand mismatches, so it finds the end of a run and the start of a literal.
-/

namespace TextPattern

namespace Extent

/-- Every match takes one character. -/
def Single (operand : Extent) : Prop :=
  ∀ text, operand text = none ∨ operand text = some 1

theorem char_single (predicate : Predicate) : (char predicate).Single := by
  intro text
  cases text with
  | nil => exact .inl rfl
  | cons c rest =>
      cases passes : predicate.test c with
      | true => exact .inr (if_pos passes)
      | false => exact .inl (if_neg (by simp [passes]))

theorem notLiteral_single (rule : CaseRule) (contents : List Char) :
    (notLiteral rule contents).Single := by
  intro text
  cases text with
  | nil => exact .inl rfl
  | cons c rest =>
      cases starts : startsWith rule contents (c :: rest) with
      | true => exact .inl (if_pos starts)
      | false => exact .inr (if_neg (by simp [starts]))

section

variable {operand : Extent} (single : operand.Single)
  (inside : operand.Inside)

include single inside

/-- The operand matches wherever the repetition goes on. -/
theorem Single.many_passes {text : List Char} {index : Nat}
    (before : index < many operand text) :
    operand (text.drop index) = some 1 := by
  induction text generalizing index with
  | nil => cases before
  | cons c rest ih =>
      rcases single (c :: rest) with mismatch | found
      · rw [many, atMost_of_idle (.inl mismatch)] at before
        cases before
      · rw [many_of_moves inside found] at before
        cases index with
        | zero => exact found
        | succ index =>
            simp only [List.drop_succ_cons, List.drop_zero] at before ⊢
            exact ih (by omega)

theorem Single.many_stops (text : List Char) :
    operand (text.drop (many operand text)) = none := by
  rcases single (text.drop (many operand text)) with mismatch | found
  · exact mismatch
  · rcases Extent.many_stops inside text with mismatch | empty
    · exact mismatch
    · rw [empty] at found
      cases found

end

/-- A repeated test takes the characters that pass it. -/
theorem many_char (predicate : Predicate) (text : List Char) :
    many (char predicate) text = (text.takeWhile predicate.test).length := by
  have inside := char_inside predicate
  induction text with
  | nil => rfl
  | cons c rest ih =>
      cases passes : predicate.test c with
      | true =>
          have found : char predicate (c :: rest) = some 1 := if_pos passes
          rw [many_of_moves inside found, List.takeWhile_cons_of_pos passes,
            List.length_cons, List.drop_succ_cons, List.drop_zero, ih,
            Nat.zero_add, Nat.add_comm]
      | false =>
          have refused : ¬ predicate.test c = true := by simp [passes]
          have mismatch : char predicate (c :: rest) = none :=
            if_neg refused
          rw [many, atMost_of_idle (.inl mismatch),
            List.takeWhile_cons_of_neg refused]
          rfl

/-! ## Literals -/

theorem startsWith_sensitive_iff {contents text : List Char} :
    startsWith .sensitive contents text = true ↔ contents <+: text := by
  induction contents generalizing text with
  | nil => simp [startsWith]
  | cons expected contents ih =>
      cases text with
      | nil => simp [startsWith]
      | cons actual text =>
          rw [startsWith, Bool.and_eq_true, ih, CaseRule.agree, beq_iff_eq,
            List.cons_prefix_cons, @eq_comm _ actual expected]

theorem literal_eq_some_iff {contents text : List Char} {length : Nat} :
    literal .sensitive contents text = some length ↔
      contents <+: text ∧ contents.length = length := by
  rw [literal, Option.ite_none_right_eq_some, Option.some.injEq,
    startsWith_sensitive_iff]

/-- A literal is compared character by character, so it is a sequence of tests
of one character. -/
theorem sequence_map_char {rule : CaseRule} {tests : Char → Predicate}
    (agree : ∀ expected actual,
      (tests expected).test actual = rule.agree actual expected)
    (contents : List Char) :
    sequence (contents.map fun c => char (tests c)) =
      literal rule contents := by
  induction contents with
  | nil => rfl
  | cons expected contents ih =>
      funext text
      cases text with
      | nil => rfl
      | cons actual rest =>
          have first : char (tests expected) (actual :: rest) =
              if rule.agree actual expected then some 1 else none := by
            rw [char, agree]
          rw [List.map_cons, sequence, first, literal, startsWith]
          cases rule.agree actual expected with
          | false => rfl
          | true =>
              simp only [if_true, List.drop_succ_cons, List.drop_zero,
                Bool.true_and, ih, literal, List.length_cons]
              cases startsWith rule contents rest with
              | false => rfl
              | true => simp [Nat.add_comm]

end Extent

end TextPattern
