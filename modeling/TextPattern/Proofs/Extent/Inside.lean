import TextPattern.Proofs.Extent.Basic
import TextPattern.Proofs.Operands

/-!
# Extents stay inside their text

No operation consumes more than there is, if its operands do not.
-/

namespace TextPattern

namespace Extent

/-- No match is longer than the text. -/
def Inside (extent : Extent) : Prop :=
  ∀ ⦃text : List Char⦄ ⦃length : Nat⦄,
    extent text = some length → length ≤ text.length

theorem char_inside (predicate : Predicate) : (char predicate).Inside := by
  intro text length found
  cases text with
  | nil => simp [char] at found
  | cons c text =>
      simp only [char, Option.ite_none_right_eq_some, Option.some.injEq]
        at found
      simp [← found.2]

theorem hasAtLeast_inside (count : Nat) : (hasAtLeast count).Inside := by
  intro text length found
  simp only [hasAtLeast, Option.ite_none_right_eq_some, Option.some.injEq]
    at found
  omega

theorem hasExact_inside (count : Nat) : (hasExact count).Inside := by
  intro text length found
  simp only [hasExact, Option.ite_none_right_eq_some, Option.some.injEq]
    at found
  omega

theorem startsWith_length {rule : CaseRule} {contents text : List Char}
    (starts : startsWith rule contents text = true) :
    contents.length ≤ text.length := by
  induction contents generalizing text with
  | nil => simp
  | cons expected contents ih =>
      cases text with
      | nil => simp [startsWith] at starts
      | cons actual text =>
          simp only [startsWith, Bool.and_eq_true] at starts
          have bound := ih starts.2
          simpa using bound

theorem literal_inside (rule : CaseRule) (contents : List Char) :
    (literal rule contents).Inside := by
  intro text length found
  simp only [literal, Option.ite_none_right_eq_some, Option.some.injEq]
    at found
  rw [← found.2]
  exact startsWith_length found.1

theorem notLiteral_inside (rule : CaseRule) (contents : List Char) :
    (notLiteral rule contents).Inside := by
  intro text length found
  cases text with
  | nil => simp [notLiteral] at found
  | cons c text =>
      simp only [notLiteral, Option.ite_none_left_eq_some, Option.some.injEq]
        at found
      simp [← found.2]

theorem sequence_inside {operands : List Extent}
    (inside : ∀ operand ∈ operands, operand.Inside) :
    (sequence operands).Inside := by
  induction operands with
  | nil =>
      intro text length found
      simp only [sequence, Option.some.injEq] at found
      omega
  | cons operand operands ih =>
      intro text length found
      simp only [sequence] at found
      split at found
      next => cases found
      next head headFound =>
        obtain ⟨tail, tailFound, rfl⟩ := Option.map_eq_some_iff.mp found
        have headBound := inside operand List.mem_cons_self headFound
        have tailBound := ih (fun other member =>
          inside other (List.mem_cons_of_mem _ member)) tailFound
        rw [List.length_drop] at tailBound
        omega

theorem choice_inside {operands : List Extent}
    (inside : ∀ operand ∈ operands, operand.Inside) :
    (choice operands).Inside := by
  intro text length found
  obtain ⟨operand, member, operandFound⟩ :=
    List.exists_of_findSome?_eq_some found
  exact inside operand member operandFound

theorem conjunction_inside {operands : List Extent}
    (inside : ∀ operand ∈ operands, operand.Inside) :
    (conjunction operands).Inside := by
  induction operands with
  | nil =>
      intro text length found
      simp only [conjunction, Option.some.injEq] at found
      omega
  | cons operand operands ih =>
      intro text length found
      simp only [conjunction] at found
      split at found
      next head longest headFound longestFound =>
        have headBound := inside operand List.mem_cons_self headFound
        have longestBound := ih (fun other member =>
          inside other (List.mem_cons_of_mem _ member)) longestFound
        simp only [Option.some.injEq] at found
        omega
      next => cases found

theorem lengths_le {operands : List Extent} {text : List Char} {length : Nat}
    (inside : ∀ operand ∈ operands, operand.Inside)
    (member : length ∈ lengths operands text) : length ≤ text.length := by
  obtain ⟨operand, operandMember, found⟩ := List.mem_filterMap.mp member
  exact inside operand operandMember found

theorem longest_inside {operands : List Extent}
    (inside : ∀ operand ∈ operands, operand.Inside) :
    (longest operands).Inside := by
  intro text length found
  exact lengths_le inside (List.max?_mem found)

theorem shortest_inside {operands : List Extent}
    (inside : ∀ operand ∈ operands, operand.Inside) :
    (shortest operands).Inside := by
  intro text length found
  exact lengths_le inside (List.min?_mem found)

theorem negation_inside (operand : Extent) : (negation operand).Inside := by
  intro text length found
  simp only [negation] at found
  split at found
  next => cases found
  next =>
    simp only [Option.some.injEq] at found
    omega

theorem lookahead_inside (operand : Extent) : (lookahead operand).Inside := by
  intro text length found
  obtain ⟨_, _, rfl⟩ := Option.map_eq_some_iff.mp found
  exact Nat.zero_le _

theorem conditional_inside {condition consequence alternative : Extent}
    (conditionInside : condition.Inside)
    (consequenceInside : consequence.Inside)
    (alternativeInside : alternative.Inside) :
    (conditional condition consequence alternative).Inside := by
  intro text length found
  simp only [conditional] at found
  split at found
  next => exact alternativeInside found
  next head headFound =>
    obtain ⟨tail, tailFound, rfl⟩ := Option.map_eq_some_iff.mp found
    have headBound := conditionInside headFound
    have tailBound := consequenceInside tailFound
    rw [List.length_drop] at tailBound
    omega

theorem optional_inside {operand : Extent} (inside : operand.Inside) :
    (optional operand).Inside := by
  intro text length found
  simp only [optional, Option.some.injEq] at found
  cases result : operand text with
  | none =>
      simp only [result, Option.getD_none] at found
      omega
  | some head =>
      simp only [result, Option.getD_some] at found
      rw [← found]
      exact inside result

theorem exactly_inside {operand : Extent} (inside : operand.Inside)
    (count : Nat) : (exactly operand count).Inside := by
  induction count with
  | zero =>
      intro text length found
      simp only [exactly, Option.some.injEq] at found
      omega
  | succ count ih =>
      intro text length found
      simp only [exactly] at found
      split at found
      next => cases found
      next =>
        simp only [Option.some.injEq] at found
        omega
      next head headFound =>
        obtain ⟨tail, tailFound, rfl⟩ := Option.map_eq_some_iff.mp found
        have headBound := inside headFound
        have tailBound := ih tailFound
        rw [List.length_drop] at tailBound
        omega

theorem atMost_le {operand : Extent} (inside : operand.Inside) (count : Nat)
    (text : List Char) : atMost operand count text ≤ text.length := by
  induction count generalizing text with
  | zero => simp [atMost]
  | succ count ih =>
      simp only [atMost]
      split
      next => exact Nat.zero_le _
      next => exact Nat.zero_le _
      next head headFound =>
        have headBound := inside headFound
        have tailBound := ih (text.drop (head + 1))
        rw [List.length_drop] at tailBound
        omega

theorem more_le {operand : Extent} (inside : operand.Inside) (min : Nat)
    (max : Option Nat) (text : List Char) :
    more min max operand text ≤ text.length := by
  cases max with
  | none => exact atMost_le inside _ text
  | some max => exact atMost_le inside _ text

theorem repeated_inside {operand : Extent} (inside : operand.Inside)
    (min : Nat) (max : Option Nat) : (repeated min max operand).Inside := by
  intro text length found
  simp only [repeated] at found
  split at found
  next => cases found
  next head headFound =>
    have headBound := exactly_inside inside min headFound
    have moreBound := more_le inside min max (text.drop head)
    rw [List.length_drop] at moreBound
    simp only [Option.some.injEq] at found
    omega

end Extent

namespace Pattern

/-- A pattern consumes no more than there is. -/
theorem extent_inside (pattern : Pattern) : pattern.extent.Inside := by
  induction pattern using operandsInduction with
  | step pattern ih =>
  have several : ∀ extent ∈ pattern.operands.map Pattern.extent,
      extent.Inside := by
    intro extent member
    obtain ⟨operand, operandMember, rfl⟩ := List.mem_map.mp member
    exact ih operand operandMember
  cases pattern with
  | never =>
      intro text length found
      cases found
  | always =>
      intro text length found
      cases found
      exact Nat.zero_le _
  | char predicate => exact Extent.char_inside predicate
  | hasAtLeast count => exact Extent.hasAtLeast_inside count
  | hasExact count => exact Extent.hasExact_inside count
  | literal text rule => exact Extent.literal_inside rule text
  | notLiteral text rule => exact Extent.notLiteral_inside rule text
  | regex source compiled =>
      intro text length found
      exact compiled.inside found
  | sequence operands =>
      rw [extent, extentList_eq_map]
      exact Extent.sequence_inside several
  | choice operands =>
      rw [extent, extentList_eq_map]
      exact Extent.choice_inside several
  | conjunction operands =>
      rw [extent, extentList_eq_map]
      exact Extent.conjunction_inside several
  | longest operands =>
      rw [extent, extentList_eq_map]
      exact Extent.longest_inside several
  | shortest operands =>
      rw [extent, extentList_eq_map]
      exact Extent.shortest_inside several
  | negation operand => exact Extent.negation_inside operand.extent
  | lookahead operand => exact Extent.lookahead_inside operand.extent
  | conditional condition consequence alternative =>
      exact Extent.conditional_inside
        (ih condition (by simp [operands]))
        (ih consequence (by simp [operands]))
        (ih alternative (by simp [operands]))
  | optional operand =>
      exact Extent.optional_inside (ih operand (by simp [operands]))
  | exactly count operand =>
      exact Extent.exactly_inside (ih operand (by simp [operands])) count
  | repeated min max operand =>
      exact Extent.repeated_inside (ih operand (by simp [operands])) min max

end Pattern

end TextPattern
