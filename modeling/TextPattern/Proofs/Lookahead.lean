import TextPattern.Proofs.Extent.Conditions
import TextPattern.Proofs.SeveralOperands

/-!
# Lookahead and conditions as choices

A lookahead is a double negation, and a negation passes through the operations
on several operands.  A condition is a choice between what follows it and what
follows its negation, and an optional pattern is a choice or a repetition.  What
comes before a choice, a selection or a conjunction may be written in front of
each operand.
-/

namespace TextPattern

namespace Pattern

variable {pattern head condition : Pattern} {operands : List Pattern}

/-- An operation on patterns that keeps them built does so on a list. -/
theorem Built.map {change : Pattern → Pattern}
    (keeps : ∀ {operand}, operand.Built → (change operand).Built)
    (built : ∀ operand ∈ operands, operand.Built) :
    ∀ operand ∈ operands.map change, operand.Built := by
  intro operand member
  obtain ⟨original, originalMember, rfl⟩ := List.mem_map.mp member
  exact keeps (built original originalMember)

theorem map_extent_negate (operands : List Pattern) :
    (operands.map negate).map extent =
      (operands.map extent).map Extent.negation := by
  simp only [List.map_map]
  apply List.map_congr_left
  intro operand _
  exact extent_negate operand

theorem extent_pair (first second : Pattern) :
    (seqOf [first, second]).extent =
      Extent.sequence [first.extent, second.extent] :=
  extent_seqOf [first, second]

theorem map_extent_andThen (head : Pattern) (operands : List Pattern) :
    (operands.map fun operand => seqOf [head, operand]).map extent =
      (operands.map extent).map
        fun operand => Extent.sequence [head.extent, operand] := by
  simp only [List.map_map]
  apply List.map_congr_left
  intro operand _
  exact extent_pair head operand

theorem Denotes.distribute {build : List Pattern → Pattern}
    {operation : List Extent → Extent} (denotes : Denotes build operation)
    (headBuilt : head.Built) (built : ∀ operand ∈ operands, operand.Built)
    (distributes :
      Extent.sequence [head.extent,
          operation (operands.map Pattern.extent)] =
        operation ((operands.map Pattern.extent).map
          fun operand => Extent.sequence [head.extent, operand])) :
    (seqOf [head, build operands]).Alike
      (build (operands.map fun operand => seqOf [head, operand])) := by
  have each : ∀ operand ∈ operands.map fun operand => seqOf [head, operand],
      operand.Built :=
    Built.map headBuilt.andThen built
  apply (headBuilt.andThen (denotes.built built)).alike (denotes.built each)
  rw [andThen, extent_pair, denotes.extent, denotes.extent,
    map_extent_andThen, distributes]

/-- Where the condition matches, it does not matter what the alternative would
do there, be it a fault. -/
theorem matchIn_ifElse_of_match {source : Source} {window : Window}
    {length : Nat}
    (found : condition.matchIn source window = .ok (some length))
    (consequence alternative other : Pattern) :
    (ifElse condition consequence alternative).matchIn source window =
      (ifElse condition consequence other).matchIn source window := by
  unfold ifElse
  split
  · simp only [matchIn, matcher, Matcher.guarded, Matcher.never] at found
    split at found <;> cases found
  · rfl
  · rw [matchIn] at found
    simp only [matchIn, matcher, Matcher.guarded, Matcher.conditional,
      found]
    rfl

/-- The negations of a choice, of both selections and of a conjunction. -/
theorem negate_alike (built : ∀ operand ∈ operands, operand.Built) :
    (anyOf operands).negate.Alike (longestOf operands).negate ∧
    (longestOf operands).negate.Alike (shortestOf operands).negate ∧
    (shortestOf operands).negate.Alike (allOf (operands.map negate)) ∧
    (allOf operands).negate.Alike (anyOf (operands.map negate)) := by
  have choice : (anyOf operands).negate.Built := (Built.anyOf built).negate
  have longest : (longestOf operands).negate.Built :=
    (Built.longestOf built).negate
  have shortest : (shortestOf operands).negate.Built :=
    (Built.shortestOf built).negate
  have negated : ∀ operand ∈ operands.map negate, operand.Built :=
    Built.map Built.negate built
  refine ⟨choice.alike longest ?_, longest.alike shortest ?_,
    shortest.alike (.allOf negated) ?_,
    (Built.allOf built).negate.alike (.anyOf negated) ?_⟩
  · rw [extent_negate, extent_negate, extent_anyOf, extent_longestOf,
      Extent.negation_longest]
  · rw [extent_negate, extent_negate, extent_longestOf, extent_shortestOf,
      Extent.negation_longest, Extent.negation_shortest]
  · rw [extent_negate, extent_shortestOf, extent_allOf, map_extent_negate,
      Extent.negation_shortest, Extent.negation_choice]
  · rw [extent_negate, extent_allOf, extent_anyOf, map_extent_negate,
      Extent.negation_conjunction]

theorem ifElse_alike {consequence alternative : Pattern}
    (conditionBuilt : condition.Built) (consequenceBuilt : consequence.Built)
    (alternativeBuilt : alternative.Built) :
    (ifElse condition consequence alternative).Alike
      (anyOf [seqOf [condition, consequence],
        seqOf [condition.negate, alternative]]) := by
  apply (Built.ifElse conditionBuilt consequenceBuilt alternativeBuilt).alike
    ((conditionBuilt.andThen consequenceBuilt).orElse
      (conditionBuilt.negate.andThen alternativeBuilt))
  rw [extent_ifElse, Extent.conditional_eq_choice, orElse, extent_anyOf,
    List.map_cons, List.map_singleton, andThen, andThen, extent_pair,
    extent_pair, extent_negate]

theorem opt_alike (built : pattern.Built) :
    pattern.opt.Alike (anyOf [pattern, always]) ∧
    (anyOf [pattern, always]).Alike (pattern.atMost 1) := by
  have choice : (anyOf [pattern, always]).Built := built.orElse .always
  have same : (anyOf [pattern, always]).extent =
      Extent.optional pattern.extent := by
    rw [extent_anyOf, Extent.optional_eq_choice]
    rfl
  constructor
  · apply built.opt.alike choice
    rw [same, extent_opt]
  · apply choice.alike (built.atMost 1)
    rw [same, extent_atMost, Extent.optional_eq_repeated]

/-- Lookahead is double negation, and negation turns choices and conjunctions
into each other.  A conditional is a choice whose alternative is not tried where
the condition matches, an optional pattern is a choice and a repetition, and
what comes before an operation moves into its operands; before a conjunction
only if it has some. -/
theorem conditions_alike_choices :
    (∀ pattern : Pattern, pattern.Built →
      pattern.peek.Alike pattern.negate.negate) ∧
    (∀ operands : List Pattern, (∀ operand ∈ operands, operand.Built) →
      (anyOf operands).negate.Alike (longestOf operands).negate ∧
      (longestOf operands).negate.Alike (shortestOf operands).negate ∧
      (shortestOf operands).negate.Alike (allOf (operands.map negate)) ∧
      (allOf operands).negate.Alike (anyOf (operands.map negate))) ∧
    (∀ condition consequence alternative : Pattern, condition.Built →
      consequence.Built → alternative.Built →
      (ifElse condition consequence alternative).Alike
        (anyOf [seqOf [condition, consequence],
          seqOf [condition.negate, alternative]])) ∧
    (∀ (condition : Pattern) (source : Source) (window : Window)
      (length : Nat),
      condition.matchIn source window = .ok (some length) →
      ∀ consequence alternative other,
        (ifElse condition consequence alternative).matchIn source window =
          (ifElse condition consequence other).matchIn source window) ∧
    (∀ pattern : Pattern, pattern.Built →
      pattern.opt.Alike (anyOf [pattern, always]) ∧
      (anyOf [pattern, always]).Alike (pattern.atMost 1)) ∧
    (∀ (head : Pattern) (operands : List Pattern), head.Built →
      (∀ operand ∈ operands, operand.Built) →
      (seqOf [head, anyOf operands]).Alike
        (anyOf (operands.map fun operand => seqOf [head, operand])) ∧
      (seqOf [head, longestOf operands]).Alike
        (longestOf (operands.map fun operand => seqOf [head, operand])) ∧
      (seqOf [head, shortestOf operands]).Alike
        (shortestOf (operands.map fun operand => seqOf [head, operand])) ∧
      (operands ≠ [] → (seqOf [head, allOf operands]).Alike
        (allOf (operands.map fun operand => seqOf [head, operand])))) := by
  refine ⟨fun pattern built => ?_, fun operands built => negate_alike built,
    fun condition consequence alternative => ifElse_alike,
    fun condition source window length found =>
      matchIn_ifElse_of_match found,
    fun pattern built => opt_alike built,
    fun head operands headBuilt built => ⟨?_, ?_, ?_, fun nonempty => ?_⟩⟩
  · apply built.peek.alike built.negate.negate
    rw [extent_peek, extent_negate, extent_negate,
      Extent.lookahead_eq_negation]
  · exact anyOf_denotes.distribute headBuilt built
      (Extent.sequence_choice _ _)
  · exact longestOf_denotes.distribute headBuilt built
      (Extent.sequence_longest _ _)
  · exact shortestOf_denotes.distribute headBuilt built
      (Extent.sequence_shortest _ _)
  · exact allOf_denotes.distribute headBuilt built
      (Extent.sequence_conjunction _ (by simpa using nonempty))

/-- A consequence that mismatches after its condition matched: the alternative,
which would match, is not tried. -/
theorem conditions_alike_choices_no_alternative :
    (ofChar 'a').Built ∧ (ofPredicate .digit).Built ∧
      Library.word.Built ∧
      (ifElse (ofChar 'a') (ofPredicate .digit) Library.word).Alike
        (anyOf [seqOf [ofChar 'a', ofPredicate .digit],
          seqOf [(ofChar 'a').negate, Library.word]]) ∧
      (ofChar 'a').matchIn (.buffer #['a', 'b', 'c']) ⟨0, 3⟩ =
        .ok (some 1) ∧
      (ifElse (ofChar 'a') (ofPredicate .digit) Library.word).matchIn
          (.buffer #['a', 'b', 'c']) ⟨0, 3⟩ =
        (ifElse (ofChar 'a') (ofPredicate .digit) never).matchIn
          (.buffer #['a', 'b', 'c']) ⟨0, 3⟩ ∧
      (seqOf [ofChar 'a', allOf [ofPredicate .digit]]).Alike
        (allOf [seqOf [ofChar 'a', ofPredicate .digit]]) := by
  have condition : (ofChar 'a').Built := .ofPredicate _
  have consequence : (ofPredicate .digit).Built := .ofPredicate _
  obtain ⟨-, -, asChoice, notTried, -, distributed⟩ :=
    conditions_alike_choices
  refine ⟨condition, consequence, Library.word_built, ?_, rfl, ?_, ?_⟩
  · exact asChoice _ _ _ condition consequence Library.word_built
  · exact notTried _ _ _ 1 rfl _ _ _
  · refine (distributed _ [ofPredicate .digit] condition ?_).2.2.2
      (List.cons_ne_nil _ _)
    intro operand member
    rw [List.mem_singleton.mp member]
    exact consequence

end Pattern

end TextPattern
