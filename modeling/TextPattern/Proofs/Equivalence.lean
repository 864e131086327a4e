import TextPattern.Proofs.Extent.Repetition
import TextPattern.Proofs.FaultFreedom

/-!
# Patterns that match alike

Two patterns match alike if no window tells them apart.  Patterns of the same
extent do.  So the loops of the quantifiers, which end at the first empty
match, match like iterations that are written out and know of no such stop.
-/

namespace TextPattern

namespace Pattern

/-- Both patterns give a result in every window, and it is the same. -/
def Alike (left right : Pattern) : Prop :=
  ∀ ⦃source : Source⦄ ⦃window : Window⦄, source.Countable →
    window.Within source →
    ∃ result, left.matchIn source window = .ok result ∧
      right.matchIn source window = .ok result

theorem Built.alike {left right : Pattern} (leftBuilt : left.Built)
    (rightBuilt : right.Built) (same : left.extent = right.extent) :
    left.Alike right := by
  intro source window countable within
  have run := rightBuilt.matchIn_eq_extent countable within
  rw [← same] at run
  exact ⟨_, leftBuilt.matchIn_eq_extent countable within, run⟩

section

variable {pattern : Pattern}

/-! ## Iterations written out -/

theorem Built.copies (built : pattern.Built) (count : Nat) :
    (Pattern.seqOf (List.replicate count pattern)).Built := by
  refine .seqOf fun operand member => ?_
  rw [List.eq_of_mem_replicate member]
  exact built

theorem Built.copiesThen (built : pattern.Built) {others : Pattern}
    (othersBuilt : others.Built) (count : Nat) :
    (Pattern.seqOf (List.replicate count pattern ++ [others])).Built := by
  refine .seqOf fun operand member => ?_
  rcases List.mem_append.mp member with copy | last
  · rw [List.eq_of_mem_replicate copy]
    exact built
  · rw [List.mem_singleton.mp last]
    exact othersBuilt

theorem extent_copies (count : Nat) :
    (seqOf (List.replicate count pattern)).extent =
      Extent.exactly pattern.extent count := by
  rw [extent_seqOf, List.map_replicate, Extent.exactly_eq_sequence]

/-- The copies are the mandatory iterations if the others are those that may
follow them. -/
theorem extent_copiesThen {others : Pattern} (least : Nat)
    (most : Option Nat) (loop : others.extent =
      Extent.repeated 0 (most.map (· - least)) pattern.extent) :
    (seqOf (List.replicate least pattern ++ [others])).extent =
      Extent.repeated least most pattern.extent := by
  rw [extent_seqOf, List.map_append, List.map_replicate, List.map_singleton,
    loop]
  exact (Extent.repeated_eq_sequence pattern.extent).symm

theorem extent_opt_andThen (others : Pattern) :
    (pattern.andThen others).opt.extent =
      Extent.optional (Extent.sequence [pattern.extent, others.extent]) := by
  rw [extent_opt, andThen, extent_seqOf]
  rfl

/-- The stop at an empty match changes no result: every quantifier matches like
its iterations written out, the mandatory ones one by one and of the others the
first one, if there is one, before the rest. -/
theorem quantifiers_alike_unrolled (built : pattern.Built) :
    (∀ count, (pattern.rep count).Alike
      (seqOf (List.replicate count pattern))) ∧
    (∀ least, (pattern.atLeast least).Alike
      (seqOf (List.replicate least pattern ++ [pattern.many]))) ∧
    (∀ least most, least ≤ most →
      ∃ repeated, pattern.times least most = .ok repeated ∧
        repeated.Alike (seqOf (List.replicate least pattern ++
          [pattern.atMost (most - least)]))) ∧
    (∀ most, (pattern.atMost (most + 1)).Alike
      (seqOf [pattern, pattern.atMost most]).opt) ∧
    pattern.many.Alike (seqOf [pattern, pattern.many]).opt := by
  refine ⟨fun count => ?_, fun least => ?_, fun least most ordered => ?_,
    fun most => ?_, ?_⟩
  · apply (built.rep count).alike (built.copies count)
    rw [extent_rep, extent_copies]
  · apply (built.atLeast least).alike (built.copiesThen built.many least)
    rw [extent_atLeast]
    exact (extent_copiesThen least none (extent_atLeast 0 pattern)).symm
  · refine ⟨pattern.between least most ordered, dif_pos ordered, ?_⟩
    apply (built.between ordered).alike
      (built.copiesThen (built.atMost (most - least)) least)
    rw [extent_between]
    exact (extent_copiesThen least (some most)
      (extent_atMost (most - least) pattern)).symm
  · apply (built.atMost (most + 1)).alike
      (built.andThen (built.atMost most)).opt
    rw [extent_opt_andThen, extent_atMost, extent_atMost,
      Extent.repeated_succ_eq_optional]
  · apply built.many.alike (built.andThen built.many).opt
    rw [extent_opt_andThen, many, extent_atLeast,
      ← Extent.repeated_none_eq_optional pattern.extent_inside]

/-- The greatest count there is, over an operand that matches nothing after
some iterations. -/
theorem quantifiers_alike_unrolled_greatest_count :
    (ofChar 'a').opt.Built ∧
      ((ofChar 'a').opt.rep 18446744073709551615).Alike
        (seqOf (List.replicate 18446744073709551615 (ofChar 'a').opt)) :=
  have built : (ofChar 'a').opt.Built := (Built.ofPredicate _).opt
  ⟨built, (quantifiers_alike_unrolled built).1 18446744073709551615⟩

end

end Pattern

end TextPattern
