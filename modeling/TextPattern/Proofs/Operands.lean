import TextPattern.Pattern.Basic

/-!
# Operands of patterns

The operands of a node are the patterns directly below it.  What holds of a
pattern whenever it holds of its operands holds of all patterns, and a property
holds everywhere in a tree when it holds of the root and everywhere below.
-/

namespace TextPattern

namespace Pattern

/-- The patterns directly below the root. -/
def operands : Pattern → List Pattern
  | sequence operands => operands
  | choice operands => operands
  | conjunction operands => operands
  | longest operands => operands
  | shortest operands => operands
  | negation operand => [operand]
  | lookahead operand => [operand]
  | conditional condition consequence alternative =>
      [condition, consequence, alternative]
  | optional operand => [operand]
  | exactly _ operand => [operand]
  | repeated _ _ operand => [operand]
  | _ => []

mutual

/-- Induction from the operands to the pattern. -/
theorem operandsInduction {motive : Pattern → Prop}
    (step : ∀ pattern, (∀ operand ∈ pattern.operands, motive operand) →
      motive pattern) (pattern : Pattern) : motive pattern := by
  apply step
  intro operand member
  cases pattern with
  | sequence several | choice several | conjunction several
  | longest several | shortest several =>
      exact operandsInduction_list step several operand member
  | conditional condition consequence alternative =>
      simp only [operands, List.mem_cons, List.not_mem_nil, or_false]
        at member
      rcases member with first | second | third
      · rw [first]
        exact operandsInduction step condition
      · rw [second]
        exact operandsInduction step consequence
      · rw [third]
        exact operandsInduction step alternative
  | negation inner | lookahead inner | optional inner | exactly _ inner
  | repeated _ _ inner =>
      rw [List.mem_singleton.mp member]
      exact operandsInduction step inner
  | _ => cases member

theorem operandsInduction_list {motive : Pattern → Prop}
    (step : ∀ pattern, (∀ operand ∈ pattern.operands, motive operand) →
      motive pattern) (patterns : List Pattern) :
    ∀ pattern ∈ patterns, motive pattern := by
  intro pattern member
  cases patterns with
  | nil => cases member
  | cons head tail =>
      rcases List.mem_cons.mp member with here | later
      · rw [here]
        exact operandsInduction step head
      · exact operandsInduction_list step tail pattern later

end

/-- The property holds of every node of the tree. -/
inductive Everywhere (property : Pattern → Prop) : Pattern → Prop where
  | node {pattern : Pattern} :
      property pattern →
      (∀ operand ∈ pattern.operands, Everywhere property operand) →
      Everywhere property pattern

theorem Everywhere.mono {weak strong : Pattern → Prop} {pattern : Pattern}
    (implies : ∀ node, strong node → weak node)
    (everywhere : pattern.Everywhere strong) : pattern.Everywhere weak := by
  induction everywhere with
  | node holds _ ih => exact .node (implies _ holds) ih

theorem Everywhere.leaf {property : Pattern → Prop} {pattern : Pattern}
    (holds : property pattern) (leaf : pattern.operands = []) :
    pattern.Everywhere property := by
  refine .node holds fun operand member => ?_
  rw [leaf] at member
  cases member

theorem Everywhere.unary {property : Pattern → Prop}
    {pattern operand : Pattern} (below : operand.Everywhere property)
    (holds : property pattern) (unary : pattern.operands = [operand]) :
    pattern.Everywhere property := by
  refine .node holds fun other member => ?_
  rw [unary, List.mem_singleton] at member
  rw [member]
  exact below

end Pattern

end TextPattern
