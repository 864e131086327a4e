import TextPattern.Proofs.NormalForm
import TextPattern.Recipe

/-!
# Patterns that can be built

A pattern comes from the functions that build patterns and from nowhere else.
The library and the dialect need no rules of their own, as they call the same
functions.  A regular expression may be any function that finds a match inside
its text, so nothing here depends on how regular expressions work.
-/

namespace TextPattern

namespace Pattern

/-- The pattern is the result of calls of the building functions. -/
inductive Built : Pattern → Prop where
  | never : Built never
  | always : Built always
  | ofPredicate (predicate : Predicate) : Built (ofPredicate predicate)
  | take (count : Nat) : Built (take count)
  | takeAll (count : Nat) : Built (hasExact count)
  | ofText (rule : CaseRule) (text : List Char) : Built (ofText rule text)
  | notText (rule : CaseRule) (text : List Char) : Built (notText rule text)
  | regex (source : List Char) (compiled : Regex) :
      Built (regex source compiled)
  | seqOf {operands : List Pattern} :
      (∀ operand ∈ operands, Built operand) → Built (seqOf operands)
  | anyOf {operands : List Pattern} :
      (∀ operand ∈ operands, Built operand) → Built (anyOf operands)
  | allOf {operands : List Pattern} :
      (∀ operand ∈ operands, Built operand) → Built (allOf operands)
  | longestOf {operands : List Pattern} :
      (∀ operand ∈ operands, Built operand) → Built (longestOf operands)
  | shortestOf {operands : List Pattern} :
      (∀ operand ∈ operands, Built operand) → Built (shortestOf operands)
  | negate {operand : Pattern} : Built operand → Built operand.negate
  | peek {operand : Pattern} : Built operand → Built operand.peek
  | ifElse {condition consequence alternative : Pattern} :
      Built condition → Built consequence → Built alternative →
      Built (ifElse condition consequence alternative)
  | opt {operand : Pattern} : Built operand → Built operand.opt
  | atLeast (min : Nat) {operand : Pattern} :
      Built operand → Built (operand.atLeast min)
  | atMost (max : Nat) {operand : Pattern} :
      Built operand → Built (operand.atMost max)
  | between {min max : Nat} (ordered : min ≤ max) {operand : Pattern} :
      Built operand → Built (operand.between min max ordered)
  | rep (count : Nat) {operand : Pattern} :
      Built operand → Built (operand.rep count)

namespace Built

theorem normal {pattern : Pattern} (built : pattern.Built) :
    pattern.Normal := by
  induction built with
  | never => exact never_normal
  | always => exact always_normal
  | ofPredicate predicate => exact ofPredicate_normal predicate
  | take count => exact take_normal count
  | takeAll count => exact hasExact_normal count
  | ofText rule text => exact ofText_normal rule text
  | notText rule text => exact notText_normal rule text
  | regex source compiled => exact regex_normal source compiled
  | seqOf _ ih => exact seqOf_normal ih
  | anyOf _ ih => exact anyOf_normal ih
  | allOf _ ih => exact allOf_normal ih
  | longestOf _ ih => exact longestOf_normal ih
  | shortestOf _ ih => exact shortestOf_normal ih
  | negate _ ih => exact negate_normal ih
  | peek _ ih => exact peek_normal ih
  | ifElse _ _ _ condition consequence alternative =>
      exact ifElse_normal condition consequence alternative
  | opt _ ih => exact opt_normal ih
  | atLeast min _ ih => exact atLeast_normal min ih
  | atMost max _ ih => exact atMost_normal max ih
  | between ordered _ ih => exact between_normal ordered ih
  | rep count _ ih => exact rep_normal count ih

theorem many {operand : Pattern} (built : operand.Built) :
    operand.many.Built :=
  built.atLeast 0

theorem many1 {operand : Pattern} (built : operand.Built) :
    operand.many1.Built :=
  built.atLeast 1

theorem andThen {first second : Pattern} (firstBuilt : first.Built)
    (secondBuilt : second.Built) : (first.andThen second).Built :=
  .seqOf (by simp [firstBuilt, secondBuilt])

theorem orElse {first second : Pattern} (firstBuilt : first.Built)
    (secondBuilt : second.Built) : (first.orElse second).Built :=
  .anyOf (by simp [firstBuilt, secondBuilt])

theorem orUnlessNever {first second : Pattern} (firstBuilt : first.Built)
    (secondBuilt : second.Built) : (first.orUnlessNever second).Built := by
  unfold Pattern.orUnlessNever
  split
  · exact secondBuilt
  · split
    · exact firstBuilt
    · exact firstBuilt.orElse secondBuilt

theorem thenUnlessNever {first second : Pattern} (firstBuilt : first.Built)
    (secondBuilt : second.Built) : (first.thenUnlessNever second).Built := by
  unfold Pattern.thenUnlessNever
  split
  · exact .never
  · exact firstBuilt.andThen secondBuilt

end Built

end Pattern

/-! ## The library -/

namespace Library

open Pattern (Built)

theorem integer_built : integer.Built :=
  (Built.ofPredicate .digit).many1

theorem fraction_built : fraction.Built :=
  (Built.ofPredicate _).andThen integer_built

theorem strictDecimal_built : strictDecimal.Built :=
  integer_built.andThen
    ((Built.ofPredicate _).andThen (Built.ofPredicate _).many).opt

theorem decimal_built : decimal.Built :=
  strictDecimal_built.orElse fraction_built

theorem escapedChar_built : escapedChar.Built :=
  (Built.ofPredicate _).andThen (.take 1)

/-- A delimiter, a repeated body and a delimiter. -/
theorem delimited_built {opening body closing : Pattern}
    (openingBuilt : opening.Built) (bodyBuilt : body.Built)
    (closingBuilt : closing.Built) :
    (Pattern.seqOf [opening, body.many, closing]).Built :=
  .seqOf (by simp [openingBuilt, bodyBuilt.many, closingBuilt])

theorem lineComment_built (opening : List Char) :
    (lineComment opening).Built :=
  (Built.ofText _ opening).andThen (Built.ofPredicate _).many

theorem blockComment_built (opening closing : List Char) :
    (blockComment opening closing).Built :=
  delimited_built (.ofText _ opening) (.notText _ closing)
    (.ofText _ closing)

theorem word_built : word.Built :=
  (Built.ofPredicate _).andThen (Built.ofPredicate _).many

theorem octInteger_built : octInteger.Built :=
  (Built.ofPredicate _).andThen (Built.ofPredicate _).many

theorem decInteger_built : decInteger.Built :=
  (Built.ofPredicate _).andThen (Built.ofPredicate _).many

theorem hexInteger_built : hexInteger.Built :=
  ((Built.ofText _ _).orElse (Built.ofText _ _)).andThen
    (Built.ofPredicate _).many1

theorem scientificNotation_built : scientificNotation.Built := by
  refine .seqOf fun operand member => ?_
  simp only [List.mem_cons, List.not_mem_nil, or_false] at member
  rcases member with rfl | rfl | rfl | rfl
  · exact decimal_built
  · exact .ofPredicate _
  · exact (Built.ofPredicate _).opt
  · exact integer_built

theorem doubleQuotedString_built : doubleQuotedString.Built :=
  delimited_built (.ofPredicate _)
    (escapedChar_built.orElse (.ofPredicate _)) (.ofPredicate _)

theorem singleQuotedString_built : singleQuotedString.Built :=
  delimited_built (.ofPredicate _)
    ((Built.ofText _ _).orElse (.ofPredicate _)) (.ofPredicate _)

theorem regexpLiteral_built : regexpLiteral.Built :=
  delimited_built (.ofPredicate _)
    (escapedChar_built.orElse (.ofPredicate _)) (.ofPredicate _)

theorem regexpModifiers_built : regexpModifiers.Built :=
  (Built.ofPredicate _).many

theorem Entry.pattern_built (entry : Entry) : entry.pattern.Built := by
  cases entry with
  | decInteger => exact decInteger_built
  | decimal => exact decimal_built
  | doubleQuotedString => exact doubleQuotedString_built
  | escapedChar => exact escapedChar_built
  | fraction => exact fraction_built
  | hexInteger => exact hexInteger_built
  | integer => exact integer_built
  | octInteger => exact octInteger_built
  | regexpLiteral => exact regexpLiteral_built
  | regexpModifiers => exact regexpModifiers_built
  | scientificNotation => exact scientificNotation_built
  | singleQuotedString => exact singleQuotedString_built
  | strictDecimal => exact strictDecimal_built
  | word => exact word_built

end Library

/-! ## The dialect -/

namespace Dialect

open Pattern (Built)

theorem Quantifier.apply_built (quantifier : Quantifier) {operand : Pattern}
    (built : operand.Built) : (quantifier.apply operand).Built := by
  cases quantifier with
  | any => exact built.many
  | some => exact built.many1
  | optional => exact built.opt
  | exactly count => exact built.rep count.value
  | atLeast min => exact built.atLeast min.value
  | atMost max => exact built.atMost max.value
  | between min max ordered => exact built.between ordered
  | unbounded => exact built.many

theorem Expr.toPatterns_eq_map (exprs : List Expr) :
    Expr.toPatterns exprs = exprs.map Expr.toPattern := by
  induction exprs with
  | nil => rfl
  | cons expr exprs ih => rw [Expr.toPatterns, ih, List.map_cons]

mutual

theorem Expr.toPattern_built (expr : Expr) : expr.toPattern.Built := by
  cases expr with
  | anyChar => exact .ofPredicate _
  | windowEnd => exact .takeAll 0
  | char c => exact .ofPredicate _
  | escape c => exact .ofPredicate _
  | charClass members => exact .ofPredicate _
  | group operand => exact Expr.toPattern_built operand
  | quantified operand quantifier =>
      exact quantifier.apply_built (Expr.toPattern_built operand)
  | sequence items => exact .seqOf (Expr.toPatterns_built items)
  | alternatives branches => exact .anyOf (Expr.toPatterns_built branches)

theorem Expr.toPatterns_built (exprs : List Expr) :
    ∀ pattern ∈ Expr.toPatterns exprs, pattern.Built := by
  intro pattern member
  cases exprs with
  | nil => cases member
  | cons expr exprs =>
      rcases List.mem_cons.mp member with head | tail
      · rw [head]
        exact Expr.toPattern_built expr
      · exact Expr.toPatterns_built exprs pattern tail

end

theorem compile_built {expression : List Char} {pattern : Pattern}
    (compiled : compile expression = .ok pattern) : pattern.Built := by
  unfold compile at compiled
  split at compiled
  · next expr _ =>
    cases compiled
    exact expr.toPattern_built
  · cases compiled

end Dialect

/-! ## Recipes -/

namespace Recipe

mutual

/-- The patterns that a recipe takes as they are. -/
def givens : Recipe → List Pattern
  | given pattern => [pattern]
  | never | always | char _ | take _ | takeAll _ | literal _ _
  | notLiteral _ _ | regex _ | compile _ | entry _ | lineComment _
  | blockComment _ _ => []
  | sequence operands | choice operands | conjunction operands
  | longest operands | shortest operands => givensList operands
  | orUnlessNever first second | thenUnlessNever first second =>
      givens first ++ givens second
  | conditional condition consequence alternative =>
      givens condition ++ givens consequence ++ givens alternative
  | negation operand | lookahead operand | optional operand
  | atLeast _ operand | atMost _ operand | times _ _ operand
  | exactly _ operand => givens operand

/-- The patterns that some recipes take as they are. -/
def givensList : List Recipe → List Pattern
  | [] => []
  | recipe :: recipes => givens recipe ++ givensList recipes

end

end Recipe

end TextPattern
