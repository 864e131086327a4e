import Mathlib.Data.List.Forall2
import TextPattern.Proofs.Extent.Building
import TextPattern.Proofs.FaultFreedom

/-!
# Simplification

`Recipe.plain` carries the calls out without simplifying anything: every call
becomes a node of its own, with all its operands.  Building fails where the
plain construction fails and, where it does not, gives a pattern that matches
as the plain tree does.
-/

namespace TextPattern

namespace Recipe

mutual

/-- The tree of the calls themselves, or the first error. -/
def plain : Recipe → Except BuildError Pattern
  | given pattern => .ok pattern
  | never => .ok .never
  | always => .ok .always
  | char predicate => .ok (.char predicate)
  | take count => .ok (.hasAtLeast count)
  | takeAll count => .ok (.hasExact count)
  | literal rule contents => .ok (.literal contents rule)
  | notLiteral rule contents => .ok (.notLiteral contents rule)
  | regex source => Pattern.ofRegex source
  | compile expression => Dialect.compile expression
  | entry item => .ok item.pattern
  | lineComment opening =>
      .ok (.sequence [.literal opening .sensitive,
        .repeated 0 none (.char (.notAmong ['\r', '\n']))])
  | blockComment opening closing =>
      .ok (.sequence [.literal opening .sensitive,
        .repeated 0 none (.notLiteral closing .sensitive),
        .literal closing .sensitive])
  | sequence operands => do
      return .sequence (← plainList operands)
  | choice operands => do
      return .choice (← plainList operands)
  | conjunction operands => do
      return .conjunction (← plainList operands)
  | longest operands => do
      return .longest (← plainList operands)
  | shortest operands => do
      return .shortest (← plainList operands)
  | orUnlessNever first second => do
      return .choice [← plain first, ← plain second]
  | thenUnlessNever first second => do
      return .sequence [← plain first, ← plain second]
  | negation operand => do
      return .negation (← plain operand)
  | lookahead operand => do
      return .lookahead (← plain operand)
  | conditional condition consequence alternative => do
      return .conditional (← plain condition) (← plain consequence)
        (← plain alternative)
  | optional operand => do
      return .optional (← plain operand)
  | atLeast min operand => do
      return .repeated min none (← plain operand)
  | atMost max operand => do
      return .repeated 0 (some max) (← plain operand)
  | times min max operand => do
      let tree ← plain operand
      if min ≤ max then return .repeated min (some max) tree
      else throw (.boundsReversed min max)
  | exactly count operand => do
      return .exactly count (← plain operand)

/-- The trees of some recipes, or the first error. -/
def plainList : List Recipe → Except BuildError (List Pattern)
  | [] => .ok []
  | recipe :: recipes => do
      return (← plain recipe) :: (← plainList recipes)

end

end Recipe

namespace Pattern

/-- A pattern that was built stands for a tree. -/
structure Simplifies (pattern tree : Pattern) : Prop where
  built : pattern.Built
  ordered : tree.Everywhere BoundsOrdered
  same : pattern.extent = tree.extent

theorem Built.simplifies {pattern : Pattern} (built : pattern.Built) :
    pattern.Simplifies pattern :=
  ⟨built, built.ordered, rfl⟩

namespace Simplifies

/-! ## One node at a time -/

theorem matchIn_eq {pattern tree : Pattern}
    (related : pattern.Simplifies tree) {source : Source} {window : Window}
    (countable : source.Countable) (within : window.Within source) :
    pattern.matchIn source window = tree.matchIn source window := by
  have simplified := related.built.matchIn_eq_extent countable within
  have full : tree.matchIn source window =
      .ok (tree.extent (window.text source)) :=
    related.ordered.adequate countable within
  rw [simplified, full, related.same]

section Several

variable {patterns trees : List Pattern}
  (related : List.Forall₂ Simplifies patterns trees)

include related

theorem all_built : ∀ pattern ∈ patterns, pattern.Built := by
  induction related with
  | nil => simp
  | cons head _ ih =>
      intro pattern member
      rcases List.mem_cons.mp member with here | later
      · rw [here]
        exact head.built
      · exact ih pattern later

theorem all_ordered : ∀ tree ∈ trees, tree.Everywhere BoundsOrdered := by
  induction related with
  | nil => simp
  | cons head _ ih =>
      intro tree member
      rcases List.mem_cons.mp member with here | later
      · rw [here]
        exact head.ordered
      · exact ih tree later

theorem same_extents : patterns.map extent = extentList trees := by
  rw [extentList_eq_map]
  induction related with
  | nil => rfl
  | cons head _ ih => rw [List.map_cons, List.map_cons, head.same, ih]

/-- What builds a node over several operands, with the node itself. -/
theorem several {build node : List Pattern → Pattern}
    {operation : List Extent → Extent}
    (built : (∀ pattern ∈ patterns, pattern.Built) →
      (build patterns).Built)
    (buildExtent : ∀ operands, (build operands).extent =
      operation (operands.map extent))
    (nodeExtent : (node trees).extent = operation (extentList trees))
    (nodeOperands : (node trees).operands = trees)
    (bounds : (node trees).BoundsOrdered) :
    (build patterns).Simplifies (node trees) where
  built := built (all_built related)
  ordered := by
    refine .node bounds ?_
    rw [nodeOperands]
    exact all_ordered related
  same := by rw [buildExtent, nodeExtent, same_extents related]

theorem sequence : (seqOf patterns).Simplifies (.sequence trees) :=
  several related .seqOf extent_seqOf rfl rfl trivial

theorem choice : (anyOf patterns).Simplifies (.choice trees) :=
  several related .anyOf extent_anyOf rfl rfl trivial

theorem conjunction : (allOf patterns).Simplifies (.conjunction trees) :=
  several related .allOf extent_allOf rfl rfl trivial

theorem longest : (longestOf patterns).Simplifies (.longest trees) :=
  several related .longestOf extent_longestOf rfl rfl trivial

theorem shortest : (shortestOf patterns).Simplifies (.shortest trees) :=
  several related .shortestOf extent_shortestOf rfl rfl trivial

end Several

variable {pattern tree other otherTree : Pattern}

theorem pair (first : pattern.Simplifies tree)
    (second : other.Simplifies otherTree) :
    List.Forall₂ Simplifies [pattern, other] [tree, otherTree] :=
  .cons first (.cons second .nil)

theorem orUnlessNever (first : pattern.Simplifies tree)
    (second : other.Simplifies otherTree) :
    (pattern.orUnlessNever other).Simplifies
      (.choice [tree, otherTree]) where
  built := first.built.orUnlessNever second.built
  ordered := .node trivial (all_ordered (pair first second))
  same := by
    rw [extent_orUnlessNever, extent, ← same_extents (pair first second)]
    rfl

theorem thenUnlessNever (first : pattern.Simplifies tree)
    (second : other.Simplifies otherTree) :
    (pattern.thenUnlessNever other).Simplifies
      (.sequence [tree, otherTree]) where
  built := first.built.thenUnlessNever second.built
  ordered := .node trivial (all_ordered (pair first second))
  same := by
    rw [extent_thenUnlessNever, extent, ← same_extents (pair first second)]
    rfl

/-- What builds a node over one operand, with the node itself. -/
theorem single {build node : Pattern → Pattern}
    {operation : Extent → Extent}
    (built : pattern.Built → (build pattern).Built)
    (buildExtent : ∀ operand, (build operand).extent =
      operation operand.extent)
    (nodeExtent : (node tree).extent = operation tree.extent)
    (nodeOperands : (node tree).operands = [tree])
    (bounds : (node tree).BoundsOrdered)
    (related : pattern.Simplifies tree) :
    (build pattern).Simplifies (node tree) where
  built := built related.built
  ordered := by
    refine .node bounds fun operand member => ?_
    rw [nodeOperands, List.mem_singleton] at member
    rw [member]
    exact related.ordered
  same := by rw [buildExtent, nodeExtent, related.same]

theorem negation (related : pattern.Simplifies tree) :
    pattern.negate.Simplifies (.negation tree) :=
  single .negate extent_negate rfl rfl trivial related

theorem lookahead (related : pattern.Simplifies tree) :
    pattern.peek.Simplifies (.lookahead tree) :=
  single .peek extent_peek rfl rfl trivial related

theorem optional (related : pattern.Simplifies tree) :
    pattern.opt.Simplifies (.optional tree) :=
  single .opt extent_opt rfl rfl trivial related

theorem conditional {alternative alternativeTree : Pattern}
    (condition : pattern.Simplifies tree)
    (consequence : other.Simplifies otherTree)
    (otherwise : alternative.Simplifies alternativeTree) :
    (ifElse pattern other alternative).Simplifies
      (.conditional tree otherTree alternativeTree) where
  built := .ifElse condition.built consequence.built otherwise.built
  ordered := .node trivial
    (all_ordered (.cons condition (pair consequence otherwise)))
  same := by
    rw [extent_ifElse, condition.same, consequence.same, otherwise.same,
      extent]

theorem atLeast (min : Nat) (related : pattern.Simplifies tree) :
    (pattern.atLeast min).Simplifies (.repeated min none tree) :=
  @single _ _ (Pattern.atLeast min) (.repeated min none)
    (Extent.repeated min none) (.atLeast min) (extent_atLeast min) rfl rfl
    (fun _ none => nomatch none) related

theorem atMost (max : Nat) (related : pattern.Simplifies tree) :
    (pattern.atMost max).Simplifies (.repeated 0 (some max) tree) :=
  @single _ _ (Pattern.atMost max) (.repeated 0 (some max))
    (Extent.repeated 0 (some max)) (.atMost max) (extent_atMost max) rfl rfl
    (fun _ _ => Nat.zero_le _) related

theorem between {min max : Nat} (ordered : min ≤ max)
    (related : pattern.Simplifies tree) :
    (pattern.between min max ordered).Simplifies
      (.repeated min (some max) tree) := by
  refine @single _ _ (Pattern.between min max ordered)
    (.repeated min (some max)) (Extent.repeated min (some max))
    (.between ordered) (extent_between ordered) rfl rfl ?_ related
  intro bound found
  cases found
  exact ordered

theorem exactly (count : Nat) (related : pattern.Simplifies tree) :
    (pattern.rep count).Simplifies (.exactly count tree) :=
  @single _ _ (Pattern.rep count) (.exactly count) (Extent.exactly · count)
    (.rep count) (extent_rep count) rfl rfl trivial related

/-! ## Leaves -/

theorem char (predicate : Predicate) :
    (ofPredicate predicate).Simplifies (.char predicate) where
  built := .ofPredicate predicate
  ordered := Everywhere.leaf trivial rfl
  same := by rw [extent_ofPredicate, extent]

theorem hasAtLeast (count : Nat) :
    (take count).Simplifies (.hasAtLeast count) where
  built := .take count
  ordered := Everywhere.leaf trivial rfl
  same := by rw [extent_take, extent]

theorem literal (rule : CaseRule) (contents : List Char) :
    (ofText rule contents).Simplifies (.literal contents rule) where
  built := .ofText rule contents
  ordered := Everywhere.leaf trivial rfl
  same := by rw [extent_ofText, extent]

end Simplifies

end Pattern

/-! ## Whole recipes -/

/-- Two computations fail with the same error, or give related results. -/
inductive Transfers {ε α β : Type} (related : α → β → Prop) :
    Except ε α → Except ε β → Prop where
  | ok {left : α} {right : β} :
      related left right → Transfers related (.ok left) (.ok right)
  | error (failure : ε) : Transfers related (.error failure) (.error failure)

namespace Transfers

variable {ε α β γ δ : Type} {related : α → β → Prop} {next : γ → δ → Prop}
  {left : Except ε α} {right : Except ε β}

theorem bind {continueLeft : α → Except ε γ} {continueRight : β → Except ε δ}
    (transfers : Transfers related left right)
    (continues : ∀ {a b}, related a b →
      Transfers next (continueLeft a) (continueRight b)) :
    Transfers next (left >>= continueLeft) (right >>= continueRight) := by
  cases transfers with
  | ok holds => exact continues holds
  | error failure => exact .error failure

theorem map {continueLeft : α → γ} {continueRight : β → δ}
    (transfers : Transfers related left right)
    (continues : ∀ {a b}, related a b →
      next (continueLeft a) (continueRight b)) :
    Transfers next (left >>= fun a => pure (continueLeft a))
      (right >>= fun b => pure (continueRight b)) :=
  transfers.bind fun holds => .ok (continues holds)

end Transfers

namespace Recipe

open Pattern (Simplifies)

/-- What is the same on both sides and was built. -/
theorem transfers_refl {result : Except BuildError Pattern}
    (built : ∀ {pattern}, result = .ok pattern → pattern.Built) :
    Transfers Simplifies result result := by
  cases result with
  | error failure => exact .error failure
  | ok pattern => exact .ok (built rfl).simplifies

theorem ofRegex_built {source : List Char} {pattern : Pattern}
    (built : Pattern.ofRegex source = .ok pattern) : pattern.Built := by
  unfold Pattern.ofRegex at built
  split at built
  · cases built
    exact .regex _ _
  · cases built

theorem times_transfers (min max : Nat) {pattern tree : Pattern}
    (related : pattern.Simplifies tree) :
    Transfers Simplifies (pattern.times min max)
      (if min ≤ max then pure (.repeated min (some max) tree)
      else throw (.boundsReversed min max)) := by
  unfold Pattern.times
  by_cases ordered : min ≤ max
  · rw [dif_pos ordered, if_pos ordered]
    exact .ok (related.between ordered)
  · rw [dif_neg ordered, if_neg ordered]
    exact .error _

mutual

theorem build_transfers (recipe : Recipe)
    (givens : ∀ pattern ∈ recipe.givens, pattern.Built) :
    Transfers Simplifies recipe.build recipe.plain := by
  cases recipe with
  | given pattern =>
      exact .ok (givens pattern (List.mem_singleton.mpr rfl)).simplifies
  | never => exact .ok Pattern.Built.never.simplifies
  | always => exact .ok Pattern.Built.always.simplifies
  | char predicate => exact .ok (.char predicate)
  | take count => exact .ok (.hasAtLeast count)
  | takeAll count => exact .ok (Pattern.Built.takeAll count).simplifies
  | literal rule contents => exact .ok (.literal rule contents)
  | notLiteral rule contents =>
      exact .ok (Pattern.Built.notText rule contents).simplifies
  | regex source => exact transfers_refl ofRegex_built
  | compile expression => exact transfers_refl Dialect.compile_built
  | entry item => exact .ok item.pattern_built.simplifies
  | lineComment opening =>
      exact .ok (.sequence (Simplifies.pair (.literal _ opening)
        (.atLeast 0 (.char _))))
  | blockComment opening closing =>
      have body : ((Pattern.notText .sensitive closing).many).Simplifies
          (.repeated 0 none (.notLiteral closing .sensitive)) :=
        .atLeast 0 (Pattern.Built.notText _ closing).simplifies
      exact .ok (.sequence (.cons (.literal _ opening)
        (body.pair (.literal _ closing))))
  | sequence operands =>
      exact (buildList_transfers operands givens).map .sequence
  | choice operands =>
      exact (buildList_transfers operands givens).map .choice
  | conjunction operands =>
      exact (buildList_transfers operands givens).map .conjunction
  | longest operands =>
      exact (buildList_transfers operands givens).map .longest
  | shortest operands =>
      exact (buildList_transfers operands givens).map .shortest
  | orUnlessNever first second =>
      obtain ⟨left, right⟩ := List.forall_mem_append.mp givens
      exact (build_transfers first left).bind fun head =>
        (build_transfers second right).map head.orUnlessNever
  | thenUnlessNever first second =>
      obtain ⟨left, right⟩ := List.forall_mem_append.mp givens
      exact (build_transfers first left).bind fun head =>
        (build_transfers second right).map head.thenUnlessNever
  | negation operand => exact (build_transfers operand givens).map .negation
  | lookahead operand =>
      exact (build_transfers operand givens).map .lookahead
  | conditional condition consequence alternative =>
      obtain ⟨front, third⟩ := List.forall_mem_append.mp givens
      obtain ⟨first, second⟩ := List.forall_mem_append.mp front
      exact (build_transfers condition first).bind fun test =>
        (build_transfers consequence second).bind fun body =>
          (build_transfers alternative third).map (test.conditional body)
  | optional operand => exact (build_transfers operand givens).map .optional
  | atLeast min operand =>
      exact (build_transfers operand givens).map (.atLeast min)
  | atMost max operand =>
      exact (build_transfers operand givens).map (.atMost max)
  | times min max operand =>
      exact (build_transfers operand givens).bind (times_transfers min max)
  | exactly count operand =>
      exact (build_transfers operand givens).map (.exactly count)

theorem buildList_transfers (recipes : List Recipe)
    (givens : ∀ pattern ∈ givensList recipes, pattern.Built) :
    Transfers (List.Forall₂ Simplifies) (buildList recipes)
      (plainList recipes) := by
  cases recipes with
  | nil => exact .ok .nil
  | cons recipe recipes =>
      obtain ⟨left, right⟩ := List.forall_mem_append.mp givens
      exact (build_transfers recipe left).bind fun head =>
        (buildList_transfers recipes right).map (.cons head)

end

/-- Building simplifies, and what it builds matches as the full tree of the
calls does, in every window of every source. -/
theorem build_matches_as_plain {recipe : Recipe} {pattern : Pattern}
    (givens : ∀ pattern ∈ recipe.givens, pattern.Built)
    (built : recipe.build = .ok pattern) :
    ∃ tree, recipe.plain = .ok tree ∧
      ∀ (source : Source) (window : Window), source.Countable →
        window.Within source →
        pattern.matchIn source window = tree.matchIn source window := by
  have transfers := build_transfers recipe givens
  rw [built] at transfers
  cases plainEq : recipe.plain with
  | error failure =>
      rw [plainEq] at transfers
      cases transfers
  | ok tree =>
      rw [plainEq] at transfers
      cases transfers with
      | ok related =>
          exact ⟨tree, rfl, fun _ _ countable within =>
            related.matchIn_eq countable within⟩

/-- Four calls that collapse one after the other: the alternative into its
second operand, the repetition and the sequence around it into the first. -/
theorem build_matches_as_plain_cascade :
    (sequence [char (.is 'a'), atLeast 2 (choice [char .never, take 0]),
        literal .sensitive []]).build =
      .ok (Pattern.ofChar 'a') ∧
    ∃ tree,
      (sequence [char (.is 'a'), atLeast 2 (choice [char .never, take 0]),
        literal .sensitive []]).plain = .ok tree ∧
      ∀ (source : Source) (window : Window), source.Countable →
        window.Within source →
        (Pattern.ofChar 'a').matchIn source window =
          tree.matchIn source window :=
  ⟨rfl, build_matches_as_plain (by simp [givens, givensList]) rfl⟩

end Recipe

end TextPattern
