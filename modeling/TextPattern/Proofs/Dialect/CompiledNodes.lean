import TextPattern.Proofs.Dialect.Acceptance
import TextPattern.Proofs.Simplification

/-!
# The nodes of compiled patterns

Expressions have no way to write most of the operations on patterns, so only
some kinds of nodes occur in compiled patterns.  The pattern that never
matches is none of them: a class has at least one member, and no members and
no negation of them leave the constant predicate that fails.
-/

namespace TextPattern

namespace Pattern

/-- A node that a part of an expression may stand for. -/
def DialectNode : Pattern → Prop
  | always => True
  | char _ => True
  | hasExact count => count = 0
  | sequence _ => True
  | choice _ => True
  | optional _ => True
  | exactly _ _ => True
  | repeated _ _ _ => True
  | _ => False

/-- All nodes are nodes that expressions stand for. -/
def OfDialect (pattern : Pattern) : Prop :=
  pattern.Everywhere DialectNode

namespace OfDialect

theorem ne_never {pattern : Pattern} (dialect : pattern.OfDialect) :
    pattern ≠ never := by
  intro same
  rw [same] at dialect
  cases dialect with
  | node impossible _ => exact impossible

theorem always : always.OfDialect :=
  .leaf trivial rfl

theorem ofPredicate {predicate : Predicate}
    (different : predicate ≠ .never) : (ofPredicate predicate).OfDialect := by
  unfold Pattern.ofPredicate
  split
  · exact absurd rfl different
  · exact .leaf trivial rfl

theorem windowEnd : windowEnd.OfDialect :=
  .leaf rfl rfl

variable {operands : List Pattern}

theorem seqOf (dialect : ∀ operand ∈ operands, operand.OfDialect) :
    (seqOf operands).OfDialect := by
  have noNever : ¬ operands.any isNever = true := by
    intro some
    obtain ⟨operand, member, never⟩ := List.any_eq_true.mp some
    exact (dialect operand member).ne_never (isNever_iff.mp never)
  have kept : ∀ operand ∈ dropAlways operands, operand.OfDialect :=
    fun operand member => dialect operand (mem_dropAlways.mp member).1
  rw [Pattern.seqOf, if_neg noNever]
  apply gather_holds (fun _ => always) kept
  intro _
  exact .node trivial kept

/-- A choice without alternatives would never match. -/
theorem anyOf (nonempty : operands ≠ [])
    (dialect : ∀ operand ∈ operands, operand.OfDialect) :
    (anyOf operands).OfDialect := by
  have kept : ∀ operand ∈ dropNever operands, operand.OfDialect :=
    fun operand member => dialect operand (mem_dropNever.mp member).1
  apply gather_holds _ kept
  · intro _
    exact .node trivial kept
  · intro dropped
    obtain ⟨operand, member⟩ := List.exists_mem_of_ne_nil operands nonempty
    have remains : operand ∈ dropNever operands :=
      mem_dropNever.mpr ⟨member, (dialect operand member).ne_never⟩
    rw [dropped] at remains
    cases remains

theorem opt {operand : Pattern} (dialect : operand.OfDialect) :
    operand.opt.OfDialect := by
  unfold Pattern.opt
  split
  · exact always
  · exact always
  · exact .unary dialect trivial rfl

/-- Repetitions of what is not the constant that never matches. -/
theorem collapse {min : Nat} {operand loop : Pattern}
    (dialect : operand.OfDialect) (node : loop.DialectNode)
    (unary : loop.operands = [operand]) :
    ((collapse? min operand).getD loop).OfDialect := by
  apply collapse_holds always
  · intro never
    exact absurd never dialect.ne_never
  · intro _
    exact .unary dialect node unary

end OfDialect

end Pattern

namespace Dialect

open Pattern (OfDialect)

/-! ## Predicates -/

theorem Shorthand.predicate_ne_never (members : Shorthand) :
    members.predicate ≠ .never := by
  cases members <;> simp [predicate, Predicate.negate]

theorem Escape.predicate_ne_never (escape : Escape) :
    escape.predicate ≠ .never := by
  cases escape with
  | shorthand members => exact members.predicate_ne_never
  | char c => exact Predicate.noConfusion

theorem Member.predicate_ne_never (member : Member) :
    member.predicate ≠ .never := by
  cases member with
  | single c => exact Predicate.noConfusion
  | range lo hi => exact Predicate.noConfusion
  | shorthand members => exact members.predicate_ne_never

/-- A negation fails everywhere only of a constant and of its negation, and no
member is written as one of them. -/
theorem Member.negate_predicate_ne_never (member : Member) :
    member.predicate.negate ≠ .never := by
  cases member with
  | single c => exact Predicate.noConfusion
  | range lo hi => exact Predicate.noConfusion
  | shorthand members =>
      cases members <;>
        simp [predicate, Shorthand.predicate, Predicate.negate]

theorem CharClass.predicate_ne_never {members : CharClass}
    (nonempty : members.members ≠ []) : members.predicate ≠ .never := by
  obtain ⟨negated, several⟩ := members
  match several with
  | [] => exact absurd rfl nonempty
  | [member] =>
      cases negated with
      | false => exact member.predicate_ne_never
      | true => exact member.negate_predicate_ne_never
  | first :: second :: others =>
      cases negated with
      | false => exact Predicate.noConfusion
      | true => exact Predicate.noConfusion

theorem ClassText.members_ne_nil {members : CharClass} {text : List Char}
    (written : ClassText members text) : members.members ≠ [] := by
  cases written with
  | plain first notNegated later => exact List.cons_ne_nil _ _
  | negated first later => exact List.cons_ne_nil _ _

/-! ## Expressions -/

theorem Quantifier.apply_ofDialect (quantifier : Quantifier)
    {operand : Pattern} (dialect : operand.OfDialect) :
    (quantifier.apply operand).OfDialect := by
  cases quantifier with
  | optional => exact dialect.opt
  | any | some | exactly _ | atLeast _ | atMost _ | between _ _ _
  | unbounded => exact dialect.collapse trivial rfl

theorem toPattern_quantified_ofDialect (quantifiers : List Quantifier)
    {atom : Expr} (dialect : atom.toPattern.OfDialect) :
    (quantifiers.foldl Expr.quantified atom).toPattern.OfDialect := by
  induction quantifiers generalizing atom with
  | nil => exact dialect
  | cons quantifier quantifiers ih =>
      rw [List.foldl_cons]
      apply ih
      rw [Expr.toPattern]
      exact quantifier.apply_ofDialect dialect

section

variable {room : Nat} {text : List Char}

/-- A group has one room less for the groups inside it, so what holds of groups
is known when the parts around them are looked at. -/
abbrev GroupsOfDialect (room : Nat) : Prop :=
  ∀ {operand : Expr} {text : List Char},
    AtomText room (.group operand) text → operand.toPattern.OfDialect

theorem AtomText.ofDialect (groups : GroupsOfDialect room) {atom : Expr}
    (written : AtomText room atom text) : atom.toPattern.OfDialect := by
  cases written with
  | anyChar => exact .ofPredicate Predicate.noConfusion
  | windowEnd => exact .windowEnd
  | char notReserved => exact .ofPredicate Predicate.noConfusion
  | escape c => exact .ofPredicate (Escape.ofChar c).predicate_ne_never
  | charClass classWritten =>
      apply OfDialect.ofPredicate
      exact CharClass.predicate_ne_never classWritten.members_ne_nil
  | group inner =>
      rw [Expr.toPattern]
      exact groups (.group inner)

theorem ItemText.ofDialect (groups : GroupsOfDialect room) {item : Expr}
    (written : ItemText room item text) : item.toPattern.OfDialect := by
  cases written with
  | quantified quantifiers atom =>
      apply toPattern_quantified_ofDialect
      exact atom.ofDialect groups

theorem ItemsText.ofDialect (groups : GroupsOfDialect room)
    {items : List Expr} (written : ItemsText room items text) :
    (Expr.sequence items).toPattern.OfDialect := by
  have each : ∀ item ∈ items, item.toPattern.OfDialect := by
    induction items generalizing text with
    | nil => simp
    | cons item items ih =>
        cases written with
        | cons first others =>
            exact List.forall_mem_cons.mpr
              ⟨first.ofDialect groups, ih others⟩
  rw [Expr.toPattern, Expr.toPatterns_eq_map]
  apply OfDialect.seqOf
  exact List.forall_mem_map.mpr each

theorem BranchesText.ofDialect (groups : GroupsOfDialect room)
    {branches : List Expr} (written : BranchesText room branches text) :
    ∀ branch ∈ branches, branch.toPattern.OfDialect := by
  induction branches generalizing text with
  | nil => simp
  | cons branch branches ih =>
      cases written with
      | cons items others =>
          exact List.forall_mem_cons.mpr
            ⟨items.ofDialect groups, ih others⟩

theorem ExprText.ofDialect_of_groups (groups : GroupsOfDialect room)
    {expr : Expr} (written : ExprText room expr text) :
    expr.toPattern.OfDialect := by
  cases written with
  | @alternatives _ items branches _ _ first others =>
      have each : ∀ branch ∈ Expr.sequence items :: branches,
          branch.toPattern.OfDialect :=
        List.forall_mem_cons.mpr
          ⟨first.ofDialect groups, others.ofDialect groups⟩
      rw [Expr.toPattern, Expr.toPatterns_eq_map]
      apply OfDialect.anyOf
      · simp
      · exact List.forall_mem_map.mpr each

end

theorem ExprText.ofDialect {room : Nat} {expr : Expr} {text : List Char}
    (written : ExprText room expr text) : expr.toPattern.OfDialect := by
  induction room generalizing expr text with
  | zero =>
      apply written.ofDialect_of_groups
      intro operand text group
      cases group
  | succ room ih =>
      apply written.ofDialect_of_groups
      intro operand text group
      cases group with
      | group inner => exact ih inner

theorem compile_ofDialect {expression : List Char} {pattern : Pattern}
    (compiled : compile expression = .ok pattern) : pattern.OfDialect := by
  obtain ⟨expr, written, rfl⟩ := exists_exprText_of_compile compiled
  exact written.ofDialect

end Dialect

/-! ## Recipes -/

namespace Recipe

open Pattern (Built)

theorem build_built {recipe : Recipe} {pattern : Pattern}
    (givens : ∀ given ∈ recipe.givens, given.Built)
    (built : recipe.build = .ok pattern) : pattern.Built := by
  have transfers := recipe.build_transfers givens
  rw [built] at transfers
  generalize recipe.plain = tree at transfers
  cases transfers with
  | ok related => exact related.built

/-- Whatever calls build a pattern, no node of it can be simplified.  If the
pattern is a compiled expression, its nodes are of few kinds, and it is not the
pattern that never matches. -/
theorem build_normal {recipe : Recipe} {pattern : Pattern}
    (givens : ∀ given ∈ recipe.givens, given.Built)
    (built : recipe.build = .ok pattern) :
    pattern.Normal ∧
      ∀ expression, Dialect.compile expression = .ok pattern →
        pattern.OfDialect ∧ pattern ≠ .never := by
  refine ⟨(build_built givens built).normal, fun expression compiled => ?_⟩
  have dialect : pattern.OfDialect := Dialect.compile_ofDialect compiled
  exact ⟨dialect, dialect.ne_never⟩

/-- What never matches and what always does leave no trace, and the bounds of
the class are in the wrong order. -/
theorem build_normal_reversed_range :
    let expression := ['[', 'b', '-', 'a', ']', '?']
    let recipe : Recipe := .sequence [.optional .never,
      .atLeast 2 (.given .always), .compile expression]
    let pattern : Pattern := .optional (.char (.range 'b' 'a'))
    (∀ given ∈ recipe.givens, given.Built) ∧
      recipe.build = .ok pattern ∧
      Dialect.compile expression = .ok pattern ∧
      pattern.Normal ∧ pattern.OfDialect ∧ pattern ≠ .never := by
  intro expression recipe pattern
  have givens : ∀ given ∈ recipe.givens, given.Built := by
    intro given member
    have always : given = .always := by
      simpa [recipe, Recipe.givens, givensList] using member
    rw [always]
    exact .always
  have member : Dialect.MemberText (.range 'b' 'a') ['b', '-', 'a'] [']'] :=
    .range (.plain (by decide)) (.plain (by decide)) (by decide)
  have written : Dialect.ExprText Dialect.maxNesting
      (.alternatives [.sequence [.quantified
        (.charClass ⟨false, [.range 'b' 'a']⟩) .optional]]) expression :=
    .alternatives (.cons (.quantified [.optional]
      (.charClass (.plain member (by decide) .close))) .nil) .nil
  have compiled : Dialect.compile expression = .ok pattern := by
    simp only [Dialect.compile, Dialect.parse_eq_ok_iff.mpr written]
    rfl
  have built : recipe.build = .ok pattern := by
    simp only [recipe, Recipe.build, buildList, compiled]
    rfl
  obtain ⟨normal, dialect⟩ := build_normal givens built
  obtain ⟨ofDialect, notNever⟩ := dialect expression compiled
  exact ⟨givens, built, compiled, normal, ofDialect, notNever⟩

end Recipe

end TextPattern
