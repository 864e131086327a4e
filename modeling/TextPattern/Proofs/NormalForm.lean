import TextPattern.Pattern.Build
import TextPattern.Proofs.Operands

/-!
# The normal form of patterns

The functions that build patterns leave no constant where it could have been
taken into account and no operation on fewer than two operands.  Every node of
their results is normal, provided the nodes of their arguments are.
-/

namespace TextPattern

namespace Pattern

/-- Not a constant. -/
def Proper (pattern : Pattern) : Prop :=
  pattern ≠ never ∧ pattern ≠ always

/-- The node could not have been simplified. -/
def NormalNode : Pattern → Prop
  | char predicate => predicate ≠ .never
  | hasAtLeast count => 1 ≤ count
  | literal text _ => text ≠ []
  | sequence operands =>
      2 ≤ operands.length ∧ ∀ operand ∈ operands, operand.Proper
  | conjunction operands =>
      2 ≤ operands.length ∧ ∀ operand ∈ operands, operand.Proper
  | choice operands =>
      2 ≤ operands.length ∧ ∀ operand ∈ operands, operand ≠ never
  | longest operands =>
      2 ≤ operands.length ∧ ∀ operand ∈ operands, operand ≠ never
  | shortest operands =>
      2 ≤ operands.length ∧ ∀ operand ∈ operands, operand ≠ never
  | negation operand => operand.Proper
  | lookahead operand => operand.Proper
  | conditional condition _ _ => condition.Proper
  | optional operand => operand.Proper
  | exactly _ operand => operand.Proper
  | repeated min max operand =>
      operand.Proper ∧ ∀ bound ∈ max, min ≤ bound
  | _ => True

/-- No node can be simplified. -/
def Normal (pattern : Pattern) : Prop :=
  pattern.Everywhere NormalNode

theorem isNever_iff {pattern : Pattern} :
    pattern.isNever = true ↔ pattern = never := by
  cases pattern <;> simp [isNever]

theorem isAlways_iff {pattern : Pattern} :
    pattern.isAlways = true ↔ pattern = always := by
  cases pattern <;> simp [isAlways]

theorem mem_dropAlways {operand : Pattern} {operands : List Pattern} :
    operand ∈ dropAlways operands ↔
      operand ∈ operands ∧ operand ≠ always := by
  simp [dropAlways, ← isAlways_iff]

theorem mem_dropNever {operand : Pattern} {operands : List Pattern} :
    operand ∈ dropNever operands ↔
      operand ∈ operands ∧ operand ≠ never := by
  simp [dropNever, ← isNever_iff]

theorem not_any_isNever {operands : List Pattern}
    (none : ¬ operands.any isNever = true) :
    ∀ operand ∈ operands, operand ≠ never := by
  intro operand member isNever
  exact none (List.any_eq_true.mpr
    ⟨operand, member, isNever_iff.mpr isNever⟩)

/-! ## Leaves -/

theorem never_normal : never.Normal := Everywhere.leaf trivial rfl

theorem always_normal : always.Normal := Everywhere.leaf trivial rfl

theorem ofPredicate_normal (predicate : Predicate) :
    (ofPredicate predicate).Normal := by
  unfold ofPredicate
  split
  · exact never_normal
  · next different => exact Everywhere.leaf different rfl

theorem take_normal (count : Nat) : (take count).Normal := by
  cases count with
  | zero => exact always_normal
  | succ count => exact Everywhere.leaf (Nat.succ_pos count) rfl

theorem hasExact_normal (count : Nat) : (hasExact count).Normal :=
  Everywhere.leaf trivial rfl

theorem ofText_normal (rule : CaseRule) (text : List Char) :
    (ofText rule text).Normal := by
  cases text with
  | nil => exact always_normal
  | cons c text => exact Everywhere.leaf (List.cons_ne_nil c text) rfl

theorem notText_normal (rule : CaseRule) (text : List Char) :
    (notText rule text).Normal :=
  Everywhere.leaf trivial rfl

theorem regex_normal (source : List Char) (compiled : Regex) :
    (regex source compiled).Normal :=
  Everywhere.leaf trivial rfl

/-! ## Several operands -/

/-- Gathering makes a node only of two operands or more. -/
theorem gather_holds {property : Pattern → Prop} {unit : Pattern}
    {node : List Pattern → Pattern} {operands : List Pattern}
    (unitHolds : operands = [] → property unit)
    (operandsHold : ∀ operand ∈ operands, property operand)
    (nodeHolds : 2 ≤ operands.length → property (node operands)) :
    property (gather unit node operands) := by
  match operands with
  | [] => exact unitHolds rfl
  | [operand] => exact operandsHold operand List.mem_cons_self
  | first :: second :: operands => exact nodeHolds (by simp)

variable {operands : List Pattern} {node : List Pattern → Pattern}

/-- Sequences and conjunctions: what always matches is dropped, and a single
operand that never does decides. -/
theorem gather_dropAlways_normal
    (normalNode : ∀ {kept}, 2 ≤ kept.length →
      (∀ operand ∈ kept, operand.Proper) → (node kept).NormalNode)
    (below : ∀ kept, (node kept).operands = kept)
    (normal : ∀ operand ∈ operands, operand.Normal) :
    (if operands.any isNever then never
      else gather always node (dropAlways operands)).Normal := by
  split
  · exact never_normal
  · next noNever =>
    have kept : ∀ operand ∈ dropAlways operands, operand.Normal :=
      fun operand member => normal operand (mem_dropAlways.mp member).1
    have proper : ∀ operand ∈ dropAlways operands, operand.Proper := by
      intro operand member
      obtain ⟨inside, notAlways⟩ := mem_dropAlways.mp member
      exact ⟨not_any_isNever noNever operand inside, notAlways⟩
    apply gather_holds (fun _ => always_normal) kept
    intro several
    refine .node (normalNode several proper) ?_
    rw [below]
    exact kept

/-- Choices and selections: what never matches is dropped. -/
theorem gather_dropNever_normal
    (normalNode : ∀ {kept}, 2 ≤ kept.length →
      (∀ operand ∈ kept, operand ≠ never) → (node kept).NormalNode)
    (below : ∀ kept, (node kept).operands = kept)
    (normal : ∀ operand ∈ operands, operand.Normal) :
    (gather never node (dropNever operands)).Normal := by
  have kept : ∀ operand ∈ dropNever operands, operand.Normal :=
    fun operand member => normal operand (mem_dropNever.mp member).1
  apply gather_holds (fun _ => never_normal) kept
  intro several
  refine .node (normalNode several fun operand member => ?_) ?_
  · exact (mem_dropNever.mp member).2
  · rw [below]
    exact kept

theorem seqOf_normal (normal : ∀ operand ∈ operands, operand.Normal) :
    (seqOf operands).Normal :=
  gather_dropAlways_normal And.intro (fun _ => rfl) normal

theorem allOf_normal (normal : ∀ operand ∈ operands, operand.Normal) :
    (allOf operands).Normal :=
  gather_dropAlways_normal And.intro (fun _ => rfl) normal

theorem anyOf_normal (normal : ∀ operand ∈ operands, operand.Normal) :
    (anyOf operands).Normal :=
  gather_dropNever_normal And.intro (fun _ => rfl) normal

theorem longestOf_normal (normal : ∀ operand ∈ operands, operand.Normal) :
    (longestOf operands).Normal :=
  gather_dropNever_normal And.intro (fun _ => rfl) normal

theorem shortestOf_normal (normal : ∀ operand ∈ operands, operand.Normal) :
    (shortestOf operands).Normal :=
  gather_dropNever_normal And.intro (fun _ => rfl) normal

/-! ## A fixed number of operands -/

theorem negate_normal {operand : Pattern} (normal : operand.Normal) :
    operand.negate.Normal := by
  unfold negate
  split
  · exact always_normal
  · exact never_normal
  · next notNever notAlways =>
    exact Everywhere.unary normal ⟨notNever, notAlways⟩ rfl

theorem peek_normal {operand : Pattern} (normal : operand.Normal) :
    operand.peek.Normal := by
  unfold peek
  split
  · exact never_normal
  · exact always_normal
  · next notNever notAlways =>
    exact Everywhere.unary normal ⟨notNever, notAlways⟩ rfl

theorem opt_normal {operand : Pattern} (normal : operand.Normal) :
    operand.opt.Normal := by
  unfold opt
  split
  · exact always_normal
  · exact always_normal
  · next notNever notAlways =>
    exact Everywhere.unary normal ⟨notNever, notAlways⟩ rfl

theorem ifElse_normal {condition consequence alternative : Pattern}
    (conditionNormal : condition.Normal)
    (consequenceNormal : consequence.Normal)
    (alternativeNormal : alternative.Normal) :
    (ifElse condition consequence alternative).Normal := by
  unfold ifElse
  split
  · exact alternativeNormal
  · exact consequenceNormal
  · next notNever notAlways =>
    refine .node ⟨notNever, notAlways⟩ fun operand member => ?_
    simp only [operands, List.mem_cons, List.not_mem_nil, or_false] at member
    rcases member with rfl | rfl | rfl
    · exact conditionNormal
    · exact consequenceNormal
    · exact alternativeNormal

/-! ## Quantifiers -/

/-- A repetition is a node of its own only over a proper operand, and never
matches only if its operand never does. -/
theorem collapse_holds {property : Pattern → Prop} {min : Nat}
    {operand loop : Pattern} (alwaysHolds : property always)
    (neverHolds : operand = never → property never)
    (loopHolds : operand.Proper → property loop) :
    property ((collapse? min operand).getD loop) := by
  unfold collapse?
  split
  · exact alwaysHolds
  · by_cases zero : min = 0
    · simp only [zero, if_true, Option.getD_some]
      exact alwaysHolds
    · simp only [zero, if_false, Option.getD_some]
      exact neverHolds rfl
  · next notAlways notNever => exact loopHolds ⟨notNever, notAlways⟩

theorem collapse_normal {min : Nat} {operand loop : Pattern}
    (loopNormal : operand.Proper → loop.Normal) :
    ((collapse? min operand).getD loop).Normal :=
  collapse_holds always_normal (fun _ => never_normal) loopNormal

theorem atLeast_normal (min : Nat) {operand : Pattern}
    (normal : operand.Normal) : (operand.atLeast min).Normal :=
  collapse_normal fun proper =>
    Everywhere.unary normal ⟨proper, by simp⟩ rfl

theorem atMost_normal (max : Nat) {operand : Pattern}
    (normal : operand.Normal) : (operand.atMost max).Normal :=
  collapse_normal fun proper =>
    Everywhere.unary normal ⟨proper, by simp⟩ rfl

theorem between_normal {min max : Nat} (ordered : min ≤ max)
    {operand : Pattern} (normal : operand.Normal) :
    (operand.between min max ordered).Normal :=
  collapse_normal fun proper =>
    Everywhere.unary normal ⟨proper, by simpa using ordered⟩ rfl

theorem rep_normal (count : Nat) {operand : Pattern}
    (normal : operand.Normal) : (operand.rep count).Normal :=
  collapse_normal fun proper => Everywhere.unary normal proper rfl

end Pattern

end TextPattern
