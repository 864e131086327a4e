import TextPattern.Proofs.Extent.Basic
import TextPattern.Proofs.NormalForm

/-!
# The extents of built patterns

Building a pattern may leave operands out or return one of them, but it does
not change what is consumed.  The extent of a built pattern is therefore the
operation on extents, applied to the extents of all operands.
-/

namespace TextPattern

namespace Extent

/-! ## Constant operands -/

theorem sequence_cons_always (operands : List Extent) :
    sequence (always :: operands) = sequence operands := by
  funext text
  simp [sequence, always]

theorem sequence_eq_never {operands : List Extent}
    (member : never ∈ operands) : sequence operands = never := by
  induction operands with
  | nil => cases member
  | cons operand operands ih =>
      funext text
      rcases List.mem_cons.mp member with head | tail
      · simp [sequence, ← head, never]
      · simp only [sequence, ih tail]
        cases operand text <;> rfl

theorem sequence_singleton (operand : Extent) :
    sequence [operand] = operand := by
  funext text
  simp only [sequence]
  cases operand text <;> rfl

theorem conjunction_cons_always (operands : List Extent) :
    conjunction (always :: operands) = conjunction operands := by
  funext text
  simp only [conjunction, always]
  cases conjunction operands text with
  | none => rfl
  | some longest => simp

theorem conjunction_eq_never {operands : List Extent}
    (member : never ∈ operands) : conjunction operands = never := by
  induction operands with
  | nil => cases member
  | cons operand operands ih =>
      funext text
      rcases List.mem_cons.mp member with head | tail
      · simp [conjunction, ← head, never]
      · simp only [conjunction, ih tail]
        cases operand text <;> rfl

theorem conjunction_singleton (operand : Extent) :
    conjunction [operand] = operand := by
  funext text
  simp only [conjunction]
  cases operand text with
  | none => rfl
  | some length => simp

theorem choice_cons_never (operands : List Extent) :
    choice (never :: operands) = choice operands := rfl

theorem choice_singleton (operand : Extent) : choice [operand] = operand := by
  funext text
  simp only [choice, List.findSome?_cons, List.findSome?_nil]
  cases operand text <;> rfl

theorem lengths_cons_never (operands : List Extent) (text : List Char) :
    lengths (never :: operands) text = lengths operands text := rfl

theorem longest_singleton (operand : Extent) :
    longest [operand] = operand := by
  funext text
  simp only [longest, lengths, List.filterMap_cons, List.filterMap_nil]
  cases operand text <;> rfl

theorem shortest_singleton (operand : Extent) :
    shortest [operand] = operand := by
  funext text
  simp only [shortest, lengths, List.filterMap_cons, List.filterMap_nil]
  cases operand text <;> rfl

theorem exactly_always (count : Nat) : exactly always count = always := by
  cases count <;> rfl

theorem exactly_never (count : Nat) :
    exactly never count = if count = 0 then always else never := by
  cases count <;> rfl

theorem atMost_always (count : Nat) (text : List Char) :
    atMost always count text = 0 := by
  cases count <;> rfl

theorem atMost_never (count : Nat) (text : List Char) :
    atMost never count text = 0 := by
  cases count <;> rfl

theorem repeated_always (min : Nat) (max : Option Nat) :
    repeated min max always = always := by
  funext text
  cases max <;> simp [repeated, exactly_always, more, many, atMost_always]
    <;> rfl

theorem repeated_never (min : Nat) (max : Option Nat) :
    repeated min max never = if min = 0 then always else never := by
  funext text
  by_cases zero : min = 0
  · cases max <;>
      simp [repeated, exactly_never, zero, always, more, many, atMost_never]
  · simp [repeated, exactly_never, zero, never]

end Extent

namespace Pattern

/-! ## Leaves -/

theorem extent_ofPredicate (predicate : Predicate) :
    (ofPredicate predicate).extent = Extent.char predicate := by
  unfold ofPredicate
  split
  · funext text
    cases text <;> rfl
  · rfl

theorem extent_take (count : Nat) :
    (take count).extent = Extent.hasAtLeast count := by
  cases count with
  | zero =>
      funext text
      simp [take, extent, Extent.always, Extent.hasAtLeast]
  | succ count => rfl

theorem extent_ofText (rule : CaseRule) (text : List Char) :
    (ofText rule text).extent = Extent.literal rule text := by
  cases text <;> rfl

/-! ## Several operands -/

theorem extent_gather {unit : Pattern} {node : List Pattern → Pattern}
    {operation : List Extent → Extent} (operands : List Pattern)
    (nodeExtent : ∀ operands, (node operands).extent =
      operation (operands.map extent))
    (unitExtent : unit.extent = operation [])
    (singleton : ∀ operand, operation [operand] = operand) :
    (gather unit node operands).extent =
      operation (operands.map extent) := by
  match operands with
  | [] => exact unitExtent
  | [operand] => exact (singleton operand.extent).symm
  | first :: second :: operands => exact nodeExtent _

/-- Operands that do not count may be dropped before an operation. -/
theorem operation_filter {operation : List Extent → Extent}
    {kept : Pattern → Bool} {neutral : Extent}
    (skip : ∀ operands, operation (neutral :: operands) = operation operands)
    (congruent : ∀ operand {left right}, operation left = operation right →
      operation (operand :: left) = operation (operand :: right))
    (dropped : ∀ operand, kept operand = false → operand.extent = neutral)
    (operands : List Pattern) :
    operation ((operands.filter kept).map extent) =
      operation (operands.map extent) := by
  induction operands with
  | nil => rfl
  | cons operand operands ih =>
      rw [List.filter_cons, List.map_cons]
      cases keeps : kept operand with
      | true =>
          simp only [if_true, List.map_cons]
          exact congruent operand.extent ih
      | false =>
          rw [dropped operand keeps, skip]
          simpa using ih

theorem extent_of_isAlways {operand : Pattern}
    (dropped : (!operand.isAlways) = false) :
    operand.extent = Extent.always := by
  have same : operand = always := isAlways_iff.mp (by simpa using dropped)
  rw [same]
  rfl

theorem extent_of_isNever {operand : Pattern}
    (dropped : (!operand.isNever) = false) :
    operand.extent = Extent.never := by
  have same : operand = never := isNever_iff.mp (by simpa using dropped)
  rw [same]
  rfl

theorem never_mem_extents {operands : List Pattern}
    (some : operands.any isNever = true) :
    Extent.never ∈ operands.map extent := by
  obtain ⟨operand, member, isNever⟩ := List.any_eq_true.mp some
  rw [isNever_iff.mp isNever] at member
  exact List.mem_map.mpr ⟨never, member, rfl⟩

theorem extent_seqOf (operands : List Pattern) :
    (seqOf operands).extent = Extent.sequence (operands.map extent) := by
  unfold seqOf
  split
  next some => exact (Extent.sequence_eq_never (never_mem_extents some)).symm
  next =>
    rw [extent_gather (dropAlways operands) (fun operands => by
      rw [extent, extentList_eq_map]) rfl Extent.sequence_singleton]
    refine operation_filter Extent.sequence_cons_always ?_
      (fun _ => extent_of_isAlways) operands
    intro operand left right same
    funext text
    simp only [Extent.sequence, same]

theorem extent_allOf (operands : List Pattern) :
    (allOf operands).extent = Extent.conjunction (operands.map extent) := by
  unfold allOf
  split
  next some =>
    exact (Extent.conjunction_eq_never (never_mem_extents some)).symm
  next =>
    rw [extent_gather (dropAlways operands) (fun operands => by
      rw [extent, extentList_eq_map]) rfl Extent.conjunction_singleton]
    refine operation_filter Extent.conjunction_cons_always ?_
      (fun _ => extent_of_isAlways) operands
    intro operand left right same
    funext text
    simp only [Extent.conjunction, same]

theorem extent_anyOf (operands : List Pattern) :
    (anyOf operands).extent = Extent.choice (operands.map extent) := by
  rw [anyOf, extent_gather (dropNever operands) (fun operands => by
    rw [extent, extentList_eq_map]) rfl Extent.choice_singleton]
  refine operation_filter Extent.choice_cons_never ?_
    (fun _ => extent_of_isNever) operands
  intro operand left right same
  funext text
  have rest := congrFun same text
  simp only [Extent.choice, List.findSome?_cons] at rest ⊢
  rw [rest]

/-- The lengths found do not change when what never matches is dropped. -/
theorem lengths_dropNever (operands : List Pattern) (text : List Char) :
    Extent.lengths ((dropNever operands).map extent) text =
      Extent.lengths (operands.map extent) text := by
  induction operands with
  | nil => rfl
  | cons operand operands ih =>
      unfold dropNever at ih ⊢
      rw [List.filter_cons]
      cases keeps : !operand.isNever with
      | true =>
          simp only [if_true, List.map_cons, Extent.lengths,
            List.filterMap_cons] at ih ⊢
          rw [ih]
      | false =>
          rw [List.map_cons, extent_of_isNever keeps,
            Extent.lengths_cons_never]
          simpa using ih

theorem extent_longestOf (operands : List Pattern) :
    (longestOf operands).extent = Extent.longest (operands.map extent) := by
  rw [longestOf, extent_gather (dropNever operands) (fun operands => by
    rw [extent, extentList_eq_map]) rfl Extent.longest_singleton]
  funext text
  rw [Extent.longest, Extent.longest, lengths_dropNever]

theorem extent_shortestOf (operands : List Pattern) :
    (shortestOf operands).extent = Extent.shortest (operands.map extent) := by
  rw [shortestOf, extent_gather (dropNever operands) (fun operands => by
    rw [extent, extentList_eq_map]) rfl Extent.shortest_singleton]
  funext text
  rw [Extent.shortest, Extent.shortest, lengths_dropNever]

/-! ## A fixed number of operands -/

theorem extent_negate (operand : Pattern) :
    operand.negate.extent = Extent.negation operand.extent := by
  unfold negate
  split <;> rfl

theorem extent_peek (operand : Pattern) :
    operand.peek.extent = Extent.lookahead operand.extent := by
  unfold peek
  split <;> rfl

theorem extent_ifElse (condition consequence alternative : Pattern) :
    (ifElse condition consequence alternative).extent =
      Extent.conditional condition.extent consequence.extent
        alternative.extent := by
  unfold ifElse
  split
  · rfl
  · funext text
    simp [extent, Extent.conditional, Extent.always]
  · rfl

theorem extent_opt (operand : Pattern) :
    operand.opt.extent = Extent.optional operand.extent := by
  unfold opt
  split <;> rfl

theorem extent_orUnlessNever (first second : Pattern) :
    (first.orUnlessNever second).extent =
      Extent.choice [first.extent, second.extent] := by
  unfold orUnlessNever
  split
  next none =>
    rw [isNever_iff.mp none]
    exact (Extent.choice_singleton second.extent).symm
  next =>
    split
    next none =>
      rw [isNever_iff.mp none]
      funext text
      simp only [Extent.choice, List.findSome?_cons, List.findSome?_nil]
      cases first.extent text <;> rfl
    next => exact extent_anyOf [first, second]

theorem extent_thenUnlessNever (first second : Pattern) :
    (first.thenUnlessNever second).extent =
      Extent.sequence [first.extent, second.extent] := by
  unfold thenUnlessNever
  split
  next none =>
    have some : [first, second].any isNever = true := by simpa using none
    exact (Extent.sequence_eq_never (never_mem_extents some)).symm
  next => exact extent_seqOf [first, second]

/-! ## Quantifiers -/

/-- A repetition of a constant needs no loop, if the loop would do the same. -/
theorem extent_collapse {min : Nat} {operand loop : Pattern}
    {repetition : Extent → Extent}
    (loopExtent : loop.extent = repetition operand.extent)
    (ofAlways : repetition .always = .always)
    (ofNever : repetition .never = if min = 0 then .always else .never) :
    ((collapse? min operand).getD loop).extent =
      repetition operand.extent := by
  unfold collapse?
  split
  · exact ofAlways.symm
  · simp only [Option.getD_some]
    rw [extent.eq_1, ofNever]
    split <;> rfl
  · exact loopExtent

theorem extent_atLeast (min : Nat) (operand : Pattern) :
    (operand.atLeast min).extent =
      Extent.repeated min none operand.extent :=
  extent_collapse rfl (Extent.repeated_always min none)
    (Extent.repeated_never min none)

theorem extent_many (operand : Pattern) :
    operand.many.extent = Extent.repeated 0 none operand.extent :=
  extent_atLeast 0 operand

theorem extent_atMost (max : Nat) (operand : Pattern) :
    (operand.atMost max).extent =
      Extent.repeated 0 (some max) operand.extent :=
  extent_collapse rfl (Extent.repeated_always 0 (some max))
    (Extent.repeated_never 0 (some max))

theorem extent_between {min max : Nat} (ordered : min ≤ max)
    (operand : Pattern) :
    (operand.between min max ordered).extent =
      Extent.repeated min (some max) operand.extent :=
  extent_collapse rfl (Extent.repeated_always min (some max))
    (Extent.repeated_never min (some max))

theorem extent_rep (count : Nat) (operand : Pattern) :
    (operand.rep count).extent = Extent.exactly operand.extent count :=
  @extent_collapse count operand (exactly count operand)
    (Extent.exactly · count) rfl (Extent.exactly_always count)
    (Extent.exactly_never count)

end Pattern

end TextPattern
