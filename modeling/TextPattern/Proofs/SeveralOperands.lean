import TextPattern.Proofs.Equivalence
import TextPattern.Proofs.Extent.Operations

/-!
# Operations on several patterns

A tree is not flattened when it is built, but it matches as if it were: the
operands of every operation may be put in groups.  A conjunction and the two
selections look neither at the order of their operands nor at repetitions.  Of
the lengths that occur, a choice takes the one of the first operand that
matches, and the selections take the greatest and the least.
-/

namespace TextPattern

namespace Pattern

/-- The operation on all operands matches like the operation on the results for
groups of them. -/
def Groups (build : List Pattern → Pattern) : Prop :=
  ∀ groups : List (List Pattern),
    (∀ group ∈ groups, ∀ operand ∈ group, operand.Built) →
    (build groups.flatten).Alike (build (groups.map build))

/-- Lists of the same operands, in any order and each of them any number of
times, match alike. -/
def Unordered (build : List Pattern → Pattern) : Prop :=
  ∀ left right : List Pattern, (∀ operand ∈ left, operand.Built) →
    (∀ operand, operand ∈ left ↔ operand ∈ right) →
    (build left).Alike (build right)

/-- The lengths with which an operand matches. -/
def matchLengths (operands : List Pattern) (source : Source)
    (window : Window) : Set Nat :=
  {length | ∃ operand ∈ operands,
    operand.matchIn source window = .ok (some length)}

/-- The length with which the first of the matching operands does. -/
def FirstMatch (operands : List Pattern) (source : Source) (window : Window)
    (length : Nat) : Prop :=
  ∃ before operand after, operands = before ++ operand :: after ∧
    (∀ earlier ∈ before, earlier.matchIn source window = .ok none) ∧
    operand.matchIn source window = .ok (some length)

/-- What is built of several operands stands for an operation on their
extents. -/
structure Denotes (build : List Pattern → Pattern)
    (operation : List Extent → Extent) : Prop where
  built : ∀ {operands}, (∀ operand ∈ operands, operand.Built) →
    (build operands).Built
  extent : ∀ operands,
    (build operands).extent = operation (operands.map Pattern.extent)

theorem seqOf_denotes : Denotes seqOf Extent.sequence :=
  ⟨.seqOf, extent_seqOf⟩

theorem anyOf_denotes : Denotes anyOf Extent.choice :=
  ⟨.anyOf, extent_anyOf⟩

theorem allOf_denotes : Denotes allOf Extent.conjunction :=
  ⟨.allOf, extent_allOf⟩

theorem longestOf_denotes : Denotes longestOf Extent.longest :=
  ⟨.longestOf, extent_longestOf⟩

theorem shortestOf_denotes : Denotes shortestOf Extent.shortest :=
  ⟨.shortestOf, extent_shortestOf⟩

namespace Denotes

variable {build : List Pattern → Pattern} {operation : List Extent → Extent}
  (denotes : Denotes build operation)

include denotes

theorem groups (associates : Extent.Associates operation) :
    Groups build := by
  intro groups built
  have flat : ∀ operand ∈ groups.flatten, operand.Built := by
    intro operand member
    obtain ⟨group, groupMember, operandMember⟩ := List.mem_flatten.mp member
    exact built group groupMember operand operandMember
  have grouped : ∀ operand ∈ groups.map build, operand.Built := by
    intro operand member
    obtain ⟨group, groupMember, rfl⟩ := List.mem_map.mp member
    exact denotes.built (built group groupMember)
  have same : (groups.map (List.map Pattern.extent)).map operation =
      (groups.map build).map Pattern.extent := by
    simp only [List.map_map]
    apply List.map_congr_left
    intro group _
    exact (denotes.extent group).symm
  apply (denotes.built flat).alike (denotes.built grouped)
  rw [denotes.extent, denotes.extent, List.map_flatten, associates.flatten,
    same]

theorem unordered
    (congruent : ∀ {left right : List Extent},
      (∀ operand, operand ∈ left ↔ operand ∈ right) →
      operation left = operation right) : Unordered build := by
  intro left right built same
  apply (denotes.built built).alike
    (denotes.built fun operand member => built operand ((same _).mpr member))
  rw [denotes.extent, denotes.extent]
  apply congruent
  intro operand
  simp only [List.mem_map, same]

end Denotes

section

variable {operands : List Pattern} {source : Source} {window : Window}
  {length : Nat} (built : ∀ operand ∈ operands, operand.Built)
  (countable : source.Countable) (within : window.Within source)

include built countable within

theorem matchLengths_eq :
    matchLengths operands source window =
      {length | ∃ operand ∈ operands.map extent,
        operand (window.text source) = some length} := by
  ext length
  simp only [matchLengths, Set.mem_ofPred_eq, List.mem_map,
    exists_exists_and_eq_and]
  refine exists_congr fun operand => and_congr_right fun member => ?_
  exact (built operand member).matchIn_eq_ok_iff countable within

theorem matchIn_anyOf_iff :
    (anyOf operands).matchIn source window = .ok (some length) ↔
      FirstMatch operands source window length := by
  have attempt : ∀ {operand}, operand ∈ operands → ∀ result,
      (operand.matchIn source window = .ok result ↔
        operand.extent (window.text source) = result) :=
    fun member _ => (built _ member).matchIn_eq_ok_iff countable within
  rw [(Built.anyOf built).matchIn_eq_ok_iff countable within, extent_anyOf,
    Extent.choice, List.findSome?_map, List.findSome?_eq_some_iff]
  constructor
  · rintro ⟨before, operand, after, rfl, found, mismatch⟩
    refine ⟨before, operand, after, rfl, fun earlier member => ?_, ?_⟩
    · exact (attempt (by simp [member]) none).mpr (mismatch earlier member)
    · exact (attempt (by simp) (some length)).mpr found
  · rintro ⟨before, operand, after, rfl, mismatch, found⟩
    refine ⟨before, operand, after, rfl, ?_, fun earlier member => ?_⟩
    · exact (attempt (by simp) (some length)).mp found
    · exact (attempt (by simp [member]) none).mp (mismatch earlier member)

theorem matchIn_longestOf_iff :
    (longestOf operands).matchIn source window = .ok (some length) ↔
      IsGreatest (matchLengths operands source window) length := by
  rw [(Built.longestOf built).matchIn_eq_ok_iff countable within,
    extent_longestOf, Extent.longest_eq_some_iff,
    matchLengths_eq built countable within]

theorem matchIn_shortestOf_iff :
    (shortestOf operands).matchIn source window = .ok (some length) ↔
      IsLeast (matchLengths operands source window) length := by
  rw [(Built.shortestOf built).matchIn_eq_ok_iff countable within,
    extent_shortestOf, Extent.shortest_eq_some_iff,
    matchLengths_eq built countable within]

/-- A choice and the selections from the same operands give a result, and
either all of them mismatch or all of them match. -/
theorem matchIn_anyOf_between :
    ((shortestOf operands).matchIn source window = .ok none ∧
      (anyOf operands).matchIn source window = .ok none ∧
      (longestOf operands).matchIn source window = .ok none) ∨
    ∃ least first greatest,
      (shortestOf operands).matchIn source window = .ok (some least) ∧
      (anyOf operands).matchIn source window = .ok (some first) ∧
      (longestOf operands).matchIn source window = .ok (some greatest) ∧
      least ≤ first ∧ first ≤ greatest := by
  simp only [(Built.shortestOf built).matchIn_eq_ok_iff countable within,
    (Built.anyOf built).matchIn_eq_ok_iff countable within,
    (Built.longestOf built).matchIn_eq_ok_iff countable within,
    extent_shortestOf, extent_anyOf, extent_longestOf]
  exact Extent.choice_between_selections _ _

theorem matchIn_longestOf_of_allOf (nonempty : operands ≠ [])
    (found : (allOf operands).matchIn source window = .ok (some length)) :
    (longestOf operands).matchIn source window = .ok (some length) := by
  rw [(Built.allOf built).matchIn_eq_ok_iff countable within,
    extent_allOf] at found
  rw [(Built.longestOf built).matchIn_eq_ok_iff countable within,
    extent_longestOf]
  exact Extent.longest_of_conjunction (by simpa using nonempty) found

end

/-- Operands may be put in groups.  A conjunction and the selections look only
at which operands there are.  A choice takes the first of the lengths that
occur, the selections the greatest and the least, so they match in the same
windows and the length of the choice lies in between; a conjunction that
matches takes the greatest. -/
theorem operands_group_and_select :
    (Groups seqOf ∧ Groups anyOf ∧ Groups allOf ∧ Groups longestOf ∧
      Groups shortestOf) ∧
    (Unordered allOf ∧ Unordered longestOf ∧ Unordered shortestOf) ∧
    ∀ (operands : List Pattern) (source : Source) (window : Window),
      (∀ operand ∈ operands, operand.Built) → source.Countable →
      window.Within source →
      (∀ length,
        (anyOf operands).matchIn source window = .ok (some length) ↔
          FirstMatch operands source window length) ∧
      (∀ length,
        (longestOf operands).matchIn source window = .ok (some length) ↔
          IsGreatest (matchLengths operands source window) length) ∧
      (∀ length,
        (shortestOf operands).matchIn source window = .ok (some length) ↔
          IsLeast (matchLengths operands source window) length) ∧
      (((shortestOf operands).matchIn source window = .ok none ∧
          (anyOf operands).matchIn source window = .ok none ∧
          (longestOf operands).matchIn source window = .ok none) ∨
        ∃ least first greatest,
          (shortestOf operands).matchIn source window = .ok (some least) ∧
          (anyOf operands).matchIn source window = .ok (some first) ∧
          (longestOf operands).matchIn source window =
            .ok (some greatest) ∧
          least ≤ first ∧ first ≤ greatest) ∧
      (operands ≠ [] → ∀ length,
        (allOf operands).matchIn source window = .ok (some length) →
        (longestOf operands).matchIn source window = .ok (some length)) := by
  refine ⟨⟨?_, ?_, ?_, ?_, ?_⟩, ⟨?_, ?_, ?_⟩, ?_⟩
  · exact seqOf_denotes.groups Extent.sequence_associates
  · exact anyOf_denotes.groups Extent.choice_joins.associates
  · exact allOf_denotes.groups Extent.conjunction_joins.associates
  · exact longestOf_denotes.groups Extent.longest_joins.associates
  · exact shortestOf_denotes.groups Extent.shortest_joins.associates
  · exact allOf_denotes.unordered Extent.conjunction_congr
  · exact longestOf_denotes.unordered Extent.longest_congr
  · exact shortestOf_denotes.unordered Extent.shortest_congr
  · intro operands source window built countable within
    exact ⟨fun _ => matchIn_anyOf_iff built countable within,
      fun _ => matchIn_longestOf_iff built countable within,
      fun _ => matchIn_shortestOf_iff built countable within,
      matchIn_anyOf_between built countable within,
      fun nonempty _ =>
        matchIn_longestOf_of_allOf built countable within nonempty⟩

/-- A choice in three groups, the second one empty, and a selection from
operands that match with different lengths inside a window. -/
theorem operands_group_and_select_overlapping :
    (∀ operand ∈ [ofText .sensitive ['a', 'a'], ofChar 'a'], operand.Built) ∧
      Source.Countable (.buffer #['x', 'a', 'a', 'b']) ∧
      Window.Within ⟨1, 3⟩ (.buffer #['x', 'a', 'a', 'b']) ∧
      (anyOf [ofText .sensitive ['a', 'a'], ofChar 'a']).Alike
        (anyOf [anyOf [ofText .sensitive ['a', 'a']], anyOf [],
          anyOf [ofChar 'a']]) ∧
      IsLeast (matchLengths [ofText .sensitive ['a', 'a'], ofChar 'a']
        (.buffer #['x', 'a', 'a', 'b']) ⟨1, 3⟩) 1 ∧
      (longestOf [ofText .sensitive ['a', 'a'], ofChar 'a']).matchIn
        (.buffer #['x', 'a', 'a', 'b']) ⟨1, 3⟩ = .ok (some 2) := by
  have built : ∀ operand ∈ [ofText .sensitive ['a', 'a'], ofChar 'a'],
      operand.Built := by
    intro operand member
    simp only [List.mem_cons, List.not_mem_nil, or_false] at member
    rcases member with rfl | rfl
    · exact .ofText _ _
    · exact .ofPredicate _
  have countable : Source.Countable (.buffer #['x', 'a', 'a', 'b']) := by
    decide
  have within : Window.Within ⟨1, 3⟩ (.buffer #['x', 'a', 'a', 'b']) := by
    decide
  obtain ⟨⟨-, grouped, -⟩, -, select⟩ := operands_group_and_select
  obtain ⟨-, -, least, -, greatest⟩ :=
    select _ _ _ built countable within
  refine ⟨built, countable, within, ?_, ?_, ?_⟩
  · refine grouped [[ofText .sensitive ['a', 'a']], [], [ofChar 'a']]
      fun group member operand operandMember => ?_
    exact built operand (List.mem_flatten.mpr
      ⟨group, member, operandMember⟩)
  · exact (least 1).mp rfl
  · exact greatest (List.cons_ne_nil _ _) 2 rfl

end Pattern

end TextPattern
