import Mathlib.Order.Bounds.Basic
import TextPattern.Proofs.Extent.Building

/-!
# Operations on several extents

The operations on several operands can be taken two at a time, and so in
groups.  The conjunction and the two selections look only at the lengths that
occur among their operands, not at their order or number.
-/

namespace TextPattern

namespace Extent

variable {operands left right : List Extent} {text : List Char} {length : Nat}

/-! ## The first operand and the others -/

theorem sequence_cons (operand : Extent) (operands : List Extent)
    (text : List Char) :
    sequence (operand :: operands) text =
      (operand text).bind fun head =>
        (sequence operands (text.drop head)).map (head + ·) := by
  simp only [sequence]
  cases operand text <;> rfl

theorem choice_cons (operand : Extent) (operands : List Extent)
    (text : List Char) :
    choice (operand :: operands) text =
      (operand text).or (choice operands text) := by
  simp only [choice, List.findSome?_cons]
  cases operand text <;> rfl

/-- The greater length, if there are two. -/
def both (left right : Option Nat) : Option Nat :=
  left.bind fun length => right.map (max length)

theorem conjunction_cons (operand : Extent) (operands : List Extent)
    (text : List Char) :
    conjunction (operand :: operands) text =
      both (operand text) (conjunction operands text) := by
  simp only [conjunction]
  cases operand text with
  | none => rfl
  | some length => cases conjunction operands text <;> rfl

theorem longest_cons (operand : Extent) (operands : List Extent)
    (text : List Char) :
    longest (operand :: operands) text =
      (operand text).merge max (longest operands text) := by
  simp only [longest, lengths, List.filterMap_cons]
  cases operand text with
  | none => simp
  | some length =>
      simp only [List.max?_cons]
      cases (operands.filterMap fun operand => operand text).max? <;> rfl

theorem shortest_cons (operand : Extent) (operands : List Extent)
    (text : List Char) :
    shortest (operand :: operands) text =
      (operand text).merge min (shortest operands text) := by
  simp only [shortest, lengths, List.filterMap_cons]
  cases operand text with
  | none => simp
  | some length =>
      simp only [List.min?_cons]
      cases (operands.filterMap fun operand => operand text).min? <;> rfl

/-! ## Grouping -/

/-- The operation on any number of operands comes from the operation on two. -/
structure Associates (operation : List Extent → Extent) : Prop where
  single : ∀ operand, operation [operand] = operand
  unit : ∀ operand, operation [operation [], operand] = operand
  cons : ∀ operand operands,
    operation (operand :: operands) = operation [operand, operation operands]
  assoc : ∀ first second third,
    operation [operation [first, second], third] =
      operation [first, operation [second, third]]

namespace Associates

variable {operation : List Extent → Extent}

theorem append (associates : Associates operation)
    (first second : List Extent) :
    operation (first ++ second) =
      operation [operation first, operation second] := by
  induction first with
  | nil => exact (associates.unit (operation second)).symm
  | cons operand first ih =>
      calc
        operation (operand :: (first ++ second))
        _ = operation [operand, operation (first ++ second)] :=
          associates.cons operand (first ++ second)
        _ = operation [operand,
              operation [operation first, operation second]] := by rw [ih]
        _ = operation [operation [operand, operation first],
              operation second] :=
          (associates.assoc operand (operation first)
            (operation second)).symm
        _ = operation [operation (operand :: first), operation second] := by
          rw [associates.cons operand first]

/-- Operands may be put in groups, of which some may be empty. -/
theorem flatten (associates : Associates operation)
    (groups : List (List Extent)) :
    operation groups.flatten = operation (groups.map operation) := by
  induction groups with
  | nil => rfl
  | cons group groups ih =>
      rw [List.flatten_cons, associates.append, ih, List.map_cons,
        ← associates.cons]

end Associates

/-- All operands look at the same text, and their results are joined. -/
structure Joins (operation : List Extent → Extent)
    (join : Option Nat → Option Nat → Option Nat) : Prop where
  single : ∀ operand, operation [operand] = operand
  unit : ∀ operand, operation [operation [], operand] = operand
  cons : ∀ operand operands text,
    operation (operand :: operands) text =
      join (operand text) (operation operands text)
  assoc : ∀ first second third,
    join (join first second) third = join first (join second third)

namespace Joins

variable {operation : List Extent → Extent}
  {join : Option Nat → Option Nat → Option Nat}

theorem pair (joins : Joins operation join) (first second : Extent)
    (text : List Char) :
    operation [first, second] text = join (first text) (second text) := by
  rw [joins.cons, joins.single]

theorem associates (joins : Joins operation join) :
    Associates operation where
  single := joins.single
  unit := joins.unit
  cons := by
    intro operand operands
    funext text
    rw [joins.cons, joins.pair]
  assoc := by
    intro first second third
    funext text
    simp only [joins.pair, joins.assoc]

end Joins

theorem sequence_pair (first second : Extent) (text : List Char) :
    sequence [first, second] text =
      (first text).bind fun head =>
        (second (text.drop head)).map (head + ·) := by
  rw [sequence_cons, sequence_singleton]

theorem sequence_associates : Associates sequence where
  single := sequence_singleton
  unit := by
    intro operand
    exact (sequence_cons_always [operand]).trans (sequence_singleton operand)
  cons := by
    intro operand operands
    funext text
    rw [sequence_cons, sequence_pair]
  assoc := by
    intro first second third
    funext text
    simp only [sequence_pair]
    cases first text with
    | none => rfl
    | some head =>
        simp only [Option.bind_some]
        cases second (text.drop head) with
        | none => rfl
        | some middle =>
            simp [List.drop_drop, Function.comp_def, Nat.add_assoc]

theorem choice_joins : Joins choice Option.or where
  single := choice_singleton
  unit := choice_singleton
  cons := choice_cons
  assoc := fun _ _ _ => Option.or_assoc

theorem conjunction_joins : Joins conjunction both where
  single := conjunction_singleton
  unit := by
    intro operand
    exact (conjunction_cons_always [operand]).trans
      (conjunction_singleton operand)
  cons := conjunction_cons
  assoc := by
    intro first second third
    cases first <;> cases second <;> cases third <;>
      simp [both, Nat.max_assoc]

theorem longest_joins : Joins longest (Option.merge max) where
  single := longest_singleton
  unit := longest_singleton
  cons := longest_cons
  assoc := Std.Associative.assoc

theorem shortest_joins : Joins shortest (Option.merge min) where
  single := shortest_singleton
  unit := shortest_singleton
  cons := shortest_cons
  assoc := Std.Associative.assoc

/-! ## Selecting by length -/

theorem mem_lengths :
    length ∈ lengths operands text ↔
      ∃ operand ∈ operands, operand text = some length :=
  List.mem_filterMap

/-- The longest match is the greatest of the lengths that occur. -/
theorem longest_eq_some_iff :
    longest operands text = some length ↔
      IsGreatest {length | ∃ operand ∈ operands, operand text = some length}
        length := by
  simp only [longest, List.max?_eq_some_iff, mem_lengths]
  rfl

theorem shortest_eq_some_iff :
    shortest operands text = some length ↔
      IsLeast {length | ∃ operand ∈ operands, operand text = some length}
        length := by
  simp only [shortest, List.min?_eq_some_iff, mem_lengths]
  rfl

theorem longest_eq_none_iff :
    longest operands text = none ↔
      ∀ operand ∈ operands, operand text = none := by
  simp only [longest, lengths, List.max?_eq_none_iff,
    List.filterMap_eq_nil_iff]

theorem shortest_eq_none_iff :
    shortest operands text = none ↔
      ∀ operand ∈ operands, operand text = none := by
  simp only [shortest, lengths, List.min?_eq_none_iff,
    List.filterMap_eq_nil_iff]

theorem choice_eq_none_iff :
    choice operands text = none ↔
      ∀ operand ∈ operands, operand text = none :=
  List.findSome?_eq_none_iff

/-- A conjunction of matching operands is their longest match. -/
theorem conjunction_eq_some_iff :
    conjunction operands text = some length ↔
      (∀ operand ∈ operands, operand text ≠ none) ∧
        (longest operands text).getD 0 = length := by
  induction operands generalizing length with
  | nil => simp [conjunction, longest, lengths]
  | cons operand operands ih =>
      rw [conjunction_cons, longest_cons, List.forall_mem_cons]
      cases operand text with
      | none => simp [both]
      | some head =>
          simp only [both, Option.bind_some, Option.map_eq_some_iff, ih]
          cases longest operands text <;> simp

/-! ## The same operands -/

theorem longest_congr (same : ∀ operand, operand ∈ left ↔ operand ∈ right) :
    longest left = longest right := by
  funext text
  apply Option.ext
  intro length
  simp only [longest_eq_some_iff, same]

theorem shortest_congr (same : ∀ operand, operand ∈ left ↔ operand ∈ right) :
    shortest left = shortest right := by
  funext text
  apply Option.ext
  intro length
  simp only [shortest_eq_some_iff, same]

theorem conjunction_congr
    (same : ∀ operand, operand ∈ left ↔ operand ∈ right) :
    conjunction left = conjunction right := by
  funext text
  apply Option.ext
  intro length
  simp only [conjunction_eq_some_iff, same, longest_congr same]

/-! ## Choice, selection and conjunction compared -/

theorem exists_longest {operand : Extent} (member : operand ∈ operands)
    (found : operand text = some length) :
    ∃ greatest, longest operands text = some greatest ∧
      length ≤ greatest := by
  cases selected : longest operands text with
  | none =>
      rw [longest_eq_none_iff.mp selected operand member] at found
      cases found
  | some greatest =>
      exact ⟨greatest, rfl,
        (longest_eq_some_iff.mp selected).2 ⟨operand, member, found⟩⟩

theorem exists_shortest {operand : Extent} (member : operand ∈ operands)
    (found : operand text = some length) :
    ∃ least, shortest operands text = some least ∧ least ≤ length := by
  cases selected : shortest operands text with
  | none =>
      rw [shortest_eq_none_iff.mp selected operand member] at found
      cases found
  | some least =>
      exact ⟨least, rfl,
        (shortest_eq_some_iff.mp selected).2 ⟨operand, member, found⟩⟩

/-- A choice and the selections match together, and the length that the choice
takes is one of those they select from. -/
theorem choice_between_selections (operands : List Extent)
    (text : List Char) :
    (shortest operands text = none ∧ choice operands text = none ∧
      longest operands text = none) ∨
    ∃ least first greatest, shortest operands text = some least ∧
      choice operands text = some first ∧
      longest operands text = some greatest ∧
      least ≤ first ∧ first ≤ greatest := by
  cases chosen : choice operands text with
  | none =>
      have mismatch := choice_eq_none_iff.mp chosen
      exact .inl ⟨shortest_eq_none_iff.mpr mismatch, rfl,
        longest_eq_none_iff.mpr mismatch⟩
  | some first =>
      obtain ⟨operand, member, found⟩ :=
        List.exists_of_findSome?_eq_some chosen
      obtain ⟨least, shortestFound, below⟩ := exists_shortest member found
      obtain ⟨greatest, longestFound, above⟩ := exists_longest member found
      exact .inr ⟨least, first, greatest, shortestFound, rfl, longestFound,
        below, above⟩

/-- The greatest length counts in a conjunction too. -/
theorem longest_of_conjunction (nonempty : operands ≠ [])
    (found : conjunction operands text = some length) :
    longest operands text = some length := by
  obtain ⟨allMatch, total⟩ := conjunction_eq_some_iff.mp found
  obtain ⟨operand, member⟩ := List.exists_mem_of_ne_nil operands nonempty
  obtain ⟨taken, operandFound⟩ :=
    Option.ne_none_iff_exists'.mp (allMatch operand member)
  obtain ⟨greatest, selected, -⟩ := exists_longest member operandFound
  rw [selected, Option.getD_some] at total
  rw [selected, total]

end Extent

end TextPattern
