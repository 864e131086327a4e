import TextPattern.Proofs.Extent.Building
import TextPattern.Proofs.Extent.Inside

/-!
# The extents of repetitions

One match of the operand decides how a loop goes on: a mismatch and an empty
match end it, and a match of some characters leaves the rest of the loop to the
rest of the text.  With one equation for each of these cases the loops can be
compared with iterations that are written out.
-/

namespace TextPattern

namespace Extent

variable {operand : Extent} {text : List Char} {length : Nat}

/-! ## One iteration -/

theorem exactly_succ_of_none (mismatch : operand text = none) (count : Nat) :
    exactly operand (count + 1) text = none := by
  simp only [exactly, mismatch]

theorem exactly_of_empty (empty : operand text = some 0) (count : Nat) :
    exactly operand count text = some 0 := by
  cases count with
  | zero => rfl
  | succ count => simp only [exactly, empty]

theorem exactly_succ_of_moves (moves : operand text = some (length + 1))
    (count : Nat) :
    exactly operand (count + 1) text =
      (exactly operand count (text.drop (length + 1))).map
        (length + 1 + ·) := by
  simp only [exactly, moves]

theorem atMost_of_idle (idle : operand text = none ∨ operand text = some 0)
    (count : Nat) : atMost operand count text = 0 := by
  cases count with
  | zero => rfl
  | succ count =>
      rcases idle with mismatch | empty
      · simp only [atMost, mismatch]
      · simp only [atMost, empty]

theorem atMost_succ_of_moves (moves : operand text = some (length + 1))
    (count : Nat) :
    atMost operand (count + 1) text =
      length + 1 + atMost operand count (text.drop (length + 1)) := by
  simp only [atMost, moves]

/-- A match consumes something or the loop ends there. -/
theorem idle_or_moves (operand : Extent) (text : List Char) :
    (operand text = none ∨ operand text = some 0) ∨
      ∃ length, operand text = some (length + 1) := by
  cases operand text with
  | none => exact .inl (.inl rfl)
  | some length =>
      cases length with
      | zero => exact .inl (.inr rfl)
      | succ length => exact .inr ⟨length, rfl⟩

/-! ## Loops without a bound -/

/-- More iterations than the text has characters make no difference. -/
theorem atMost_eq_atMost (inside : operand.Inside) {left right : Nat}
    (enough : text.length ≤ left) (alsoEnough : text.length ≤ right) :
    atMost operand left text = atMost operand right text := by
  induction left generalizing text right with
  | zero =>
      have idle : operand text = none ∨ operand text = some 0 := by
        rcases idle_or_moves operand text with idle | ⟨length, moves⟩
        · exact idle
        · have bound := inside moves
          omega
      rw [atMost_of_idle idle, atMost_of_idle idle]
  | succ left ih =>
      rcases idle_or_moves operand text with idle | ⟨length, moves⟩
      · rw [atMost_of_idle idle, atMost_of_idle idle]
      · have bound := inside moves
        cases right with
        | zero => omega
        | succ right =>
            rw [atMost_succ_of_moves moves, atMost_succ_of_moves moves]
            congr 1
            apply ih
            · rw [List.length_drop]
              omega
            · rw [List.length_drop]
              omega

theorem atMost_eq_min (inside : operand.Inside) (count : Nat) :
    atMost operand count text = atMost operand (min count text.length) text := by
  rcases Nat.le_total count text.length with few | many
  · rw [Nat.min_eq_left few]
  · rw [Nat.min_eq_right many]
    exact atMost_eq_atMost inside many (Nat.le_refl _)

/-- The mandatory loop makes one attempt more, at the end of the text, which may
still mismatch. -/
theorem exactly_eq_exactly (inside : operand.Inside) {left right : Nat}
    (enough : text.length < left) (alsoEnough : text.length < right) :
    exactly operand left text = exactly operand right text := by
  induction left generalizing text right with
  | zero => exact absurd enough (Nat.not_lt_zero _)
  | succ left ih =>
      cases right with
      | zero => exact absurd alsoEnough (Nat.not_lt_zero _)
      | succ right =>
          rcases idle_or_moves operand text with
            (mismatch | empty) | ⟨length, moves⟩
          · rw [exactly_succ_of_none mismatch, exactly_succ_of_none mismatch]
          · rw [exactly_of_empty empty, exactly_of_empty empty]
          · have bound := inside moves
            rw [exactly_succ_of_moves moves, exactly_succ_of_moves moves]
            congr 1
            apply ih
            · rw [List.length_drop]
              omega
            · rw [List.length_drop]
              omega

theorem exactly_eq_min (inside : operand.Inside) (count : Nat) :
    exactly operand count text =
      exactly operand (min count (text.length + 1)) text := by
  rcases Nat.le_total count (text.length + 1) with few | many
  · rw [Nat.min_eq_left few]
  · rw [Nat.min_eq_right many]
    exact exactly_eq_exactly inside many (Nat.lt_succ_self _)

theorem atMost_eq_many (inside : operand.Inside) {count : Nat}
    (enough : text.length ≤ count) :
    atMost operand count text = many operand text :=
  atMost_eq_atMost inside enough (Nat.le_refl _)

theorem many_of_moves (inside : operand.Inside)
    (moves : operand text = some (length + 1)) :
    many operand text =
      length + 1 + many operand (text.drop (length + 1)) := by
  have bound := inside moves
  rw [← atMost_eq_many inside (Nat.le_succ text.length),
    atMost_succ_of_moves moves]
  congr 1
  apply atMost_eq_many inside
  rw [List.length_drop]
  exact Nat.sub_le _ _

/-- After the last iteration the operand does not move on. -/
theorem many_stops (inside : operand.Inside) (text : List Char) :
    operand (text.drop (many operand text)) = none ∨
      operand (text.drop (many operand text)) = some 0 := by
  induction size : text.length using Nat.strongRecOn generalizing text with
  | ind room ih =>
  rcases idle_or_moves operand text with idle | ⟨length, moves⟩
  · rw [many, atMost_of_idle idle, List.drop_zero]
    exact idle
  · have bound := inside moves
    have shorter : (text.drop (length + 1)).length < room := by
      rw [List.length_drop]
      omega
    rw [many_of_moves inside moves, ← List.drop_drop]
    exact ih _ shorter _ rfl

/-! ## Iterations written out -/

/-- The first operands and then the others. -/
theorem sequence_append (first second : List Extent) (text : List Char) :
    sequence (first ++ second) text =
      (sequence first text).bind fun head =>
        (sequence second (text.drop head)).map (head + ·) := by
  induction first generalizing text with
  | nil => simp [sequence]
  | cons operand first ih =>
      simp only [List.cons_append, sequence]
      cases operand text with
      | none => rfl
      | some length =>
          simp only [ih, Option.map_bind, Option.bind_map]
          congr 1
          funext head
          simp only [Function.comp_apply, Option.map_map, List.drop_drop]
          congr 1
          funext tail
          exact (Nat.add_assoc length head tail).symm

/-- After an empty match the loop stops and the sequence goes on, but all its
other operands match nothing in the same place. -/
theorem exactly_eq_sequence (operand : Extent) (count : Nat) :
    exactly operand count = sequence (List.replicate count operand) := by
  induction count with
  | zero => rfl
  | succ count ih =>
      funext text
      rw [List.replicate_succ]
      simp only [sequence]
      cases found : operand text with
      | none => exact exactly_succ_of_none found count
      | some length =>
          rw [← ih]
          cases length with
          | zero => simp [exactly_of_empty found]
          | succ length => exact exactly_succ_of_moves found count

/-- The mandatory iterations may be written out before the others. -/
theorem repeated_eq_sequence {min : Nat} {max : Option Nat}
    (operand : Extent) :
    repeated min max operand =
      sequence (List.replicate min operand ++
        [repeated 0 (max.map (· - min)) operand]) := by
  have others : ∀ rest : List Char,
      repeated 0 (max.map (· - min)) operand rest =
        some (more min max operand rest) := by
    intro rest
    cases max <;> simp [repeated, exactly, more]
  funext text
  rw [sequence_append, ← exactly_eq_sequence]
  simp only [repeated.eq_1 min max]
  cases exactly operand min text with
  | none => rfl
  | some head =>
      rw [Option.bind_some, sequence_singleton, others]
      rfl

theorem repeated_zero (max : Option Nat) (operand : Extent)
    (text : List Char) :
    repeated 0 max operand text = some (more 0 max operand text) := by
  simp [repeated, exactly]

theorem more_of_idle (idle : operand text = none ∨ operand text = some 0)
    (min : Nat) (max : Option Nat) : more min max operand text = 0 := by
  cases max with
  | none => exact atMost_of_idle idle _
  | some max => exact atMost_of_idle idle _

/-- One iteration and the others, or nothing. -/
theorem optional_sequence_eq {max : Option Nat} (loop : List Char → Nat)
    (ends : ∀ {text}, operand text = none ∨ operand text = some 0 →
      loop text = 0)
    (goesOn : ∀ {text length}, operand text = some (length + 1) →
      loop text =
        length + 1 + more 0 max operand (text.drop (length + 1))) :
    optional (sequence [operand, repeated 0 max operand]) =
      fun text => some (loop text) := by
  funext text
  simp only [optional, sequence, repeated_zero, Option.map_some,
    Nat.add_zero, Option.some.injEq]
  rcases idle_or_moves operand text with idle | ⟨length, moves⟩
  · rw [ends idle]
    rcases idle with mismatch | empty
    · simp only [mismatch, Option.getD_none]
    · simp [empty, more_of_idle (.inr empty)]
  · rw [goesOn moves]
    simp only [moves, Option.getD_some]

theorem repeated_succ_eq_optional (max : Nat) (operand : Extent) :
    repeated 0 (some (max + 1)) operand =
      optional (sequence [operand, repeated 0 (some max) operand]) := by
  rw [@optional_sequence_eq operand (some max) (atMost operand (max + 1))
    (fun idle => atMost_of_idle idle _)
    (fun moves => atMost_succ_of_moves moves max)]
  funext text
  exact repeated_zero (some (max + 1)) operand text

theorem repeated_none_eq_optional (inside : operand.Inside) :
    repeated 0 none operand =
      optional (sequence [operand, repeated 0 none operand]) := by
  rw [optional_sequence_eq (many operand) (fun idle => atMost_of_idle idle _)
    (many_of_moves inside)]
  funext text
  exact repeated_zero none operand text

end Extent

end TextPattern
