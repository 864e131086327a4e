import TextPattern.Proofs.Equivalence
import TextPattern.Proofs.Extent.Characters
import TextPattern.Proofs.Extent.Conditions

/-!
# Greedy repetition

A repetition stops only where its operand does not move on, and gives nothing
back.  Repeating it once more from there consumes nothing, so repetitions of a
repetition match like the repetition alone, and what follows one must not need
the characters it has taken.
-/

namespace TextPattern

namespace Extent

variable {operand : Extent}

/-! ## Where a repetition stops -/

/-- Where a match has ended, the operand does not move on. -/
def Settled (operand : Extent) : Prop :=
  ∀ ⦃text : List Char⦄ ⦃length : Nat⦄, operand text = some length →
    operand (text.drop length) = none ∨
      operand (text.drop length) = some 0

/-- Where a match has ended, the operand matches again, and nothing. -/
def Rests (operand : Extent) : Prop :=
  ∀ ⦃text : List Char⦄ ⦃length : Nat⦄, operand text = some length →
    operand (text.drop length) = some 0

theorem Rests.settled (rests : operand.Rests) : operand.Settled :=
  fun _ _ found => .inr (rests found)

theorem many_rests (inside : operand.Inside) :
    (repeated 0 none operand).Rests := by
  intro text length found
  rw [repeated_zero, Option.some.injEq] at found
  rw [repeated_zero, ← found]
  exact congrArg some (more_of_idle (many_stops inside text) 0 none)

/-- One mandatory iteration, where it can be made, is the first of them all. -/
theorem repeated_one_getD (inside : operand.Inside) (text : List Char) :
    (repeated 1 none operand text).getD 0 = many operand text := by
  rcases idle_or_moves operand text with idle | ⟨length, moves⟩
  · rw [many, atMost_of_idle idle]
    rcases idle with mismatch | empty
    · simp only [repeated, exactly_succ_of_none mismatch, Option.getD_none]
    · simp only [repeated, exactly_of_empty empty, List.drop_zero,
        more_of_idle (.inr empty), Option.getD_some]
  · have first : exactly operand 1 text = some (length + 1) :=
      exactly_succ_of_moves moves 0
    rw [many_of_moves inside moves]
    simp only [repeated, first, Option.getD_some]
    rfl

theorem many1_settled (inside : operand.Inside) :
    (repeated 1 none operand).Settled := by
  intro text length found
  have total := repeated_one_getD inside text
  rw [found, Option.getD_some] at total
  rw [total]
  rcases many_stops inside text with mismatch | empty
  · left
    simp only [repeated, exactly_succ_of_none mismatch]
  · right
    simp only [repeated, exactly_of_empty empty, List.drop_zero,
      more_of_idle (.inr empty)]

/-! ## Repetitions of what does not move on -/

theorem atMost_of_settled (settled : operand.Settled) (count : Nat)
    (text : List Char) :
    atMost operand (count + 1) text = (operand text).getD 0 := by
  rcases idle_or_moves operand text with idle | ⟨length, moves⟩
  · rw [atMost_of_idle idle]
    rcases idle with mismatch | empty
    · rw [mismatch, Option.getD_none]
    · rw [empty, Option.getD_some]
  · rw [atMost_succ_of_moves moves, atMost_of_idle (settled moves), moves,
      Option.getD_some, Nat.add_zero]

/-- Of a repetition that need not iterate at most one iteration moves on. -/
theorem repeated_eq_optional (inside : operand.Inside)
    (settled : operand.Settled) {max : Option Nat}
    (allowed : ∀ bound ∈ max, 1 ≤ bound) :
    repeated 0 max operand = optional operand := by
  funext text
  rw [repeated_zero, optional]
  congr 1
  cases max with
  | none =>
      rw [more, ← atMost_eq_many inside (Nat.le_succ text.length)]
      exact atMost_of_settled settled _ text
  | some bound =>
      obtain ⟨count, rfl⟩ := Nat.exists_eq_add_one.mpr (allowed bound rfl)
      exact atMost_of_settled settled count text

theorem exactly_of_rests (rests : operand.Rests) {count : Nat}
    (positive : 1 ≤ count) : exactly operand count = operand := by
  obtain ⟨count, rfl⟩ := Nat.exists_eq_add_one.mpr positive
  funext text
  cases found : operand text with
  | none => exact exactly_succ_of_none found count
  | some length =>
      cases length with
      | zero => exact exactly_of_empty found _
      | succ length =>
          rw [exactly_succ_of_moves found, exactly_of_empty (rests found)]
          rfl

theorem repeated_of_rests (rests : operand.Rests) {min : Nat}
    (positive : 1 ≤ min) (max : Option Nat) :
    repeated min max operand = operand := by
  funext text
  rw [repeated, exactly_of_rests rests positive]
  cases found : operand text with
  | none => rfl
  | some length => simp only [more_of_idle (.inr (rests found)), Nat.add_zero]

/-! ## Repetitions of repetitions -/

theorem optional_many (operand : Extent) :
    optional (repeated 0 none operand) = repeated 0 none operand := by
  funext text
  rw [optional, repeated_zero, Option.getD_some]

/-- Iterations that may be left out do not move on where they are. -/
theorem many_optional (operand : Extent) :
    repeated 0 none (optional operand) = repeated 0 none operand := by
  have loops : ∀ count text,
      atMost (optional operand) count text = atMost operand count text := by
    intro count
    induction count with
    | zero => exact fun _ => rfl
    | succ count ih =>
        intro text
        rcases idle_or_moves operand text with idle | ⟨length, moves⟩
        · have empty : optional operand text = some 0 := by
            rcases idle with mismatch | empty
            · rw [optional, mismatch, Option.getD_none]
            · rw [optional, empty, Option.getD_some]
          rw [atMost_of_idle idle, atMost_of_idle (.inr empty)]
        · have same : optional operand text = some (length + 1) := by
            rw [optional, moves, Option.getD_some]
          rw [atMost_succ_of_moves moves, atMost_succ_of_moves same, ih]
  funext text
  rw [repeated_zero, repeated_zero]
  exact congrArg some (loops text.length text)

theorem many_many1 (inside : operand.Inside) :
    repeated 0 none (repeated 1 none operand) = repeated 0 none operand := by
  rw [repeated_eq_optional (repeated_inside inside 1 none)
    (many1_settled inside) (by simp)]
  funext text
  rw [optional, repeated_one_getD inside, repeated_zero]
  rfl

theorem sequence_many_many (inside : operand.Inside) :
    sequence [repeated 0 none operand, repeated 0 none operand] =
      repeated 0 none operand := by
  funext text
  rw [sequence_pair]
  have first := repeated_zero none operand text
  rw [first, Option.bind_some, many_rests inside first]
  rfl

/-- After a repetition the operand mismatches or matches nothing. -/
theorem sequence_many_eq (inside : operand.Inside) (text : List Char) :
    sequence [repeated 0 none operand, operand] text =
      (operand (text.drop (many operand text))).map
        fun _ => many operand text := by
  rw [sequence_pair, repeated_zero, Option.bind_some, more]
  rcases many_stops inside text with mismatch | empty
  · rw [mismatch]
    rfl
  · rw [empty]
    rfl

end Extent

namespace Pattern

variable {pattern : Pattern}

theorem many_extent_rests (pattern : Pattern) :
    pattern.many.extent.Rests := by
  rw [extent_many]
  exact Extent.many_rests pattern.extent_inside

/-- A repetition of a repetition that need not iterate is that repetition. -/
theorem repeated_many_extent (pattern : Pattern) {max : Option Nat}
    (allowed : ∀ bound ∈ max, 1 ≤ bound) :
    Extent.repeated 0 max pattern.many.extent = pattern.many.extent := by
  rw [Extent.repeated_eq_optional pattern.many.extent_inside
    (many_extent_rests pattern).settled allowed, extent_many,
    Extent.optional_many]

/-- The forms of repeating a repetition, and a repetition after another one. -/
theorem many_alike (built : pattern.Built) :
    pattern.many.Alike pattern.many.many ∧
    (∀ count, 1 ≤ count →
      pattern.many.Alike (pattern.many.atLeast count) ∧
      pattern.many.Alike (pattern.many.atMost count) ∧
      pattern.many.Alike (pattern.many.rep count)) ∧
    pattern.many.Alike pattern.opt.many ∧
    pattern.many.Alike pattern.many.opt ∧
    pattern.many.Alike pattern.many1.many ∧
    pattern.many.Alike (seqOf [pattern.many, pattern.many]) := by
  have loop := built.many
  have inside := pattern.extent_inside
  have rests := many_extent_rests pattern
  refine ⟨loop.alike loop.many ?_, fun count positive => ⟨
    loop.alike (loop.atLeast count) ?_, loop.alike (loop.atMost count) ?_,
    loop.alike (loop.rep count) ?_⟩, loop.alike built.opt.many ?_,
    loop.alike loop.opt ?_, loop.alike built.many1.many ?_,
    loop.alike (loop.andThen loop) ?_⟩
  · rw [extent_many pattern.many, repeated_many_extent pattern (by simp)]
  · rw [extent_atLeast, Extent.repeated_of_rests rests positive]
  · rw [extent_atMost, repeated_many_extent pattern (by simpa using positive)]
  · rw [extent_rep, Extent.exactly_of_rests rests positive]
  · rw [extent_many, extent_many, extent_opt, Extent.many_optional]
  · rw [extent_opt, extent_many, Extent.optional_many]
  · rw [extent_many, extent_many, many1, extent_atLeast,
      Extent.many_many1 inside]
  · rw [extent_seqOf, List.map_cons, List.map_singleton, extent_many,
      Extent.sequence_many_many inside]

/-- After a repetition its operand mismatches or matches nothing, and that
decides a sequence of the two. -/
theorem many_andThen_matchIn (built : pattern.Built) {source : Source}
    {window : Window} (countable : source.Countable)
    (within : window.Within source) :
    ∃ length last, pattern.many.matchIn source window = .ok (some length) ∧
      Window.Within ⟨window.first + length, window.stop⟩ source ∧
      pattern.matchIn source ⟨window.first + length, window.stop⟩ =
        .ok last ∧
      (last = none ∨ last = some 0) ∧
      (seqOf [pattern.many, pattern]).matchIn source window =
        .ok (last.map fun _ => length) := by
  have inside := pattern.extent_inside
  have stopped : Window.Within
      ⟨window.first + Extent.many pattern.extent (window.text source),
        window.stop⟩ source :=
    Window.within_advance within (Extent.atMost_le inside _ _)
  refine ⟨_, _, ?_, stopped, built.matchIn_eq_extent countable stopped, ?_,
    ?_⟩
  · rw [built.many.matchIn_eq_ok_iff countable within, extent_many,
      Extent.repeated_zero]
    rfl
  · rw [Window.text_advance]
    exact Extent.many_stops inside _
  · have sequenceBuilt : (seqOf [pattern.many, pattern]).Built :=
      built.many.andThen built
    rw [sequenceBuilt.matchIn_eq_ok_iff countable within, extent_seqOf,
      List.map_cons, List.map_singleton, extent_many,
      Extent.sequence_many_eq inside, Window.text_advance]

/-- Repeating a repetition, with or without bounds that allow one iteration,
changes nothing, and neither does leaving out its empty matches first or
letting it match once more.  The operand itself after its repetition mismatches
or matches nothing where the repetition stopped, so a sequence of the two
matches only if the operand can match nothing. -/
theorem many_alike_nested (built : pattern.Built) :
    (pattern.many.Alike pattern.many.many ∧
      (∀ count, 1 ≤ count →
        pattern.many.Alike (pattern.many.atLeast count) ∧
        pattern.many.Alike (pattern.many.atMost count) ∧
        pattern.many.Alike (pattern.many.rep count)) ∧
      pattern.many.Alike pattern.opt.many ∧
      pattern.many.Alike pattern.many.opt ∧
      pattern.many.Alike pattern.many1.many ∧
      pattern.many.Alike (seqOf [pattern.many, pattern.many])) ∧
    ∀ (source : Source) (window : Window), source.Countable →
      window.Within source →
      (∃ length, pattern.many.matchIn source window = .ok (some length) ∧
        ((seqOf [pattern.many, pattern]).matchIn source window = .ok none ∨
          (pattern.matchIn source ⟨window.first + length, window.stop⟩ =
              .ok (some 0) ∧
            (seqOf [pattern.many, pattern]).matchIn source window =
              .ok (some length)))) ∧
      ((∀ first, Window.Within ⟨first, window.stop⟩ source →
          pattern.matchIn source ⟨first, window.stop⟩ ≠ .ok (some 0)) →
        (seqOf [pattern.many, pattern]).matchIn source window =
          .ok none) := by
  refine ⟨many_alike built, fun source window countable within => ?_⟩
  obtain ⟨length, last, loop, stopped, after, idle, whole⟩ :=
    many_andThen_matchIn built countable within
  rcases idle with rfl | rfl
  · exact ⟨⟨length, loop, .inl whole⟩, fun _ => whole⟩
  · exact ⟨⟨length, loop, .inr ⟨after, whole⟩⟩,
      fun consumes => absurd after (consumes _ stopped)⟩

/-- An operand that matches nothing after two iterations, and one that has
nothing left to match. -/
theorem many_alike_nested_greedy :
    (ofChar 'a').opt.Built ∧ (ofChar 'a').Built ∧
      Source.Countable (.buffer #['x', 'a', 'a', 'b']) ∧
      Window.Within ⟨1, 3⟩ (.buffer #['x', 'a', 'a', 'b']) ∧
      (ofChar 'a').opt.many.Alike ((ofChar 'a').opt.many.rep 3) ∧
      (seqOf [(ofChar 'a').many, ofChar 'a']).matchIn
        (.buffer #['x', 'a', 'a', 'b']) ⟨1, 3⟩ = .ok none := by
  have letter : (ofChar 'a').Built := .ofPredicate _
  have countable : Source.Countable (.buffer #['x', 'a', 'a', 'b']) := by
    decide
  have within : Window.Within ⟨1, 3⟩ (.buffer #['x', 'a', 'a', 'b']) := by
    decide
  refine ⟨letter.opt, letter, countable, within, ?_, ?_⟩
  · exact ((many_alike_nested letter.opt).1.2.1 3 (by decide)).2.2
  · refine ((many_alike_nested letter).2 _ _ countable within).2
      fun first inside => ?_
    rw [ne_eq, letter.matchIn_eq_ok_iff countable inside]
    rcases Extent.char_single (.is 'a') (Window.text ⟨first, 3⟩ _)
      with mismatch | found
    · exact fun empty => nomatch mismatch.symm.trans empty
    · exact fun empty => nomatch found.symm.trans empty

end Pattern

end TextPattern
