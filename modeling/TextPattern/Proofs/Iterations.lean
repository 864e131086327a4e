import TextPattern.Proofs.Extent.Repetition
import TextPattern.Proofs.FaultFreedom

/-!
# What the quantifiers consume

Every quantifier goes through the same positions: from each of them to the next
one the operand matches some characters, and at the last one it mismatches or
matches nothing.  How many there are and what happens at the last one settle
the result of every quantifier.
-/

namespace TextPattern

namespace Extent

/-- From each position to the next one the operand matches some characters,
and at the last one it does not. -/
structure Iterates (operand : Extent) (text : List Char)
    (position : Nat → Nat) (count : Nat) : Prop where
  moves : ∀ index < count, ∃ length,
    operand (text.drop (position index)) = some (length + 1) ∧
      position (index + 1) = position index + (length + 1)
  stops : operand (text.drop (position count)) = none ∨
    operand (text.drop (position count)) = some 0

namespace Iterates

variable {operand : Extent} {text : List Char} {position : Nat → Nat}
  {count : Nat}

/-- The iterations from one of the positions on. -/
theorem after (iterates : operand.Iterates text position count)
    {done : Nat} (made : done ≤ count) :
    operand.Iterates text (fun index => position (done + index))
      (count - done) where
  moves := by
    intro index before
    exact iterates.moves (done + index) (by omega)
  stops := by
    rw [Nat.add_sub_cancel' made]
    exact iterates.stops

theorem position_le (iterates : operand.Iterates text position count)
    {first last : Nat} (ordered : first ≤ last) (made : last ≤ count) :
    position first ≤ position last := by
  induction last with
  | zero =>
      have same : first = 0 := Nat.le_zero.mp ordered
      subst same
      exact Nat.le_refl _
  | succ last ih =>
      rcases Nat.lt_or_eq_of_le ordered with before | same
      · obtain ⟨length, -, next⟩ := iterates.moves last made
        have earlier := ih (Nat.le_of_lt_succ before) (Nat.le_of_succ_le made)
        omega
      · subst same
        exact Nat.le_refl _

/-- The first iteration and those after it. -/
theorem head (iterates : operand.Iterates text position (count + 1)) :
    ∃ length, operand (text.drop (position 0)) = some (length + 1) ∧
      position 1 = position 0 + (length + 1) ∧
      operand.Iterates text (fun index => position (index + 1)) count := by
  obtain ⟨length, found, next⟩ := iterates.moves 0 (Nat.succ_pos count)
  refine ⟨length, found, next, ?_⟩
  simpa [Nat.add_comm] using iterates.after (Nat.succ_pos count)

/-- So many mandatory iterations: all are made, or what the operand does at the
last position decides. -/
theorem exactly_eq (iterates : operand.Iterates text position count)
    (wanted : Nat) :
    exactly operand wanted (text.drop (position 0)) =
      if wanted ≤ count then some (position wanted - position 0)
      else (operand (text.drop (position count))).map
        fun _ => position count - position 0 := by
  induction wanted generalizing position count with
  | zero => simp [exactly]
  | succ wanted ih =>
      cases count with
      | zero =>
          rcases iterates.stops with mismatch | empty
          · simp [exactly_succ_of_none mismatch, mismatch]
          · simp [exactly_of_empty empty, empty]
      | succ count =>
          obtain ⟨length, found, next, others⟩ := iterates.head
          have advance : ∀ last, 1 ≤ last → last ≤ count + 1 →
              length + 1 + (position last - position 1) =
                position last - position 0 := by
            intro last started made
            have later := iterates.position_le started made
            omega
          rw [exactly_succ_of_moves found, List.drop_drop, ← next, ih others]
          by_cases enough : wanted ≤ count
          · rw [if_pos enough, if_pos (Nat.succ_le_succ enough),
              Option.map_some, advance _ (Nat.le_add_left _ _)
              (Nat.succ_le_succ enough)]
          · have fewer : ¬ wanted + 1 ≤ count + 1 := by omega
            rw [if_neg enough, if_neg fewer, Option.map_map]
            congr 1
            funext _
            exact advance _ (Nat.le_add_left _ _) (Nat.le_refl _)

theorem atMost_eq (iterates : operand.Iterates text position count)
    (most : Nat) :
    atMost operand most (text.drop (position 0)) =
      position (min count most) - position 0 := by
  induction most generalizing position count with
  | zero => simp [atMost]
  | succ most ih =>
      cases count with
      | zero => simp [atMost_of_idle iterates.stops]
      | succ count =>
          obtain ⟨length, found, next, others⟩ := iterates.head
          have later := iterates.position_le
            (Nat.le_add_left 1 (min count most)) (by omega)
          rw [atMost_succ_of_moves found, List.drop_drop, ← next, ih others,
            Nat.add_min_add_right, Nat.zero_add]
          omega

/-- The iterations after the mandatory ones, up to the bound if there is
one. -/
theorem more_eq (iterates : operand.Iterates text position count)
    (inside : operand.Inside) (min : Nat) (max : Option Nat) :
    more min max operand (text.drop (position 0)) =
      position (max.elim count fun max => Nat.min count (max - min)) -
        position 0 := by
  cases max with
  | some max => exact iterates.atMost_eq (max - min)
  | none =>
      have enough := Nat.le_add_left (text.drop (position 0)).length count
      have loop := iterates.atMost_eq
        (count + (text.drop (position 0)).length)
      rw [atMost_eq_many inside enough,
        Nat.min_eq_left (Nat.le_add_right _ _)] at loop
      exact loop

end Iterates

/-- What from `least` to `most` iterations consume, if there are `count` of
them and the operand gives `last` at the position after them.  Where too few
are made, an empty match there stands for all that are missing. -/
def iterated (position : Nat → Nat) (count : Nat) (last : Option Nat)
    (least : Nat) (most : Option Nat) : Option Nat :=
  if least ≤ count then
    some (position (most.elim count (min count)) - position 0)
  else last.map fun _ => position count - position 0

section

variable {operand : Extent} {text : List Char} {position : Nat → Nat}
  {count : Nat}

theorem Iterates.exactly_eq_iterated
    (iterates : operand.Iterates text position count) (wanted : Nat) :
    exactly operand wanted (text.drop (position 0)) =
      iterated position count (operand (text.drop (position count))) wanted
        (some wanted) := by
  rw [iterates.exactly_eq, iterated]
  by_cases enough : wanted ≤ count
  · rw [if_pos enough, if_pos enough, Option.elim_some,
      Nat.min_eq_right enough]
  · rw [if_neg enough, if_neg enough]

theorem Iterates.repeated_eq_iterated
    (iterates : operand.Iterates text position count)
    (inside : operand.Inside) {least : Nat} {most : Option Nat}
    (ordered : ∀ bound ∈ most, least ≤ bound) :
    repeated least most operand (text.drop (position 0)) =
      iterated position count (operand (text.drop (position count))) least
        most := by
  simp only [repeated, iterates.exactly_eq, iterated]
  by_cases enough : least ≤ count
  · have mandatory := iterates.position_le (Nat.zero_le least) enough
    have reached : least ≤ most.elim count (min count) := by
      cases most with
      | none => exact enough
      | some bound => exact Nat.le_min.mpr ⟨enough, ordered bound rfl⟩
    have made : most.elim count (min count) ≤ count := by
      cases most with
      | none => exact Nat.le_refl _
      | some bound => exact Nat.min_le_left _ _
    have others := (iterates.after enough).more_eq inside least most
    have last : least + (most.elim (count - least)
        fun bound => min (count - least) (bound - least)) =
        most.elim count (min count) := by
      cases most with
      | none => exact Nat.add_sub_cancel' enough
      | some bound =>
          have inOrder := ordered bound rfl
          simp only [Option.elim_some]
          omega
    simp only [Nat.add_zero] at others
    have later := iterates.position_le reached made
    simp only [enough, if_true, List.drop_drop,
      Nat.add_sub_cancel' mandatory, others, last, Option.some.injEq]
    omega
  · rcases iterates.stops with mismatch | empty
    · simp only [enough, if_false, mismatch, Option.map_none]
    · have start := iterates.position_le (Nat.zero_le count) (Nat.le_refl _)
      have idle := more_of_idle (.inr empty) least most
      simp only [enough, if_false, empty, Option.map_some, List.drop_drop,
        Nat.add_sub_cancel' start, idle, Nat.add_zero]

end

end Extent

namespace Pattern

/-- From each position to the next one the pattern matches some characters of
the window, and at the last one it mismatches or matches nothing. -/
structure Iterates (pattern : Pattern) (source : Source) (window : Window)
    (position : Nat → Nat) (count : Nat) (last : Option Nat) : Prop where
  starts : position 0 = window.first
  moves : ∀ index < count, ∃ length, 0 < length ∧
    pattern.matchIn source ⟨position index, window.stop⟩ =
      .ok (some length) ∧
    position (index + 1) = position index + length
  stops : pattern.matchIn source ⟨position count, window.stop⟩ = .ok last
  idle : last = none ∨ last = some 0

section

variable {pattern : Pattern} {source : Source} {window : Window}
  {position : Nat → Nat} {count : Nat} {last : Option Nat}

/-- Each iteration leaves less of the window, so there is a last one. -/
theorem Built.exists_iterates (built : pattern.Built)
    (countable : source.Countable) (within : window.Within source) :
    ∃ position count last,
      pattern.Iterates source window position count last := by
  obtain ⟨first, stop⟩ := window
  induction room : stop - first using Nat.strongRecOn
    generalizing first with
  | ind room ih =>
  have run := built.matchIn_eq_extent countable within
  rcases Extent.idle_or_moves pattern.extent (Window.text ⟨first, stop⟩ source)
    with idle | ⟨length, found⟩
  · refine ⟨fun _ => first, 0, _, rfl, ?_, run, idle⟩
    intro index before
    exact absurd before (Nat.not_lt_zero index)
  · rw [found] at run
    have moved := Window.within_advance within (pattern.extent_inside found)
    have ordered : first + (length + 1) ≤ stop := moved.1
    obtain ⟨position, count, last, iterates⟩ :=
      ih (stop - (first + (length + 1))) (by omega) _ moved rfl
    refine ⟨fun index => index.casesOn first position, count + 1, last, rfl,
      ?_, iterates.stops, iterates.idle⟩
    intro index before
    cases index with
    | zero => exact ⟨length + 1, Nat.succ_pos _, run, iterates.starts⟩
    | succ index => exact iterates.moves index (Nat.lt_of_succ_lt_succ before)

namespace Iterates

theorem within (iterates : pattern.Iterates source window position count last)
    (built : pattern.Built) (countable : source.Countable)
    (inside : window.Within source) {index : Nat} (made : index ≤ count) :
    Window.Within ⟨position index, window.stop⟩ source := by
  induction index with
  | zero =>
      rw [iterates.starts]
      exact inside
  | succ index ih =>
      obtain ⟨length, -, run, next⟩ := iterates.moves index made
      have before := ih (Nat.le_of_succ_le made)
      rw [built.matchIn_eq_extent countable before] at run
      rw [next]
      exact Window.within_advance before
        (pattern.extent_inside (Except.ok.inj run))

/-- What the pattern does from the positions on is what its extent says about
the text up to the end of the window. -/
theorem extent (iterates : pattern.Iterates source window position count last)
    (built : pattern.Built) (countable : source.Countable)
    (inside : window.Within source) :
    pattern.extent.Iterates (source.toList.take window.stop) position count ∧
      pattern.extent
        ((source.toList.take window.stop).drop (position count)) = last := by
  have run : ∀ {index}, index ≤ count →
      pattern.matchIn source ⟨position index, window.stop⟩ =
        .ok (pattern.extent
          ((source.toList.take window.stop).drop (position index))) :=
    fun made => built.matchIn_eq_extent countable
      (iterates.within built countable inside made)
  have stopped : pattern.extent
      ((source.toList.take window.stop).drop (position count)) = last :=
    Except.ok.inj ((run (Nat.le_refl _)).symm.trans iterates.stops)
  refine ⟨⟨fun index before => ?_, ?_⟩, stopped⟩
  · obtain ⟨length, positive, found, next⟩ := iterates.moves index before
    obtain ⟨previous, rfl⟩ := Nat.exists_eq_add_one.mpr positive
    rw [run (Nat.le_of_lt before)] at found
    exact ⟨previous, Except.ok.inj found, next⟩
  · rw [stopped]
    exact iterates.idle

/-- A pattern that repeats this one gives what the iterations consume. -/
theorem matchIn_eq (iterates : pattern.Iterates source window position count
    last) (built : pattern.Built) (countable : source.Countable)
    (inside : window.Within source) {quantified : Pattern}
    (quantifiedBuilt : quantified.Built) {least : Nat} {most : Option Nat}
    (ordered : ∀ bound ∈ most, least ≤ bound)
    (repeats : quantified.extent =
      Extent.repeated least most pattern.extent) :
    quantified.matchIn source window =
      .ok (Extent.iterated position count last least most) := by
  obtain ⟨steps, stopped⟩ := iterates.extent built countable inside
  have loop := steps.repeated_eq_iterated pattern.extent_inside ordered
  rw [stopped, iterates.starts] at loop
  rw [quantifiedBuilt.matchIn_eq_extent countable inside, repeats]
  exact congrArg Except.ok loop

theorem matchIn_rep_eq (iterates : pattern.Iterates source window position
    count last) (built : pattern.Built) (countable : source.Countable)
    (inside : window.Within source) (wanted : Nat) :
    (pattern.rep wanted).matchIn source window =
      .ok (Extent.iterated position count last wanted (some wanted)) := by
  obtain ⟨steps, stopped⟩ := iterates.extent built countable inside
  have loop := steps.exactly_eq_iterated wanted
  rw [stopped, iterates.starts] at loop
  rw [(built.rep wanted).matchIn_eq_extent countable inside, extent_rep]
  exact congrArg Except.ok loop

end Iterates

end

/-- The iterations of a pattern come to an end, and they settle what all its
quantifiers consume.  A quantifier that asks for no iteration matches
everywhere. -/
theorem quantifiers_eq_iterated {pattern : Pattern} {source : Source}
    {window : Window} (built : pattern.Built) (countable : source.Countable)
    (within : window.Within source) :
    (∃ position count last,
      pattern.Iterates source window position count last) ∧
    (∀ position count last,
      pattern.Iterates source window position count last →
      (∀ least most, least ≤ most →
        ∃ repeated, pattern.times least most = .ok repeated ∧
          repeated.matchIn source window =
            .ok (Extent.iterated position count last least (some most))) ∧
      (∀ least, (pattern.atLeast least).matchIn source window =
        .ok (Extent.iterated position count last least none)) ∧
      (∀ most, (pattern.atMost most).matchIn source window =
        .ok (Extent.iterated position count last 0 (some most))) ∧
      pattern.many.matchIn source window =
        .ok (Extent.iterated position count last 0 none) ∧
      pattern.many1.matchIn source window =
        .ok (Extent.iterated position count last 1 none) ∧
      ∀ wanted, (pattern.rep wanted).matchIn source window =
        .ok (Extent.iterated position count last wanted (some wanted))) ∧
    (∃ length, pattern.many.matchIn source window = .ok (some length)) ∧
    (∀ most, ∃ length,
      (pattern.atMost most).matchIn source window = .ok (some length)) ∧
    ∃ length, pattern.opt.matchIn source window = .ok (some length) := by
  obtain ⟨position, count, last, iterates⟩ :=
    built.exists_iterates countable within
  refine ⟨⟨position, count, last, iterates⟩, ?_, ?_, ?_, ?_⟩
  · intro position count last iterates
    refine ⟨fun least most ordered => ?_, fun least => ?_, fun most => ?_,
      ?_, ?_, iterates.matchIn_rep_eq built countable within⟩
    · exact ⟨pattern.between least most ordered, dif_pos ordered,
        iterates.matchIn_eq built countable within (built.between ordered)
          (by simpa using ordered) (extent_between ordered pattern)⟩
    · exact iterates.matchIn_eq built countable within (built.atLeast least)
        (by simp) (extent_atLeast least pattern)
    · exact iterates.matchIn_eq built countable within (built.atMost most)
        (by simp) (extent_atMost most pattern)
    · exact iterates.matchIn_eq built countable within built.many
        (by simp) (extent_atLeast 0 pattern)
    · exact iterates.matchIn_eq built countable within built.many1
        (by simp) (extent_atLeast 1 pattern)
  · exact ⟨_, iterates.matchIn_eq built countable within built.many
      (by simp) (extent_atLeast 0 pattern)⟩
  · intro most
    exact ⟨_, iterates.matchIn_eq built countable within (built.atMost most)
      (by simp) (extent_atMost most pattern)⟩
  · have run := built.opt.matchIn_eq_extent countable within
    rw [extent_opt] at run
    exact ⟨_, run⟩

/-- Five iterations are asked for and two can be made.  An operand that matches
nothing after them stands for the missing ones; one that mismatches does not. -/
theorem quantifiers_eq_iterated_early_stop :
    (ofChar 'a').opt.Built ∧
      Source.Countable (.buffer #['x', 'a', 'a', 'b']) ∧
      Window.Within ⟨1, 4⟩ (.buffer #['x', 'a', 'a', 'b']) ∧
      ((ofChar 'a').opt.rep 5).matchIn (.buffer #['x', 'a', 'a', 'b'])
        ⟨1, 4⟩ = .ok (some 2) ∧
      ((ofChar 'a').atLeast 5).matchIn (.buffer #['x', 'a', 'a', 'b'])
        ⟨1, 4⟩ = .ok none := by
  have countable : Source.Countable (.buffer #['x', 'a', 'a', 'b']) := by
    decide
  have within : Window.Within ⟨1, 4⟩ (.buffer #['x', 'a', 'a', 'b']) := by
    decide
  have letter : (ofChar 'a').Built := .ofPredicate _
  have steps : ∀ {pattern : Pattern}, (∀ first, first = 1 ∨ first = 2 →
      pattern.matchIn (.buffer #['x', 'a', 'a', 'b']) ⟨first, 4⟩ =
        .ok (some 1)) → ∀ index < 2, ∃ length, 0 < length ∧
      pattern.matchIn (.buffer #['x', 'a', 'a', 'b']) ⟨index + 1, 4⟩ =
        .ok (some length) ∧ index + 1 + 1 = index + 1 + length := by
    intro pattern moves index before
    exact ⟨1, Nat.one_pos, moves _ (by omega), rfl⟩
  have optional : (ofChar 'a').opt.Iterates (.buffer #['x', 'a', 'a', 'b'])
      ⟨1, 4⟩ (· + 1) 2 (some 0) :=
    ⟨rfl, steps (by rintro _ (rfl | rfl) <;> rfl), rfl, .inr rfl⟩
  have single : (ofChar 'a').Iterates (.buffer #['x', 'a', 'a', 'b'])
      ⟨1, 4⟩ (· + 1) 2 none :=
    ⟨rfl, steps (by rintro _ (rfl | rfl) <;> rfl), rfl, .inl rfl⟩
  refine ⟨letter.opt, countable, within, ?_, ?_⟩
  · exact ((quantifiers_eq_iterated letter.opt countable within).2.1 _ _ _
      optional).2.2.2.2.2 5
  · exact ((quantifiers_eq_iterated letter countable within).2.1 _ _ _
      single).2.1 5

end Pattern

end TextPattern
