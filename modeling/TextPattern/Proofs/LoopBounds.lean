import TextPattern.Proofs.Iterations

/-!
# How long the loops run

The counts of a repetition may be far beyond any window.  The loops do not
follow them: an iteration that consumes nothing is the last one, and the others
use up the window.  So a count beyond the width of the window can be replaced by
the width, for the mandatory iterations by one more, and the loop without a
count ends as well.
-/

namespace TextPattern

namespace Pattern

section

variable {pattern : Pattern} {source : Source} {position stop : Nat}

theorem Built.exactlyFrom_eq_ok (built : pattern.Built)
    (countable : source.Countable)
    (within : Window.Within ⟨position, stop⟩ source) (count : Nat) :
    Matcher.exactlyFrom pattern.matcher source stop count position =
      .ok ((Extent.exactly pattern.extent count
        (Window.text ⟨position, stop⟩ source)).map (position + ·)) :=
  Matcher.exactlyFrom_eq_ok built.ordered.adequate count countable within

theorem Built.atMostFrom_eq_ok (built : pattern.Built)
    (countable : source.Countable)
    (within : Window.Within ⟨position, stop⟩ source) (count : Nat) :
    Matcher.atMostFrom pattern.matcher source stop count position =
      .ok (position + Extent.atMost pattern.extent count
        (Window.text ⟨position, stop⟩ source)) :=
  Matcher.atMostFrom_eq_ok built.ordered.adequate count countable within

theorem Built.manyFrom_eq_ok (built : pattern.Built)
    (countable : source.Countable)
    (within : Window.Within ⟨position, stop⟩ source) :
    Matcher.manyFrom pattern.matcher source stop position =
      .ok (position + Extent.many pattern.extent
        (Window.text ⟨position, stop⟩ source)) :=
  Matcher.manyFrom_eq_ok built.ordered.adequate countable within
    (Nat.le_refl _)

/-- The loop without a count ends where the pattern does not move on. -/
theorem Built.matchIn_after_many (built : pattern.Built)
    (countable : source.Countable)
    (within : Window.Within ⟨position, stop⟩ source) {last : Nat}
    (ended : Matcher.manyFrom pattern.matcher source stop position =
      .ok last) :
    Window.Within ⟨last, stop⟩ source ∧
      (pattern.matchIn source ⟨last, stop⟩ = .ok none ∨
        pattern.matchIn source ⟨last, stop⟩ = .ok (some 0)) := by
  rw [built.manyFrom_eq_ok countable within, Except.ok.injEq] at ended
  subst ended
  have consumed : Extent.many pattern.extent
      (Window.text ⟨position, stop⟩ source) ≤
      (Window.text ⟨position, stop⟩ source).length :=
    Extent.atMost_le pattern.extent_inside _ _
  have reached := Window.within_advance within consumed
  refine ⟨reached, ?_⟩
  rw [built.matchIn_eq_ok_iff countable reached,
    built.matchIn_eq_ok_iff countable reached, Window.text_advance]
  exact Extent.many_stops pattern.extent_inside _

variable {window : Window} {positions : Nat → Nat} {count : Nat}
  {last : Option Nat}

/-- Each iteration consumes a character. -/
theorem Iterates.add_le
    (iterates : pattern.Iterates source window positions count last)
    {index : Nat} (made : index ≤ count) :
    window.first + index ≤ positions index := by
  induction index with
  | zero => exact Nat.le_of_eq iterates.starts.symm
  | succ index ih =>
      obtain ⟨length, moves, -, next⟩ := iterates.moves index made
      have before := ih (Nat.le_of_succ_le made)
      omega

theorem Iterates.count_le
    (iterates : pattern.Iterates source window positions count last)
    (built : pattern.Built) (countable : source.Countable)
    (within : window.Within source) :
    count ≤ window.stop - window.first := by
  have consumed := iterates.add_le (Nat.le_refl count)
  have reached := iterates.within built countable within (Nat.le_refl count)
  have inside : positions count ≤ window.stop := reached.1
  omega

/-- There are no more iterations that consume something than the window has
characters, and no loop needs a greater count, whatever it is given: as many as
the width for the optional iterations, one more for the mandatory ones, whose
last attempt is at the end of the window.  So the loop without a count ends,
where the pattern mismatches or matches nothing. -/
theorem loops_end_with_window (built : pattern.Built)
    (countable : source.Countable)
    (within : Window.Within ⟨position, stop⟩ source) :
    (∀ positions count last,
      pattern.Iterates source ⟨position, stop⟩ positions count last →
        count ≤ stop - position) ∧
    (∀ count, ∃ result,
      Matcher.exactlyFrom pattern.matcher source stop count position =
        .ok result ∧
      Matcher.exactlyFrom pattern.matcher source stop
        (min count (stop - position + 1)) position = .ok result) ∧
    (∀ max, ∃ last,
      Matcher.atMostFrom pattern.matcher source stop max position =
        .ok last ∧
      Matcher.atMostFrom pattern.matcher source stop
        (min max (stop - position)) position = .ok last) ∧
    ∃ last,
      Matcher.manyFrom pattern.matcher source stop position = .ok last ∧
      Matcher.atMostFrom pattern.matcher source stop (stop - position)
        position = .ok last ∧
      position ≤ last ∧ last ≤ stop ∧
      (pattern.matchIn source ⟨last, stop⟩ = .ok none ∨
        pattern.matchIn source ⟨last, stop⟩ = .ok (some 0)) := by
  have width : (Window.text ⟨position, stop⟩ source).length =
      stop - position := Window.length_text within
  refine ⟨?_, fun count => ?_, fun max => ?_, ?_⟩
  · intro positions count last iterates
    exact iterates.count_le built countable within
  · refine ⟨_, built.exactlyFrom_eq_ok countable within count, ?_⟩
    rw [built.exactlyFrom_eq_ok countable within, ← width,
      ← Extent.exactly_eq_min pattern.extent_inside]
  · refine ⟨_, built.atMostFrom_eq_ok countable within max, ?_⟩
    rw [built.atMostFrom_eq_ok countable within, ← width,
      ← Extent.atMost_eq_min pattern.extent_inside]
  · have ended := built.manyFrom_eq_ok countable within
    obtain ⟨reached, idle⟩ :=
      built.matchIn_after_many countable within ended
    refine ⟨_, ended, ?_, Nat.le_add_right _ _, reached.1, idle⟩
    rw [built.atMostFrom_eq_ok countable within, ← width]
    rfl

/-- The greatest count there is, over a pattern that matches nothing at the end
of the window: three iterations do the same. -/
theorem loops_end_with_window_greatest_count :
    (ofChar 'a').opt.Built ∧
      Source.Countable (.buffer #['x', 'a', 'a', 'b']) ∧
      Window.Within ⟨1, 3⟩ (.buffer #['x', 'a', 'a', 'b']) ∧
      ∃ result,
        Matcher.exactlyFrom (ofChar 'a').opt.matcher
          (.buffer #['x', 'a', 'a', 'b']) 3 18446744073709551615 1 =
            .ok result ∧
        Matcher.exactlyFrom (ofChar 'a').opt.matcher
          (.buffer #['x', 'a', 'a', 'b']) 3 3 1 = .ok result := by
  have built : (ofChar 'a').opt.Built := (Built.ofPredicate _).opt
  have countable : Source.Countable (.buffer #['x', 'a', 'a', 'b']) := by
    decide
  have within : Window.Within ⟨1, 3⟩ (.buffer #['x', 'a', 'a', 'b']) := by
    decide
  obtain ⟨-, mandatory, -⟩ := loops_end_with_window built countable within
  exact ⟨built, countable, within, mandatory 18446744073709551615⟩

/-- One iteration more than the window has characters makes a difference. -/
example :
    Matcher.exactlyFrom (ofChar 'a').matcher (.buffer #['a']) 1 1 0 =
        .ok (some 1) ∧
      Matcher.exactlyFrom (ofChar 'a').matcher (.buffer #['a']) 1 2 0 =
        .ok none :=
  ⟨rfl, rfl⟩

end

end Pattern

end TextPattern
