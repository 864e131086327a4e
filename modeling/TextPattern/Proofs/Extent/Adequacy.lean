import TextPattern.Proofs.Extent.Inside
import TextPattern.Proofs.WindowText

/-!
# Matchers compute extents

In a window that lies in its source, running a pattern meets no fault and
gives the extent of the pattern on the text of the window.  The arithmetic
never leaves its domain because an operand that matched has stayed inside the
window, so that the position after it is again one of the window.

The only node that can fail is a repetition whose bounds are out of order,
which no pattern that is built contains.
-/

namespace TextPattern

namespace Count

theorem add_eq_ok {m n : Nat} (bound : m + n < limit) :
    add m n = .ok (m + n) := by
  simp [add, bound]

theorem sub_eq_ok {m n : Nat} (ordered : n ≤ m) : sub m n = .ok (m - n) := by
  simp [sub, ordered]

end Count

namespace Window

theorem width_eq_ok {window : Window} {source : Source}
    (within : window.Within source) :
    window.width = .ok (window.text source).length := by
  rw [length_text within]
  exact Count.sub_eq_ok within.1

/-- A position reached inside the window starts a window again. -/
theorem within_advance {first stop count : Nat} {source : Source}
    (within : Within ⟨first, stop⟩ source)
    (bound : count ≤ (text ⟨first, stop⟩ source).length) :
    Within ⟨first + count, stop⟩ source := by
  rw [length_text within] at bound
  have ordered : first ≤ stop := within.1
  simp only at bound
  exact ⟨by simp only; omega, within.2⟩

/-- The sum for a position inside the window stays below the limit. -/
theorem add_eq_ok {first stop count : Nat} {source : Source}
    (countable : source.Countable)
    (within : Within ⟨first + count, stop⟩ source) :
    Count.add first count = .ok (first + count) :=
  Count.add_eq_ok
    (Nat.lt_of_le_of_lt (Nat.le_trans within.1 within.2) countable)

end Window

namespace Matcher

/-- The matcher finds the extent in every window that it may be asked about. -/
def Computes (matcher : Matcher) (extent : Extent) : Prop :=
  ∀ ⦃source : Source⦄ ⦃window : Window⦄, source.Countable →
    window.Within source →
    matcher source window = .ok (extent (window.text source))

theorem guarded_computes {body : Matcher} {extent : Extent}
    (computes : body.Computes extent) : (guarded body).Computes extent := by
  intro source window countable within
  simp only [guarded, within, if_true]
  exact computes countable within

/-! ## Leaves -/

theorem char_computes (predicate : Predicate) :
    (char predicate).Computes (Extent.char predicate) := by
  intro source window countable within
  have width := Window.length_text within
  cases shown : window.text source with
  | nil =>
      rw [shown] at width
      have closed : ¬ window.first < window.stop := by
        simp only [List.length_nil] at width
        omega
      simp [char, closed, Extent.char]
  | cons c rest =>
      rw [shown] at width
      have opened : window.first < window.stop := by
        simp only [List.length_cons] at width
        omega
      have head : window.read source window.first = .ok c :=
        Window.read_eq_ok (Nat.le_refl _) shown
      simp only [char, opened, if_true, head]
      rfl

theorem hasAtLeast_computes (count : Nat) :
    (hasAtLeast count).Computes (Extent.hasAtLeast count) := by
  intro source window countable within
  simp only [hasAtLeast, Window.width_eq_ok within]
  rfl

theorem hasExact_computes (count : Nat) :
    (hasExact count).Computes (Extent.hasExact count) := by
  intro source window countable within
  simp only [hasExact, Window.width_eq_ok within]
  rfl

/-- Comparing character by character, each of them inside the window. -/
theorem agreesAt_eq_ok {rule : CaseRule} {source : Source} {window : Window}
    {contents : List Char} {index : Nat} (countable : source.Countable)
    (started : window.first ≤ index)
    (within : Window.Within ⟨index, window.stop⟩ source)
    (bound : contents.length ≤
      (Window.text ⟨index, window.stop⟩ source).length) :
    agreesAt rule source window contents index =
      .ok (Extent.startsWith rule contents
        (Window.text ⟨index, window.stop⟩ source)) := by
  induction contents generalizing index with
  | nil => simp [agreesAt, Extent.startsWith]
  | cons expected contents ih =>
      cases shown : Window.text ⟨index, window.stop⟩ source with
      | nil =>
          rw [shown] at bound
          simp at bound
      | cons actual rest =>
          have head : window.read source index = .ok actual :=
            Window.read_eq_ok started shown
          have nextWithin : Window.Within ⟨index + 1, window.stop⟩ source :=
            Window.within_advance within (by simp [shown])
          have nextText :
              Window.text ⟨index + 1, window.stop⟩ source = rest := by
            rw [Window.text_advance, shown]
            rfl
          have nextIndex : Count.add index 1 = .ok (index + 1) :=
            Window.add_eq_ok countable nextWithin
          have tail := ih (Nat.le_succ_of_le started) nextWithin (by
            rw [shown] at bound
            rw [nextText]
            simpa using bound)
          rw [nextText] at tail
          simp only [agreesAt, head, Extent.startsWith]
          cases agrees : rule.agree actual expected with
          | false => simp [bind, Except.bind, agrees, pure, Except.pure]
          | true => simp [bind, Except.bind, agrees, nextIndex, tail]

theorem literal_computes (rule : CaseRule) (contents : List Char) :
    (literal rule contents).Computes (Extent.literal rule contents) := by
  intro source window countable within
  simp only [literal, Window.width_eq_ok within, Extent.literal]
  by_cases short : (window.text source).length < contents.length
  · have differs :
        Extent.startsWith rule contents (window.text source) = false := by
      rw [Bool.eq_false_iff]
      intro starts
      have bound := Extent.startsWith_length starts
      omega
    simp [bind, Except.bind, short, differs, pure, Except.pure]
  · have compared : agreesAt rule source window contents window.first =
        .ok (Extent.startsWith rule contents (window.text source)) :=
      agreesAt_eq_ok countable (Nat.le_refl _) within (Nat.le_of_not_gt short)
    simp only [bind, Except.bind, short, if_false, compared]
    split <;> rfl

theorem notLiteral_computes (rule : CaseRule) (contents : List Char) :
    (notLiteral rule contents).Computes
      (Extent.notLiteral rule contents) := by
  intro source window countable within
  have width := Window.length_text within
  have inner := literal_computes rule contents countable within
  cases shown : window.text source with
  | nil =>
      rw [shown] at width
      have closed : window.stop ≤ window.first := by
        simp only [List.length_nil] at width
        omega
      simp [notLiteral, closed, Extent.notLiteral]
  | cons c rest =>
      rw [shown] at width inner
      have opened : ¬ window.stop ≤ window.first := by
        simp only [List.length_cons] at width
        omega
      simp only [notLiteral, opened, if_false, inner, Extent.literal,
        Extent.notLiteral]
      cases Extent.startsWith rule contents (c :: rest) <;> rfl

theorem regex_computes (compiled : Regex) :
    (regex compiled).Computes compiled.matchLength := by
  intro source window countable within
  simp only [regex, Window.copy_eq_text within]
  rfl

end Matcher

namespace Pattern

/-- Running the pattern gives its extent. -/
def Adequate (pattern : Pattern) : Prop :=
  pattern.matcher.Computes pattern.extent

/-- What one attempt inside a window does: it mismatches, or it moves on to a
position where a window starts again. -/
theorem Adequate.attempt {operand : Pattern} (adequate : operand.Adequate)
    {source : Source} {position stop : Nat} (countable : source.Countable)
    (within : Window.Within ⟨position, stop⟩ source) :
    (operand.matcher source ⟨position, stop⟩ = .ok none ∧
      operand.extent (Window.text ⟨position, stop⟩ source) = none) ∨
    ∃ length,
      operand.matcher source ⟨position, stop⟩ = .ok (some length) ∧
      operand.extent (Window.text ⟨position, stop⟩ source) = some length ∧
      Count.add position length = .ok (position + length) ∧
      Window.Within ⟨position + length, stop⟩ source := by
  have run := adequate countable within
  cases found : operand.extent (Window.text ⟨position, stop⟩ source) with
  | none =>
      rw [found] at run
      exact .inl ⟨run, rfl⟩
  | some length =>
      rw [found] at run
      have moved := Window.within_advance within
        (operand.extent_inside found)
      exact .inr ⟨length, run, rfl, Window.add_eq_ok countable moved, moved⟩

end Pattern

namespace Matcher

open Pattern (Adequate)

variable {operands : List Pattern} {operand : Pattern}
  {source : Source} {position stop : Nat}

/-! ## Several operands -/

theorem sequenceFrom_eq_ok
    (adequate : ∀ operand ∈ operands, operand.Adequate)
    (countable : source.Countable)
    (within : Window.Within ⟨position, stop⟩ source) :
    sequenceFrom source stop (operands.map Pattern.matcher) position =
      .ok ((Extent.sequence (operands.map Pattern.extent)
        (Window.text ⟨position, stop⟩ source)).map (position + ·)) := by
  induction operands generalizing position with
  | nil => simp [sequenceFrom, Extent.sequence]
  | cons operand operands ih =>
      have tailAdequate : ∀ other ∈ operands, other.Adequate :=
        fun other member => adequate other (List.mem_cons_of_mem _ member)
      rcases (adequate operand List.mem_cons_self).attempt countable within
        with ⟨run, found⟩ | ⟨length, run, found, sum, moved⟩
      · simp only [List.map_cons, sequenceFrom, run, Extent.sequence, found]
        rfl
      · have tail := ih tailAdequate moved
        rw [Window.text_advance] at tail
        simp only [List.map_cons, sequenceFrom, run, Extent.sequence, found,
          bind, Except.bind, sum, tail, Option.map_map, Except.ok.injEq]
        congr 1
        funext rest
        exact Nat.add_assoc position length rest

theorem sequence_computes
    (adequate : ∀ operand ∈ operands, operand.Adequate) :
    (sequence (operands.map Pattern.matcher)).Computes
      (Extent.sequence (operands.map Pattern.extent)) := by
  intro source window countable within
  simp only [sequence, sequenceFrom_eq_ok adequate countable within]
  cases Extent.sequence (operands.map Pattern.extent)
      (window.text source) with
  | none => rfl
  | some length =>
      have difference : Count.sub (window.first + length) window.first =
          .ok length := by
        rw [Count.sub_eq_ok (Nat.le_add_right _ _), Nat.add_sub_cancel_left]
      simp only [Option.map_some, bind, Except.bind, difference]
      rfl

theorem choice_computes
    (adequate : ∀ operand ∈ operands, operand.Adequate) :
    (choice (operands.map Pattern.matcher)).Computes
      (Extent.choice (operands.map Pattern.extent)) := by
  intro source window countable within
  induction operands with
  | nil => rfl
  | cons operand operands ih =>
      have tail := ih fun other member =>
        adequate other (List.mem_cons_of_mem _ member)
      have head := adequate operand List.mem_cons_self countable within
      simp only [List.map_cons, choice, head, Extent.choice,
        List.findSome?_cons]
      cases operand.extent (window.text source) with
      | none => exact tail
      | some length => rfl

theorem conjunctionFrom_eq_ok {window : Window}
    (adequate : ∀ operand ∈ operands, operand.Adequate) (longest : Nat)
    (countable : source.Countable) (within : window.Within source) :
    conjunctionFrom (operands.map Pattern.matcher) longest source window =
      .ok ((Extent.conjunction (operands.map Pattern.extent)
        (window.text source)).map (max longest ·)) := by
  induction operands generalizing longest with
  | nil => simp [conjunctionFrom, Extent.conjunction]
  | cons operand operands ih =>
      have tail := fun kept => ih (fun other member =>
        adequate other (List.mem_cons_of_mem _ member)) kept
      have head := adequate operand List.mem_cons_self countable within
      simp only [List.map_cons, conjunctionFrom, head, Extent.conjunction]
      cases operand.extent (window.text source) with
      | none => rfl
      | some length =>
          simp only [bind, Except.bind, tail]
          cases Extent.conjunction (operands.map Pattern.extent)
              (window.text source) with
          | none => rfl
          | some rest => simp [Nat.max_assoc]

theorem conjunction_computes
    (adequate : ∀ operand ∈ operands, operand.Adequate) :
    (conjunction (operands.map Pattern.matcher)).Computes
      (Extent.conjunction (operands.map Pattern.extent)) := by
  intro source window countable within
  rw [conjunction, conjunctionFrom_eq_ok adequate 0 countable within]
  simp

/-- A selection goes through the operands with the best length so far.  Taken
together with that length, the lengths found have the same best element. -/
theorem selectFrom_eq_ok {window : Window} {better : Nat → Nat → Bool}
    {pick : Nat → Nat → Nat}
    (picks : ∀ held length,
      (if better length held then length else held) = pick held length)
    (adequate : ∀ operand ∈ operands, operand.Adequate)
    (best : Option Nat) (countable : source.Countable)
    (within : window.Within source) :
    selectFrom better (operands.map Pattern.matcher) best source window =
      .ok ((Extent.lengths (operands.map Pattern.extent)
        (window.text source)).foldl
          (fun held length => some (held.elim length (pick · length)))
          best) := by
  induction operands generalizing best with
  | nil => rfl
  | cons operand operands ih =>
      have tail := fun kept => ih (fun other member =>
        adequate other (List.mem_cons_of_mem _ member)) kept
      have head := adequate operand List.mem_cons_self countable within
      simp only [List.map_cons, selectFrom, head, Extent.lengths,
        List.filterMap_cons]
      cases operand.extent (window.text source) with
      | none => exact tail best
      | some length =>
          cases best with
          | none => exact tail (some length)
          | some held =>
              simp only [bind, Except.bind, picks]
              exact tail (some (pick held length))

theorem foldl_pick_some (pick : Nat → Nat → Nat) (lengths : List Nat)
    (best : Nat) :
    lengths.foldl
        (fun held length => some (held.elim length (pick · length)))
        (some best) =
      some (lengths.foldl pick best) := by
  induction lengths generalizing best with
  | nil => rfl
  | cons length lengths ih => exact ih (pick best length)

theorem longest_computes
    (adequate : ∀ operand ∈ operands, operand.Adequate) :
    (longest (operands.map Pattern.matcher)).Computes
      (Extent.longest (operands.map Pattern.extent)) := by
  intro source window countable within
  have picks : ∀ held length : Nat,
      (if decide (held < length) = true then length else held) =
        max held length := by
    intro held length
    simp only [decide_eq_true_eq]
    split <;> omega
  rw [longest, selectFrom_eq_ok picks adequate none countable within,
    Extent.longest]
  cases Extent.lengths (operands.map Pattern.extent) (window.text source) with
  | nil => rfl
  | cons length lengths =>
      rw [List.max?_cons', ← foldl_pick_some]
      rfl

theorem shortest_computes
    (adequate : ∀ operand ∈ operands, operand.Adequate) :
    (shortest (operands.map Pattern.matcher)).Computes
      (Extent.shortest (operands.map Pattern.extent)) := by
  intro source window countable within
  have picks : ∀ held length : Nat,
      (if decide (length < held) = true then length else held) =
        min held length := by
    intro held length
    simp only [decide_eq_true_eq]
    split <;> omega
  rw [shortest, selectFrom_eq_ok picks adequate none countable within,
    Extent.shortest]
  cases Extent.lengths (operands.map Pattern.extent) (window.text source) with
  | nil => rfl
  | cons length lengths =>
      rw [List.min?_cons', ← foldl_pick_some]
      rfl

/-! ## One operand -/

theorem negation_computes (adequate : operand.Adequate) :
    (negation operand.matcher).Computes
      (Extent.negation operand.extent) := by
  intro source window countable within
  simp only [negation, adequate countable within, Extent.negation]
  cases operand.extent (window.text source) <;> rfl

theorem lookahead_computes (adequate : operand.Adequate) :
    (lookahead operand.matcher).Computes
      (Extent.lookahead operand.extent) := by
  intro source window countable within
  simp only [lookahead, adequate countable within, Extent.lookahead]
  cases operand.extent (window.text source) <;> rfl

theorem optional_computes (adequate : operand.Adequate) :
    (optional operand.matcher).Computes
      (Extent.optional operand.extent) := by
  intro source window countable within
  simp only [optional, adequate countable within, Extent.optional]
  cases operand.extent (window.text source) <;> rfl

theorem conditional_computes {condition consequence alternative : Pattern}
    (conditionAdequate : condition.Adequate)
    (consequenceAdequate : consequence.Adequate)
    (alternativeAdequate : alternative.Adequate) :
    (conditional condition.matcher consequence.matcher
      alternative.matcher).Computes
      (Extent.conditional condition.extent consequence.extent
        alternative.extent) := by
  rintro source ⟨first, stop⟩ countable within
  rcases conditionAdequate.attempt countable within
    with ⟨run, found⟩ | ⟨head, run, found, sum, moved⟩
  · simp only [conditional, run, Extent.conditional, found]
    exact alternativeAdequate countable within
  · have advanced : Window.advance ⟨first, stop⟩ head =
        .ok ⟨first + head, stop⟩ := by
      simp only [Window.advance, sum]
      rfl
    rcases consequenceAdequate.attempt countable moved
      with ⟨tailRun, tailFound⟩ | ⟨tail, tailRun, tailFound, _, tailMoved⟩
    · rw [Window.text_advance] at tailFound
      simp only [conditional, run, Extent.conditional, found, bind,
        Except.bind, advanced, tailRun, tailFound]
      rfl
    · rw [Window.text_advance] at tailFound
      have total : Count.add head tail = .ok (head + tail) := by
        have limit : first + head + tail < Count.limit :=
          Nat.lt_of_le_of_lt
            (Nat.le_trans tailMoved.1 tailMoved.2) countable
        exact Count.add_eq_ok (by omega)
      simp only [conditional, run, Extent.conditional, found, bind,
        Except.bind, advanced, tailRun, tailFound, total]
      rfl

/-! ## Repetition -/

theorem exactlyFrom_eq_ok (adequate : operand.Adequate) (count : Nat)
    (countable : source.Countable)
    (within : Window.Within ⟨position, stop⟩ source) :
    exactlyFrom operand.matcher source stop count position =
      .ok ((Extent.exactly operand.extent count
        (Window.text ⟨position, stop⟩ source)).map (position + ·)) := by
  induction count generalizing position with
  | zero => simp [exactlyFrom, Extent.exactly]
  | succ count ih =>
      rcases adequate.attempt countable within
        with ⟨run, found⟩ | ⟨length, run, found, sum, moved⟩
      · simp only [exactlyFrom, run, Extent.exactly, found]
        rfl
      · cases length with
        | zero =>
            simp only [exactlyFrom, run, Extent.exactly, found]
            rfl
        | succ length =>
            have tail := ih moved
            rw [Window.text_advance] at tail
            simp only [exactlyFrom, run, Extent.exactly, found, bind,
              Except.bind, sum, tail, Option.map_map, Except.ok.injEq]
            congr 1
            funext rest
            exact Nat.add_assoc position (length + 1) rest

theorem exactly_computes (adequate : operand.Adequate) (count : Nat) :
    (exactly count operand.matcher).Computes
      (Extent.exactly operand.extent count) := by
  intro source window countable within
  simp only [exactly, exactlyFrom_eq_ok adequate count countable within]
  cases Extent.exactly operand.extent count (window.text source) with
  | none => rfl
  | some length =>
      have difference : Count.sub (window.first + length) window.first =
          .ok length := by
        rw [Count.sub_eq_ok (Nat.le_add_right _ _), Nat.add_sub_cancel_left]
      simp only [Option.map_some, bind, Except.bind, difference]
      rfl

theorem atMostFrom_eq_ok (adequate : operand.Adequate) (count : Nat)
    (countable : source.Countable)
    (within : Window.Within ⟨position, stop⟩ source) :
    atMostFrom operand.matcher source stop count position =
      .ok (position + Extent.atMost operand.extent count
        (Window.text ⟨position, stop⟩ source)) := by
  induction count generalizing position with
  | zero => rfl
  | succ count ih =>
      rcases adequate.attempt countable within
        with ⟨run, found⟩ | ⟨length, run, found, sum, moved⟩
      · simp only [atMostFrom, run, Extent.atMost, found]
        rfl
      · cases length with
        | zero =>
            simp only [atMostFrom, run, Extent.atMost, found]
            rfl
        | succ length =>
            have tail := ih moved
            rw [Window.text_advance] at tail
            simp only [atMostFrom, run, Extent.atMost, found, bind,
              Except.bind, sum, tail, Except.ok.injEq]
            omega

/-- The loop without a bound ends like the bounded one, as soon as the bound
reaches the length of the text. -/
theorem manyFrom_eq_ok (adequate : operand.Adequate) {count : Nat}
    (countable : source.Countable)
    (within : Window.Within ⟨position, stop⟩ source)
    (enough : (Window.text ⟨position, stop⟩ source).length ≤ count) :
    manyFrom operand.matcher source stop position =
      .ok (position + Extent.atMost operand.extent count
        (Window.text ⟨position, stop⟩ source)) := by
  induction count generalizing position with
  | zero =>
      rw [manyFrom]
      rcases adequate.attempt countable within
        with ⟨run, _⟩ | ⟨length, run, found, _, _⟩
      · simp only [run]
        rfl
      · have bound := operand.extent_inside found
        have empty : length = 0 := by omega
        subst empty
        simp only [run]
        rfl
  | succ count ih =>
      rw [manyFrom]
      rcases adequate.attempt countable within
        with ⟨run, found⟩ | ⟨length, run, found, sum, moved⟩
      · simp only [run, Extent.atMost, found]
        rfl
      · cases length with
        | zero =>
            simp only [run, Extent.atMost, found]
            rfl
        | succ length =>
            have progress :
                position < position + (length + 1) ∧
                  position + (length + 1) ≤ stop :=
              ⟨by omega, moved.1⟩
            have tail := ih moved (by
              rw [Window.text_advance, List.length_drop]
              omega)
            rw [Window.text_advance] at tail
            simp only [run, Extent.atMost, found, bind, Except.bind, sum,
              progress, and_self, if_true, tail, Except.ok.injEq]
            omega

theorem moreFrom_eq_ok (adequate : operand.Adequate) (min : Nat)
    (max : Option Nat) (ordered : ∀ bound ∈ max, min ≤ bound)
    (countable : source.Countable)
    (within : Window.Within ⟨position, stop⟩ source) :
    moreFrom operand.matcher source stop min max position =
      .ok (position + Extent.more min max operand.extent
        (Window.text ⟨position, stop⟩ source)) := by
  cases max with
  | none => exact manyFrom_eq_ok adequate countable within (Nat.le_refl _)
  | some max =>
      have room : Count.sub max min = .ok (max - min) :=
        Count.sub_eq_ok (ordered max rfl)
      simp only [moreFrom, bind, Except.bind, room]
      exact atMostFrom_eq_ok adequate (max - min) countable within

theorem repeated_computes (adequate : operand.Adequate) (min : Nat)
    (max : Option Nat) (ordered : ∀ bound ∈ max, min ≤ bound) :
    (repeated min max operand.matcher).Computes
      (Extent.repeated min max operand.extent) := by
  rintro source ⟨first, stop⟩ countable within
  have mandatory := exactly_computes adequate min countable within
  simp only [repeated, mandatory, Extent.repeated]
  cases found : Extent.exactly operand.extent min
      (Window.text ⟨first, stop⟩ source) with
  | none => rfl
  | some head =>
      have moved : Window.Within ⟨first + head, stop⟩ source :=
        Window.within_advance within
          (Extent.exactly_inside operand.extent_inside min found)
      have sum := Window.add_eq_ok countable moved
      have loop := moreFrom_eq_ok adequate min max ordered countable moved
      have finished := Window.within_advance moved
        (Extent.more_le operand.extent_inside min max _)
      rw [Window.text_advance] at loop finished
      have limit := Nat.lt_of_le_of_lt
        (Nat.le_trans finished.1 finished.2) countable
      have difference := Count.sub_eq_ok (Nat.le_add_right (first + head)
        (Extent.more min max operand.extent
          ((Window.text ⟨first, stop⟩ source).drop head)))
      rw [Nat.add_sub_cancel_left] at difference
      simp only [bind, Except.bind, sum, loop, difference]
      rw [Count.add_eq_ok (by simp only at limit; omega), Nat.add_comm]
      rfl

end Matcher

namespace Pattern

/-- The bounds of a repetition are in order. -/
def BoundsOrdered : Pattern → Prop
  | repeated min max _ => ∀ bound ∈ max, min ≤ bound
  | _ => True

/-- Where all bounds are in order, running a pattern gives its extent. -/
theorem Everywhere.adequate {pattern : Pattern}
    (ordered : pattern.Everywhere BoundsOrdered) : pattern.Adequate := by
  induction ordered with
  | @node pattern bounds _ ih =>
  unfold Adequate
  cases pattern with
  | never =>
      exact Matcher.guarded_computes fun _ _ _ _ => rfl
  | always =>
      exact Matcher.guarded_computes fun _ _ _ _ => rfl
  | char predicate =>
      exact Matcher.guarded_computes (Matcher.char_computes predicate)
  | hasAtLeast count =>
      exact Matcher.guarded_computes (Matcher.hasAtLeast_computes count)
  | hasExact count =>
      exact Matcher.guarded_computes (Matcher.hasExact_computes count)
  | literal text rule =>
      exact Matcher.guarded_computes (Matcher.literal_computes rule text)
  | notLiteral text rule =>
      exact Matcher.guarded_computes (Matcher.notLiteral_computes rule text)
  | regex source compiled =>
      exact Matcher.guarded_computes (Matcher.regex_computes compiled)
  | sequence operands =>
      rw [matcher, matcherList_eq_map, extent, extentList_eq_map]
      exact Matcher.guarded_computes (Matcher.sequence_computes ih)
  | choice operands =>
      rw [matcher, matcherList_eq_map, extent, extentList_eq_map]
      exact Matcher.guarded_computes (Matcher.choice_computes ih)
  | conjunction operands =>
      rw [matcher, matcherList_eq_map, extent, extentList_eq_map]
      exact Matcher.guarded_computes (Matcher.conjunction_computes ih)
  | longest operands =>
      rw [matcher, matcherList_eq_map, extent, extentList_eq_map]
      exact Matcher.guarded_computes (Matcher.longest_computes ih)
  | shortest operands =>
      rw [matcher, matcherList_eq_map, extent, extentList_eq_map]
      exact Matcher.guarded_computes (Matcher.shortest_computes ih)
  | negation operand =>
      exact Matcher.guarded_computes
        (Matcher.negation_computes (ih operand (by simp [operands])))
  | lookahead operand =>
      exact Matcher.guarded_computes
        (Matcher.lookahead_computes (ih operand (by simp [operands])))
  | conditional condition consequence alternative =>
      exact Matcher.guarded_computes
        (Matcher.conditional_computes
          (ih condition (by simp [operands]))
          (ih consequence (by simp [operands]))
          (ih alternative (by simp [operands])))
  | optional operand =>
      exact Matcher.guarded_computes
        (Matcher.optional_computes (ih operand (by simp [operands])))
  | exactly count operand =>
      exact Matcher.guarded_computes
        (Matcher.exactly_computes (ih operand (by simp [operands])) count)
  | repeated min max operand =>
      exact Matcher.guarded_computes
        (Matcher.repeated_computes (ih operand (by simp [operands])) min max
          bounds)

end Pattern

end TextPattern
