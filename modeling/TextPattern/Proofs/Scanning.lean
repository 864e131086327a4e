import TextPattern.Proofs.FaultFreedom
import TextPattern.Scan

/-!
# A scan finds the only tokenization

The spans of a scan are in order and lie in the window, each of them is what
the pattern matches where the span starts, and wherever no span lies the
pattern finds nothing to consume.  No other list of spans has these properties,
so they say all there is to say about a scan.
-/

namespace TextPattern

namespace Pattern

/-- The spans divide a window into matches of the pattern that consume
something and positions at which it consumes nothing. -/
structure Tokenizes (pattern : Pattern) (source : Source) (window : Window)
    (spans : List Span) : Prop where
  inside : ∀ span ∈ spans, window.first ≤ span.first ∧
    span.first < span.stop ∧ span.stop ≤ window.stop
  ordered : spans.Pairwise fun earlier later => earlier.stop ≤ later.first
  matched : ∀ span ∈ spans,
    pattern.matchIn source ⟨span.first, window.stop⟩ =
      .ok (some (span.stop - span.first))
  shown : ∀ span ∈ spans,
    span.text = Window.text ⟨span.first, span.stop⟩ source
  skipped : ∀ position, window.first ≤ position → position < window.stop →
    (∀ span ∈ spans, position < span.first ∨ span.stop ≤ position) →
    pattern.matchIn source ⟨position, window.stop⟩ = .ok none ∨
      pattern.matchIn source ⟨position, window.stop⟩ = .ok (some 0)

section

variable {pattern : Pattern} {source : Source} {position stop : Nat}

/-! ## Tokenizations, one position at a time -/

/-- There is nothing to divide at the end of the window. -/
theorem tokenizes_closed_iff (closed : stop ≤ position)
    {spans : List Span} :
    pattern.Tokenizes source ⟨position, stop⟩ spans ↔ spans = [] := by
  constructor
  · intro tokenizes
    refine List.eq_nil_iff_forall_not_mem.mpr fun span member => ?_
    have bounds := tokenizes.inside span member
    simp only at bounds
    omega
  · intro empty
    rw [empty]
    refine ⟨by simp, .nil, by simp, by simp, ?_⟩
    intro other started before
    simp only at started before
    omega

/-- A position where nothing is consumed belongs to no span. -/
theorem tokenizes_skip_iff
    (idle : pattern.matchIn source ⟨position, stop⟩ = .ok none ∨
      pattern.matchIn source ⟨position, stop⟩ = .ok (some 0))
    {spans : List Span} :
    pattern.Tokenizes source ⟨position, stop⟩ spans ↔
      pattern.Tokenizes source ⟨position + 1, stop⟩ spans := by
  constructor
  · intro tokenizes
    refine ⟨fun span member => ?_, tokenizes.ordered, tokenizes.matched,
      tokenizes.shown, fun other started => ?_⟩
    · obtain ⟨started, nonempty, ended⟩ := tokenizes.inside span member
      have elsewhere : span.first ≠ position := by
        intro here
        have found := tokenizes.matched span member
        rw [here] at found
        rcases idle with mismatch | empty
        · rw [mismatch] at found
          cases found
        · rw [empty] at found
          injection found with same
          injection same with same
          omega
      simp only at started ended ⊢
      omega
    · exact tokenizes.skipped other (Nat.le_of_succ_le started)
  · intro tokenizes
    refine ⟨fun span member => ?_, tokenizes.ordered, tokenizes.matched,
      tokenizes.shown, fun other started before free => ?_⟩
    · obtain ⟨started, rest⟩ := tokenizes.inside span member
      exact ⟨Nat.le_of_succ_le started, rest⟩
    · rcases Nat.eq_or_lt_of_le started with here | later
      · simp only at here
        rw [← here]
        exact idle
      · exact tokenizes.skipped other later before free

/-- Where something can be consumed there is a span, and it is the first one. -/
theorem Tokenizes.exists_head {spans : List Span} {length : Nat}
    (tokenizes : pattern.Tokenizes source ⟨position, stop⟩ spans)
    (opened : position < stop) (positive : 0 < length)
    (found : pattern.matchIn source ⟨position, stop⟩ = .ok (some length)) :
    ∃ head rest, spans = head :: rest ∧ head.first = position := by
  have covered : ∃ span ∈ spans,
      span.first ≤ position ∧ position < span.stop := by
    apply Classical.byContradiction
    intro none
    have idle := tokenizes.skipped position (Nat.le_refl _) opened
      fun span member => by
        by_cases before : position < span.first
        · exact .inl before
        · exact .inr (Nat.le_of_not_lt fun within =>
            none ⟨span, member, Nat.le_of_not_lt before, within⟩)
    rcases idle with mismatch | empty
    · rw [found] at mismatch
      cases mismatch
    · rw [found] at empty
      cases empty
      exact Nat.lt_irrefl 0 positive
  obtain ⟨span, member, started, within⟩ := covered
  cases spans with
  | nil => cases member
  | cons head rest =>
      refine ⟨head, rest, rfl, ?_⟩
      have lower := (tokenizes.inside head List.mem_cons_self).1
      rcases List.mem_cons.mp member with same | later
      · rw [← same] at lower ⊢
        exact Nat.le_antisymm started lower
      · have first := (List.pairwise_cons.mp tokenizes.ordered).1 span later
        have bounds := tokenizes.inside head List.mem_cons_self
        simp only at bounds
        omega

/-- The spans after the first one divide what follows it. -/
theorem Tokenizes.tail {head : Span} {rest : List Span}
    (tokenizes : pattern.Tokenizes source ⟨position, stop⟩ (head :: rest)) :
    pattern.Tokenizes source ⟨head.stop, stop⟩ rest := by
  obtain ⟨first, others⟩ := List.pairwise_cons.mp tokenizes.ordered
  have bounds := tokenizes.inside head List.mem_cons_self
  simp only at bounds
  refine ⟨fun span member => ?_, others,
    (List.forall_mem_cons.mp tokenizes.matched).2,
    (List.forall_mem_cons.mp tokenizes.shown).2,
    fun other started before free => ?_⟩
  · have inside := tokenizes.inside span (List.mem_cons_of_mem _ member)
    exact ⟨first span member, inside.2⟩
  · simp only at started
    refine tokenizes.skipped other (by simp only; omega) before ?_
    exact List.forall_mem_cons.mpr ⟨.inr started, free⟩

/-- A match that consumes something may be put before what follows it. -/
theorem Tokenizes.cons {rest : List Span} {length : Nat}
    (tokenizes : pattern.Tokenizes source ⟨position + length, stop⟩ rest)
    (positive : 0 < length) (fits : position + length ≤ stop)
    (found : pattern.matchIn source ⟨position, stop⟩ = .ok (some length)) :
    pattern.Tokenizes source ⟨position, stop⟩
      (⟨position, position + length,
        Window.text ⟨position, position + length⟩ source⟩ :: rest) := by
  refine ⟨List.forall_mem_cons.mpr ⟨?_, fun span member => ?_⟩,
    List.pairwise_cons.mpr ⟨fun span member => ?_, tokenizes.ordered⟩,
    List.forall_mem_cons.mpr ⟨?_, tokenizes.matched⟩,
    List.forall_mem_cons.mpr ⟨rfl, tokenizes.shown⟩,
    fun other started before free => ?_⟩
  · exact ⟨Nat.le_refl _, Nat.lt_add_of_pos_right positive, fits⟩
  · have bounds := tokenizes.inside span member
    exact ⟨Nat.le_trans (Nat.le_add_right _ _) bounds.1, bounds.2⟩
  · exact (tokenizes.inside span member).1
  · rw [Nat.add_sub_cancel_left]
    exact found
  · obtain ⟨head, others⟩ := List.forall_mem_cons.mp free
    refine tokenizes.skipped other ?_ before others
    rcases head with left | right
    · exact absurd started (Nat.not_le.mpr left)
    · exact right

/-- A match that consumes something is the first span. -/
theorem tokenizes_match_iff {length : Nat} (positive : 0 < length)
    (fits : position + length ≤ stop)
    (found : pattern.matchIn source ⟨position, stop⟩ = .ok (some length))
    {spans : List Span} :
    pattern.Tokenizes source ⟨position, stop⟩ spans ↔
      ∃ rest,
        spans = ⟨position, position + length,
          Window.text ⟨position, position + length⟩ source⟩ :: rest ∧
        pattern.Tokenizes source ⟨position + length, stop⟩ rest := by
  constructor
  · intro tokenizes
    obtain ⟨⟨first, last, text⟩, rest, rfl, here⟩ :=
      tokenizes.exists_head (by omega) positive found
    simp only at here
    have size := tokenizes.matched _ List.mem_cons_self
    have shown := tokenizes.shown _ List.mem_cons_self
    have bounds := tokenizes.inside _ List.mem_cons_self
    simp only [here, found, Except.ok.injEq, Option.some.injEq]
      at size shown bounds
    have ended : last = position + length := by omega
    rw [here, shown, ended]
    exact ⟨rest, rfl, ended ▸ tokenizes.tail⟩
  · intro holds
    obtain ⟨rest, rfl, tokenizes⟩ := holds
    exact tokenizes.cons positive fits found

/-! ## The scan, one position at a time -/

theorem spansFrom_closed (closed : stop ≤ position) :
    pattern.spansFrom source stop position = .ok [] := by
  rw [spansFrom, if_neg (Nat.not_lt.mpr closed)]

theorem spansFrom_skip (opened : position < stop)
    (idle : pattern.matchIn source ⟨position, stop⟩ = .ok none ∨
      pattern.matchIn source ⟨position, stop⟩ = .ok (some 0)) :
    pattern.spansFrom source stop position =
      pattern.spansFrom source stop (position + 1) := by
  rw [spansFrom, if_pos opened]
  rcases idle with mismatch | empty
  · rw [mismatch]
    rfl
  · rw [empty]
    rfl

/-- A match that consumes something moves the scan on, so the check that it
does never fails. -/
theorem spansFrom_match {length : Nat} {rest : List Span}
    (countable : source.Countable) (bound : stop ≤ source.size)
    (positive : 0 < length) (fits : position + length ≤ stop)
    (found : pattern.matchIn source ⟨position, stop⟩ = .ok (some length))
    (scanned : pattern.spansFrom source stop (position + length) =
      .ok rest) :
    pattern.spansFrom source stop position =
      .ok (⟨position, position + length,
        Window.text ⟨position, position + length⟩ source⟩ :: rest) := by
  obtain ⟨previous, rfl⟩ := Nat.exists_eq_succ_of_ne_zero
    (Nat.pos_iff_ne_zero.mp positive)
  have reached : position + (previous + 1) ≤ source.size :=
    Nat.le_trans fits bound
  have sum : Count.add position (previous + 1) =
      .ok (position + (previous + 1)) :=
    Count.add_eq_ok (Nat.lt_of_le_of_lt reached countable)
  have copied : source.copy position (position + (previous + 1)) =
      .ok (Window.text ⟨position, position + (previous + 1)⟩ source) :=
    Source.copy_eq_ok (Nat.le_add_right _ _) reached
  have opened : position < stop := by omega
  have progress : position < position + (previous + 1) := by omega
  rw [spansFrom, if_pos opened, found]
  simp only [bind, Except.bind, sum, copied, progress, if_true, scanned]
  rfl

/-! ## The whole scan -/

/-- From every position on, a scan gives the one tokenization there is. -/
theorem exists_spansFrom_eq_ok (built : pattern.Built)
    (countable : source.Countable) (bound : stop ≤ source.size)
    (position : Nat) :
    ∃ spans, pattern.spansFrom source stop position = .ok spans ∧
      ∀ others, pattern.Tokenizes source ⟨position, stop⟩ others ↔
        others = spans := by
  -- Each step leaves less of the window, down to an empty one.
  induction room : stop - position using Nat.strongRecOn
    generalizing position with
  | ind room ih =>
  by_cases closed : stop ≤ position
  · exact ⟨[], spansFrom_closed closed,
      fun _ => tokenizes_closed_iff closed⟩
  · have opened : position < stop := Nat.lt_of_not_le closed
    have within : Window.Within ⟨position, stop⟩ source :=
      ⟨Nat.le_of_lt opened, bound⟩
    have run := built.matchIn_eq_extent countable within
    have skip : (pattern.matchIn source ⟨position, stop⟩ = .ok none ∨
        pattern.matchIn source ⟨position, stop⟩ = .ok (some 0)) →
        ∃ spans, pattern.spansFrom source stop position = .ok spans ∧
          ∀ others, pattern.Tokenizes source ⟨position, stop⟩ others ↔
            others = spans := by
      intro idle
      obtain ⟨spans, scanned, only⟩ :=
        ih (stop - (position + 1)) (by omega) (position + 1) rfl
      exact ⟨spans, (spansFrom_skip opened idle).trans scanned,
        fun others => (tokenizes_skip_iff idle).trans (only others)⟩
    cases found : pattern.extent (Window.text ⟨position, stop⟩ source) with
    | none => exact skip (.inl (by rw [run, found]))
    | some length =>
        rw [found] at run
        rcases Nat.eq_zero_or_pos length with zero | positive
        · rw [zero] at run
          exact skip (.inr run)
        · have fits : position + length ≤ stop :=
            (Window.within_advance within (pattern.extent_inside found)).1
          obtain ⟨rest, scanned, only⟩ :=
            ih (stop - (position + length)) (by omega) (position + length)
              rfl
          refine ⟨_, spansFrom_match countable bound positive fits run
            scanned, fun others => ?_⟩
          rw [tokenizes_match_iff positive fits run]
          constructor
          · intro holds
            obtain ⟨tail, rfl, tokenizes⟩ := holds
            rw [(only tail).mp tokenizes]
          · intro same
            exact ⟨rest, same, (only rest).mpr rfl⟩

end

end Pattern

end TextPattern
