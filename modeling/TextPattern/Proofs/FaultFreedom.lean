import TextPattern.Proofs.Built
import TextPattern.Proofs.Extent.Adequacy

/-!
# Matching meets no fault

Every attempt checks its window, every character is read through a window, and
every sum, difference and copy is checked.  A pattern that was built fails none
of these checks in a window that lies in its source, and what it consumes lies
in the window.  The only difference that could go wrong without help from the
window is that of the bounds of a repetition; these are in order because a
pattern that was built is normal.
-/

namespace TextPattern

namespace Pattern

theorem NormalNode.boundsOrdered {pattern : Pattern}
    (normal : pattern.NormalNode) : pattern.BoundsOrdered := by
  cases pattern with
  | repeated min max operand => exact normal.2
  | _ => trivial

theorem Built.ordered {pattern : Pattern} (built : pattern.Built) :
    pattern.Everywhere BoundsOrdered :=
  built.normal.mono fun _ => NormalNode.boundsOrdered

theorem Built.matchIn_eq_extent {pattern : Pattern} {source : Source}
    {window : Window} (built : pattern.Built) (countable : source.Countable)
    (within : window.Within source) :
    pattern.matchIn source window =
      .ok (pattern.extent (window.text source)) :=
  built.ordered.adequate countable within

theorem Built.matchIn_eq_ok_iff {pattern : Pattern} {source : Source}
    {window : Window} {result : Option Nat} (built : pattern.Built)
    (countable : source.Countable) (within : window.Within source) :
    pattern.matchIn source window = .ok result ↔
      pattern.extent (window.text source) = result := by
  rw [built.matchIn_eq_extent countable within, Except.ok.injEq]

/-- Matching a pattern that was built gives a result, and a match ends inside
the window. -/
theorem matchIn_ends_inside {pattern : Pattern} {source : Source}
    {window : Window} (built : pattern.Built) (countable : source.Countable)
    (within : window.Within source) :
    ∃ result, pattern.matchIn source window = .ok result ∧
      ∀ length, result = some length →
        window.first + length ≤ window.stop := by
  refine ⟨pattern.extent (window.text source),
    built.matchIn_eq_extent countable within, ?_⟩
  intro length found
  have bound := pattern.extent_inside found
  have width := Window.length_text within
  have ordered := within.1
  omega

/-- The greatest count there is, over an operand that may match nothing, in a
window that neither starts nor ends with its source. -/
theorem matchIn_ends_inside_greatest_count :
    Source.Countable (.buffer #['x', 'a', 'a', 'b']) ∧
      Window.Within ⟨1, 3⟩ (.buffer #['x', 'a', 'a', 'b']) ∧
      ∃ result,
        ((ofChar 'a').opt.rep 18446744073709551615).matchIn
          (.buffer #['x', 'a', 'a', 'b']) ⟨1, 3⟩ = .ok result ∧
        ∀ length, result = some length → 1 + length ≤ 3 :=
  ⟨by decide, by decide,
    matchIn_ends_inside ((Built.ofPredicate _).opt.rep _) (by decide)
      (by decide)⟩

end Pattern

end TextPattern
