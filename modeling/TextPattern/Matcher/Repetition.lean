import TextPattern.Matcher.Basic

/-!
# Repetition

The loops behind the quantifiers.  Each works from a position up to the end
`stop` of the window and gives the position where it ended.  An iteration that
consumes nothing ends every loop: the operand would match nothing there again
and again, so no later iteration could change the result.
-/

namespace TextPattern

namespace Matcher

def exactlyFrom (operand : Matcher) (source : Source) (stop : Nat) :
    Nat → Nat → Except Fault (Option Nat)
  | 0, position => .ok (some position)
  | count + 1, position => do
      match ← operand source ⟨position, stop⟩ with
      | none => return none
      | some 0 => return some position
      | some length =>
          exactlyFrom operand source stop count
            (← Count.add position length)

def atMostFrom (operand : Matcher) (source : Source) (stop : Nat) :
    Nat → Nat → Except Fault Nat
  | 0, position => .ok position
  | count + 1, position => do
      match ← operand source ⟨position, stop⟩ with
      | none => return position
      | some 0 => return position
      | some length =>
          atMostFrom operand source stop count (← Count.add position length)

/-- The operand as often as it matches.  An iteration moves on inside the
window, which bounds the number of iterations; the attempt after one that
left the window would be a fault. -/
def manyFrom (operand : Matcher) (source : Source) (stop position : Nat) :
    Except Fault Nat := do
  match ← operand source ⟨position, stop⟩ with
  | none => return position
  | some 0 => return position
  | some length =>
      let next ← Count.add position length
      if position < next ∧ next ≤ stop then
        manyFrom operand source stop next
      else .error (.window next stop source.size)
termination_by stop - position

def exactly (count : Nat) (operand : Matcher) : Matcher :=
  fun source window => do
    match ← exactlyFrom operand source window.stop count window.first with
    | none => return none
    | some position => return some (← Count.sub position window.first)

/-- The iterations after the `min` mandatory ones: as many as match, up to
`max` in all. -/
def moreFrom (operand : Matcher) (source : Source) (stop min : Nat)
    (max : Option Nat) (position : Nat) : Except Fault Nat :=
  match max with
  | none => manyFrom operand source stop position
  | some max => do
      let room ← Count.sub max min
      atMostFrom operand source stop room position

/-- The operand `min` times and then as often as it still matches, up to `max`
times in all. -/
def repeated (min : Nat) (max : Option Nat) (operand : Matcher) : Matcher :=
  fun source window => do
    match ← exactly min operand source window with
    | none => return none
    | some head =>
        let start ← Count.add window.first head
        let last ← moreFrom operand source window.stop min max start
        return some (← Count.add (← Count.sub last start) head)

end Matcher

end TextPattern
