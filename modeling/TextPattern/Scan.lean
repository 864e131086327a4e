import TextPattern.Pattern.Basic

/-!
# Scanning

A scan goes through a source from left to right.  A match that consumes
something gives a span, and the scan goes on after it; everywhere else the scan
moves on by one character.
-/

namespace TextPattern

structure Span where
  first : Nat
  stop : Nat
  text : List Char
deriving DecidableEq, Repr

namespace Pattern

/-- The spans from a position on, up to the end `stop` of the window. -/
def spansFrom (pattern : Pattern) (source : Source)
    (stop position : Nat) : Except Fault (List Span) :=
  if position < stop then do
    match ← pattern.matchIn source ⟨position, stop⟩ with
    | none => spansFrom pattern source stop (position + 1)
    | some 0 => spansFrom pattern source stop (position + 1)
    | some (length + 1) =>
        let next ← Count.add position (length + 1)
        let text ← source.copy position next
        if position < next then
          return ⟨position, next, text⟩ ::
            (← spansFrom pattern source stop next)
        else return [⟨position, next, text⟩]
  else .ok []
termination_by stop - position

def spans (pattern : Pattern) (source : Source) (window : Window) :
    Except Fault (List Span) :=
  pattern.spansFrom source window.stop window.first

end Pattern

end TextPattern
