/-!
# Mappings between code points

A mapping is stored as runs of code points that all move by the same offset.
Scripts with capital and small letters side by side give runs with step two.
-/

namespace TextPattern

namespace Unicode

/-- The code points `first`, `first + step`, up to `last`, each moved by
`offset`. -/
structure Shift where
  first : Nat
  last : Nat
  step : Nat
  offset : Int

/-- Whether the run moves the code point. -/
def Shift.moves (shift : Shift) (n : Nat) : Bool :=
  shift.first ≤ n && n ≤ shift.last && (n - shift.first) % shift.step == 0

/-- Where a mapping sends a code point: the first run that moves it decides,
and a code point in no run stays. -/
def shifted : List Shift → Nat → Nat
  | [], n => n
  | shift :: rest, n =>
      if shift.moves n then ((n : Int) + shift.offset).toNat else shifted rest n

/-- The code points that some run sends to `n`. -/
def preimages (shifts : List Shift) (n : Nat) : List Nat :=
  shifts.filterMap fun shift =>
    let origin := ((n : Int) - shift.offset).toNat
    if shift.moves origin then some origin else none

end Unicode

end TextPattern
