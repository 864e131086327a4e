import TextPattern.Source

/-!
# Windows

A window is the part of a source that a match may see.  It reads its
characters through `Window.read`, which refuses every position outside, so a
match cannot depend on the text around its window.
-/

namespace TextPattern

/-- The positions from `first` up to, and without, `stop`. -/
structure Window where
  first : Nat
  stop : Nat
deriving DecidableEq, Repr

namespace Window

/-- The bounds are in order and inside the source. -/
def Within (window : Window) (source : Source) : Prop :=
  window.first ≤ window.stop ∧ window.stop ≤ source.size

instance (window : Window) (source : Source) :
    Decidable (window.Within source) :=
  inferInstanceAs (Decidable (_ ∧ _))

def whole (source : Source) : Window :=
  ⟨0, source.size⟩

def width (window : Window) : Except Fault Nat :=
  Count.sub window.stop window.first

/-- The character at a position of the window. -/
def read (window : Window) (source : Source) (index : Nat) :
    Except Fault Char :=
  if window.first ≤ index ∧ index < window.stop then source.read index
  else .error (.position index)

def advance (window : Window) (count : Nat) : Except Fault Window := do
  return { window with first := ← Count.add window.first count }

end Window

end TextPattern
