/-!
# Counts of characters

Positions and lengths count characters and stay below `Count.limit`.
Arithmetic on them is checked: a sum past the limit and a difference below
zero are faults, not numbers.
-/

namespace TextPattern

/-- An operation outside its domain. -/
inductive Fault where
  /-- The window from `first` to `stop` does not lie in a source of that
  size. -/
  | window (first stop size : Nat)
  /-- The position is not one of those that may be read. -/
  | position (index : Nat)
  | overflow
  | underflow
deriving DecidableEq, Repr

namespace Count

/-- All counts are below this bound. -/
def limit : Nat := Nat.pow 2 64

def add (m n : Nat) : Except Fault Nat :=
  if m + n < limit then .ok (m + n) else .error .overflow

def sub (m n : Nat) : Except Fault Nat :=
  if n ≤ m then .ok (m - n) else .error .underflow

end Count

end TextPattern
