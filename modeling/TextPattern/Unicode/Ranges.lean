/-!
# Tables of code points

A property of characters is stored as an ascending list of disjoint ranges of
code points, both ends included.
-/

namespace TextPattern

namespace Unicode

/-- Whether one of the ascending ranges holds the code point. -/
def covers : List (Nat × Nat) → Nat → Bool
  | [], _ => false
  | (first, last) :: rest, n => first ≤ n && (n ≤ last || covers rest n)

end Unicode

end TextPattern
