import TextPattern.Unicode.Ranges

/-!
# White space

The property White_Space of the Unicode character database, version 17.0.
-/

namespace TextPattern

namespace Unicode

/-- The code points with the property White_Space. -/
def whiteSpaceRanges : List (Nat × Nat) :=
  [(0x09, 0x0D), (0x20, 0x20), (0x85, 0x85), (0xA0, 0xA0), (0x1680, 0x1680),
  (0x2000, 0x200A), (0x2028, 0x2029), (0x202F, 0x202F), (0x205F, 0x205F),
  (0x3000, 0x3000)]

/-- A blank, a tabulator or a line or page separator. -/
def isWhiteSpace (c : Char) : Bool :=
  covers whiteSpaceRanges c.toNat

end Unicode

end TextPattern
