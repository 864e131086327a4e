import TextPattern.Count

/-!
# Sources of characters

A source is a finite sequence of characters with random access.  It is a
buffer, a segment of a longer buffer, or a reader that hands out one character
at a time.  They differ in how a part is copied out: a buffer and a segment
refuse bounds that are out of order or past the end, while a reader copies
character by character and so refuses only a character that is not there.
-/

namespace TextPattern

/-- The characters of a buffer from `start` up to `stop`. -/
structure Segment where
  chars : Array Char
  start : Nat
  stop : Nat
  ordered : start ≤ stop
  inside : stop ≤ chars.size

/-- A sequence of characters to match against. -/
inductive Source where
  | buffer (chars : Array Char)
  | segment (part : Segment)
  | reader (chars : Array Char)

namespace Source

def ofString (text : String) : Source :=
  buffer text.toList.toArray

/-- The characters of a text from `start` up to `stop`, if these are bounds of
the text. -/
def segment? (text : String) (start stop : Nat) : Option Source :=
  let chars := text.toList.toArray
  if bounds : start ≤ stop ∧ stop ≤ chars.size then
    some (segment ⟨chars, start, stop, bounds.1, bounds.2⟩)
  else none

def toList : Source → List Char
  | buffer chars => chars.toList
  | segment part => (part.chars.extract part.start part.stop).toList
  | reader chars => chars.toList

def size : Source → Nat
  | buffer chars => chars.size
  | segment part => part.stop - part.start
  | reader chars => chars.size

/-- The character at a position, counted from the start of the source. -/
def get? : Source → Nat → Option Char
  | buffer chars, index => chars[index]?
  | segment part, index =>
      if index < part.stop - part.start then part.chars[part.start + index]?
      else none
  | reader chars, index => chars[index]?

/-- The character at a position, which has to be there. -/
def read (source : Source) (index : Nat) : Except Fault Char :=
  match source.get? index with
  | some c => .ok c
  | none => .error (.position index)

/-- The next `count` characters from a position on, read one by one. -/
def readMany (source : Source) : Nat → Nat → Except Fault (List Char)
  | _, 0 => .ok []
  | index, count + 1 => do
      let c ← source.read index
      let rest ← readMany source (index + 1) count
      return c :: rest

/-- A copy of the characters from `first` up to `stop`. -/
def copy (source : Source) (first stop : Nat) :
    Except Fault (List Char) :=
  match source with
  | buffer chars =>
      if first ≤ stop ∧ stop ≤ chars.size then
        .ok (chars.extract first stop).toList
      else .error (.window first stop chars.size)
  | segment part =>
      if first ≤ stop ∧ stop ≤ part.stop - part.start then
        .ok (part.chars.extract (part.start + first)
          (part.start + stop)).toList
      else .error (.window first stop (part.stop - part.start))
  | reader chars => readMany (reader chars) first (stop - first)

end Source

end TextPattern
