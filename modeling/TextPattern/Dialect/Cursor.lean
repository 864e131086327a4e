import TextPattern.Dialect.Error

/-!
# Reading from a cursor

A cursor is the unread part of an expression with the number of characters
read before it.  A failed reading keeps its cursor, which is where the error is
reported.
-/

namespace TextPattern

namespace Dialect

/-- A place in an expression. -/
structure Cursor where
  rest : List Char
  position : Nat
deriving DecidableEq, Repr

/-- A step of reading.  Its result, a value or an error, comes with the place
where it ended. -/
abbrev Reading := EStateM Error Cursor

namespace Reading

/-- The next character, which stays unread. -/
def peek : Reading (Option Char) := fun cursor =>
  .ok cursor.rest.head? cursor

/-- All that is unread, which stays unread. -/
def unread : Reading (List Char) := fun cursor =>
  .ok cursor.rest cursor

def next : Reading (Option Char) := fun cursor =>
  match cursor.rest with
  | [] => .ok none cursor
  | c :: rest => .ok (some c) ⟨rest, cursor.position + 1⟩

/-- Reads the next character, which has to be a given one. -/
def expect (c : Char) : Reading Unit := do
  match ← next with
  | none => throw .unexpectedEnd
  | some actual =>
      if actual = c then return () else throw (.unexpectedChar actual)

/-- Reads the characters that pass a test, as far as they reach. -/
def takeWhile (test : Char → Bool) : Reading (List Char) := fun cursor =>
  let taken := cursor.rest.takeWhile test
  .ok taken ⟨cursor.rest.dropWhile test, cursor.position + taken.length⟩

/-- The results of a step that is taken again and again until it gives none.
Each result has to cost at least one character, or the step would go on
forever. -/
def collect {α : Type} (step : Reading (Option α)) (cursor : Cursor) :
    EStateM.Result Error Cursor (List α) :=
  match step cursor with
  | .error error after => .error error after
  | .ok none after => .ok [] after
  | .ok (some value) after =>
      if after.rest.length < cursor.rest.length then
        match collect step after with
        | .error error last => .error error last
        | .ok values last => .ok (value :: values) last
      else .ok [value] after
termination_by cursor.rest.length

end Reading

end Dialect

end TextPattern
