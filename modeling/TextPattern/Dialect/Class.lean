import TextPattern.Dialect.Cursor
import TextPattern.Dialect.Expr

/-!
# Reading escapes and classes

A class ends at its first closing bracket that is not its first member.  A
minus sign makes a range when it stands between a character and another member
character, and is a member of its own otherwise.
-/

namespace TextPattern

namespace Dialect

open Reading

def readEscaped : Reading Char := do
  match ← next with
  | none => throw .unexpectedEnd
  | some c => return c

/-- Whether a range goes on from here: a minus sign and then anything but the
end of the class. -/
def atRange (rest : List Char) : Bool :=
  match rest with
  | '-' :: c :: _ => c != ']'
  | _ => false

def readRangeEnd (lo : Char) : Reading Member := do
  match ← next with
  | none => throw .unclosedClass
  | some c =>
      if c = '\\' then
        match Escape.ofChar (← readEscaped) with
        | .char hi => return .range lo hi
        | .shorthand _ => throw (.unexpectedChar '\\')
      else return .range lo c

/-- Reads what follows the first character of a member: nothing, or a minus
sign and the last character of a range. -/
def readRangeFrom (lo : Char) : Reading Member := do
  if atRange (← unread) then
    expect '-'
    readRangeEnd lo
  else return .single lo

/-- Reads the rest of a member whose first character has been read. -/
def readMemberFrom (c : Char) : Reading Member := do
  if c = '\\' then
    match Escape.ofChar (← readEscaped) with
    | .char lo => readRangeFrom lo
    | .shorthand members => return .shorthand members
  else readRangeFrom c

/-- Reads the first member of a class, whatever its first character is. -/
def readFirstMember : Reading Member := do
  match ← next with
  | none => throw .unclosedClass
  | some c => readMemberFrom c

/-- Reads a later member of a class or the bracket that closes the class. -/
def readLaterMember : Reading (Option Member) := do
  match ← next with
  | none => throw .unclosedClass
  | some ']' => return none
  | some c => return some (← readMemberFrom c)

def readMembers (negated : Bool) : Reading CharClass := do
  let first ← readFirstMember
  let later ← collect readLaterMember
  return ⟨negated, first :: later⟩

/-- Reads a class after its opening bracket. -/
def readClass : Reading CharClass := do
  if (← peek) == some '^' then
    expect '^'
    readMembers true
  else readMembers false

end Dialect

end TextPattern
