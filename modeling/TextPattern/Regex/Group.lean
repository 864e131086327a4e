import TextPattern.Regex.Flags
import TextPattern.Unicode.Alphabetic
import TextPattern.Unicode.Numeric

/-!
# Opening of groups

A group may carry flags or a name.  Names have no effect on what matches, but
each may be given once.
-/

namespace TextPattern

namespace Regex

/-- The unread part of an expression and the group names given so far. -/
structure Unread where
  rest : List Char
  names : List (List Char)

/-- What an opening parenthesis begins. -/
inductive Opening where
  /-- A group with these flags. -/
  | group (flags : Flags)
  /-- New flags for the rest of the enclosing group. -/
  | flags (flags : Flags)

/-- Whether a character can stand at this place of a group name. -/
def isNameChar (first : Bool) (c : Char) : Bool :=
  c == '_' || Unicode.isAlphabetic c ||
    (!first && (c == '.' || c == '[' || c == ']' || Unicode.isNumeric c))

/-- Reads a group name up to and with its closing angle bracket. -/
def readName (unread : Unread) : Except Error Unread :=
  let name := unread.rest.takeWhile (· != '>')
  match unread.rest.dropWhile (· != '>'), name with
  | _ :: after, first :: others =>
      if isNameChar true first && others.all (isNameChar false) then
        if unread.names.contains name then .error .repeatedGroupName
        else .ok ⟨after, name :: unread.names⟩
      else .error .invalidGroupName
  | _, _ => .error .invalidGroupName

def readOpening (flags : Flags) (unread : Unread) :
    Except Error (Opening × Unread) :=
  let unread := { unread with rest := flags.skip unread.rest }
  match unread.rest with
  | '?' :: '=' :: _ => .error .lookaround
  | '?' :: '!' :: _ => .error .lookaround
  | '?' :: '<' :: '=' :: _ => .error .lookaround
  | '?' :: '<' :: '!' :: _ => .error .lookaround
  | '?' :: 'P' :: '<' :: rest => do
      return (.group flags, ← readName { unread with rest })
  | '?' :: '<' :: rest => do
      return (.group flags, ← readName { unread with rest })
  | '?' :: rest => do
      let (inner, scope, rest) ← readFlags flags [] false false rest
      match scope with
      | .enclosing => return (.flags inner, { unread with rest })
      | .inner => return (.group inner, { unread with rest })
  | _ => .ok (.group flags, unread)

end Regex

end TextPattern
