import TextPattern.Regex.Error
import TextPattern.Unicode.WhiteSpace

/-!
# Flags of regular expressions

Flags are switched on and off inside the expression, for the rest of a group
or for a group of their own.  The flag `extended` lets the expression hold
blanks and comments, which are skipped between its parts.
-/

namespace TextPattern

namespace Regex

inductive Flag where
  | ignoreCase
  | multiLine
  | dotAll
  | swapGreed
  | anyLineEnd
  | extended
  | unicode
deriving DecidableEq, Repr

def Flag.ofChar? : Char → Option Flag
  | 'i' => some ignoreCase
  | 'm' => some multiLine
  | 's' => some dotAll
  | 'U' => some swapGreed
  | 'R' => some anyLineEnd
  | 'x' => some extended
  | 'u' => some unicode
  | _ => none

structure Flags where
  ignoreCase : Bool := false
  multiLine : Bool := false
  dotAll : Bool := false
  swapGreed : Bool := false
  anyLineEnd : Bool := false
  extended : Bool := false

namespace Flags

def set (flags : Flags) (flag : Flag) (on : Bool) : Flags :=
  match flag with
  | .ignoreCase => { flags with ignoreCase := on }
  | .multiLine => { flags with multiLine := on }
  | .dotAll => { flags with dotAll := on }
  | .swapGreed => { flags with swapGreed := on }
  | .anyLineEnd => { flags with anyLineEnd := on }
  | .extended => { flags with extended := on }
  | .unicode => flags

end Flags

/-- What stands after the letters of a flag group. -/
inductive FlagScope where
  /-- `)`: the flags hold for the rest of the enclosing group. -/
  | enclosing
  /-- `:`: the flags hold for the group that starts here. -/
  | inner

/-- Reads the letters of a flag group, up to and with the mark that ends them.
A letter may occur once, and one minus sign switches the letters after it
off. -/
def readFlags (flags : Flags) (seen : List Flag) (off dangling : Bool) :
    List Char → Except Error (Flags × FlagScope × List Char)
  | [] => .error .unclosedGroup
  | c :: rest =>
      if c = ')' then
        if dangling then .error .danglingMinus
        else if seen.isEmpty then .error .nothingToRepeat
        else .ok (flags, .enclosing, rest)
      else if c = ':' then
        if dangling then .error .danglingMinus
        else .ok (flags, .inner, rest)
      else if c = '-' then
        if off then .error .repeatedFlag
        else readFlags flags seen true true rest
      else
        match Flag.ofChar? c with
        | none => .error (.unknownFlag c)
        | some flag =>
            if seen.contains flag then .error .repeatedFlag
            else if flag = .unicode ∧ off then .error .unsupportedFlag
            else
              readFlags (flags.set flag !off) (flag :: seen) off false rest

mutual

/-- The expression after blanks and comments. -/
def skipBlanks : List Char → List Char
  | [] => []
  | c :: rest =>
      if Unicode.isWhiteSpace c then skipBlanks rest
      else if c = '#' then skipComment rest
      else c :: rest

/-- The expression after the comment that has begun, and the blanks after
it. -/
def skipComment : List Char → List Char
  | [] => []
  | c :: rest => if c = '\n' then skipBlanks rest else skipComment rest

end

/-- The expression after what the flags let it skip. -/
def Flags.skip (flags : Flags) (rest : List Char) : List Char :=
  if flags.extended then skipBlanks rest else rest

end Regex

end TextPattern
