import TextPattern.Regex.Flags
import TextPattern.Regex.Tree

/-!
# Escape sequences of regular expressions

What a backslash introduces is a character, a set of characters or a
condition.
-/

namespace TextPattern

namespace Regex

/-- What an escape sequence stands for. -/
inductive Escaped where
  | char (c : Char)
  | set (members : CharSet)
  | look (condition : Look)

def hexValue? (c : Char) : Option Nat :=
  if c.isDigit then some (c.toNat - 48)
  else if 'a' ≤ c ∧ c ≤ 'f' then some (c.toNat - 87)
  else if 'A' ≤ c ∧ c ≤ 'F' then some (c.toNat - 55)
  else none

def charOfCode (code : Nat) : Except Error Char :=
  if code.isValidChar then .ok (Char.ofNat code) else .error .invalidCodePoint

def readHexDigits (flags : Flags) :
    Nat → Nat → List Char → Except Error (Nat × List Char)
  | 0, value, rest => .ok (value, rest)
  | count + 1, value, rest =>
      match flags.skip rest with
      | [] => .error .trailingBackslash
      | c :: rest =>
          match hexValue? c with
          | none => .error .invalidCodePoint
          | some digit => readHexDigits flags count (value * 16 + digit) rest

/-- Hexadecimal digits up to a closing brace, at least one. -/
def readHexBraced (flags : Flags) :
    Option Nat → List Char → Except Error (Nat × List Char)
  | _, [] => .error .trailingBackslash
  | value, c :: rest =>
      if c = '\x7d' then
        match value with
        | some value => .ok (value, rest)
        | none => .error .invalidCodePoint
      else if flags.extended && Unicode.isWhiteSpace c then
        readHexBraced flags value rest
      else
        match hexValue? c with
        | none => .error .invalidCodePoint
        | some digit =>
            readHexBraced flags (some (value.getD 0 * 16 + digit)) rest

/-- A code point: so many digits, or any number of them in braces. -/
def readCode (flags : Flags) (digits : Nat) (rest : List Char) :
    Except Error (Escaped × List Char) := do
  let (code, rest) ←
    match flags.skip rest with
    | '\x7b' :: rest => readHexBraced flags none rest
    | rest => readHexDigits flags digits 0 rest
  return (.char (← charOfCode code), rest)

def wordBound? (name : List Char) : Option Look :=
  match String.ofList name with
  | "start" => some .wordStart
  | "end" => some .wordEnd
  | "start-half" => some .wordStartHalf
  | "end-half" => some .wordEndHalf
  | _ => none

/-- Whether the character can stand in the name of a word bound. -/
def isBoundChar (c : Char) : Bool :=
  c.isAlpha || c == '-'

/-- A word bound, by name if braces with a letter or minus sign follow. -/
def readWordBoundary (flags : Flags) (rest : List Char) :
    Except Error (Escaped × List Char) :=
  match rest with
  | '\x7b' :: inner =>
      match flags.skip inner with
      | [] => .error .unclosedCount
      | c :: tail =>
          if isBoundChar c then
            let blank := fun d => flags.extended && Unicode.isWhiteSpace d
            let name := (c :: tail).takeWhile
              fun d => isBoundChar d || blank d
            let after := (c :: tail).dropWhile
              fun d => isBoundChar d || blank d
            match after, wordBound? (name.filter isBoundChar) with
            | '\x7d' :: rest, some look => .ok (.look look, rest)
            | _, _ => .error .unclosedCount
          else .ok (.look .wordBoundary, rest)
  | _ => .ok (.look .wordBoundary, rest)

/-- Whether a backslash before the character makes it stand for itself. -/
def isEscapable (c : Char) : Bool :=
  c.toNat < 128 && !c.isAlphanum && c != '<' && c != '>'

def readEscape (flags : Flags) :
    List Char → Except Error (Escaped × List Char)
  | [] => .error .trailingBackslash
  | c :: rest =>
      match c with
      | 'x' => readCode flags 2 rest
      | 'u' => readCode flags 4 rest
      | 'U' => readCode flags 8 rest
      | 'd' => .ok (.set .digit, rest)
      | 'D' => .ok (.set (.complement .digit), rest)
      | 's' => .ok (.set .space, rest)
      | 'S' => .ok (.set (.complement .space), rest)
      | 'w' => .ok (.set .word, rest)
      | 'W' => .ok (.set (.complement .word), rest)
      | 'a' => .ok (.char '\x07', rest)
      | 'f' => .ok (.char '\x0c', rest)
      | 't' => .ok (.char '\t', rest)
      | 'n' => .ok (.char '\n', rest)
      | 'r' => .ok (.char '\r', rest)
      | 'v' => .ok (.char '\x0b', rest)
      | 'A' => .ok (.look .textStart, rest)
      | 'z' => .ok (.look .textEnd, rest)
      | 'b' => readWordBoundary flags rest
      | 'B' => .ok (.look .noWordBoundary, rest)
      | '<' => .ok (.look .wordStart, rest)
      | '>' => .ok (.look .wordEnd, rest)
      | c =>
          if c.isDigit then .error .backreference
          else if isEscapable c then .ok (.char c, rest)
          else .error (.unknownEscape c)

end Regex

end TextPattern
