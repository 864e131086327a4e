import TextPattern.Unicode.Alphabetic
import TextPattern.Unicode.CaseOrbit
import TextPattern.Unicode.DecimalDigit
import TextPattern.Unicode.Recent
import TextPattern.Unicode.WhiteSpace
import TextPattern.Unicode.WordMark

/-!
# Sets of characters in regular expressions

A class is kept as the set expression that was written.  Membership is decided
by evaluating the expression at one character, so sets of any size cost
nothing to build.

The classes for digits and words and the variants in case are those of version
16.0 of the Unicode character database: later characters belong to no class and
have no variants.
-/

namespace TextPattern

namespace Regex

inductive CharSet where
  | empty
  | full
  | range (lo hi : Char)
  | digit
  | space
  | word
  | union (left right : CharSet)
  | inter (left right : CharSet)
  | complement (set : CharSet)
  /-- All case variants of the members. -/
  | folded (set : CharSet)

def isDigit (c : Char) : Bool :=
  Unicode.isDecimalDigit c && !Unicode.isRecent c

/-- Letters, marks, decimal digits, connectors and joiners make up words. -/
def isWordChar (c : Char) : Bool :=
  (Unicode.isAlphabetic c || Unicode.isDecimalDigit c ||
    Unicode.isWordMark c) && !Unicode.isRecent c

/-- A character and the characters that differ from it in case only. -/
def caseVariants (c : Char) : List Char :=
  if Unicode.isRecent c then [c]
  else (Unicode.caseVariants c).filter fun d => !Unicode.isRecent d

namespace CharSet

def contains : CharSet → Char → Bool
  | empty, _ => false
  | full, _ => true
  | range lo hi, c => lo ≤ c && c ≤ hi
  | digit, c => isDigit c
  | space, c => Unicode.isWhiteSpace c
  | word, c => isWordChar c
  | union left right, c => contains left c || contains right c
  | inter left right, c => contains left c && contains right c
  | complement set, c => !contains set c
  | folded set, c => (caseVariants c).any (contains set)

def single (c : Char) : CharSet :=
  range c c

def ranges (bounds : List (Char × Char)) : CharSet :=
  bounds.foldr (fun (lo, hi) rest => union (range lo hi) rest) empty

def diff (left right : CharSet) : CharSet :=
  inter left (complement right)

def symmDiff (left right : CharSet) : CharSet :=
  union (diff left right) (diff right left)

/-- The complement, if one is asked for. -/
def complementIf (negated : Bool) (set : CharSet) : CharSet :=
  if negated then complement set else set

/-- All case variants, if case is ignored. -/
def foldedIf (ignoreCase : Bool) (set : CharSet) : CharSet :=
  if ignoreCase then folded set else set

/-- The classes of ASCII characters that are called by name. -/
def named? (name : List Char) : Option CharSet :=
  match String.ofList name with
  | "alnum" => some (ranges [('0', '9'), ('A', 'Z'), ('a', 'z')])
  | "alpha" => some (ranges [('A', 'Z'), ('a', 'z')])
  | "ascii" => some (range '\x00' '\x7f')
  | "blank" => some (ranges [('\t', '\t'), (' ', ' ')])
  | "cntrl" => some (ranges [('\x00', '\x1f'), ('\x7f', '\x7f')])
  | "digit" => some (range '0' '9')
  | "graph" => some (range '!' '~')
  | "lower" => some (range 'a' 'z')
  | "print" => some (range ' ' '~')
  | "punct" =>
      some (ranges [('!', '/'), (':', '@'), ('[', '\x60'), ('\x7b', '~')])
  | "space" => some (ranges [('\t', '\r'), (' ', ' ')])
  | "upper" => some (range 'A' 'Z')
  | "word" =>
      some (ranges [('0', '9'), ('A', 'Z'), ('_', '_'), ('a', 'z')])
  | "xdigit" => some (ranges [('0', '9'), ('A', 'F'), ('a', 'f')])
  | _ => none

/-- An estimate of the states that recognize the encoded members of a set. -/
def weight : CharSet → Nat
  | empty => 1
  | full => 9
  | range _ hi => if hi ≤ '\x7f' then 1 else hi.utf8Size
  | digit => 140
  | space => 12
  | word => 700
  | union left right => max (weight left) (weight right) + 1
  | inter left right => max (weight left) (weight right)
  | complement set => weight set + 8
  | folded set => weight set + 1

end CharSet

end Regex

end TextPattern
