import TextPattern.Pattern.Build

/-!
# Expressions of the dialect

The dialect looks like a regular-expression language, but its expressions mean
patterns: repetition is greedy and gives nothing back.  This file holds the
tree of an expression and the pattern it stands for.  The tree keeps how an
expression was written: groups, backslashes and the digits of its numbers,
none of which matters to the pattern.
-/

namespace TextPattern

namespace Dialect

/-- A class of characters that is written as a backslash and a letter. -/
inductive Shorthand where
  | digit
  | notDigit
  | word
  | notWord
  | space
  | notSpace
deriving DecidableEq, Repr

def Shorthand.predicate : Shorthand → Predicate
  | digit => .digit
  | notDigit => Predicate.digit.negate
  | word => .alphaNumericUnderscore
  | notWord => Predicate.alphaNumericUnderscore.negate
  | space => .whitespace
  | notSpace => Predicate.whitespace.negate

/-- What a backslash and a character stand for. -/
inductive Escape where
  | shorthand (members : Shorthand)
  | char (c : Char)
deriving DecidableEq, Repr

/-- The meaning of a character after a backslash.  Some letters stand for
classes or control characters; any other character stands for itself. -/
def Escape.ofChar : Char → Escape
  | 'd' => shorthand .digit
  | 'D' => shorthand .notDigit
  | 'w' => shorthand .word
  | 'W' => shorthand .notWord
  | 's' => shorthand .space
  | 'S' => shorthand .notSpace
  | 'n' => char '\n'
  | 'r' => char '\r'
  | 't' => char '\t'
  | '0' => char '\x00'
  | other => char other

def Escape.predicate : Escape → Predicate
  | shorthand members => members.predicate
  | char c => .is c

inductive Member where
  | single (c : Char)
  | range (lo hi : Char)
  | shorthand (members : Shorthand)
deriving DecidableEq, Repr

def Member.predicate : Member → Predicate
  | single c => .is c
  | range lo hi => .range lo hi
  | shorthand members => members.predicate

structure CharClass where
  negated : Bool
  members : List Member
deriving DecidableEq, Repr

def CharClass.predicate (cls : CharClass) : Predicate :=
  let union := Predicate.anyOf (cls.members.map Member.predicate)
  if cls.negated then union.negate else union

/-- The number that some decimal digits write. -/
def digitsValue (digits : List Char) : Nat :=
  digits.foldl (fun value c => value * 10 + (c.toNat - 48)) 0

/-- A count as it is written, perhaps with leading zeros. -/
structure Numeral where
  digits : List Char
  nonempty : digits ≠ []
  decimal : digits.all Char.isDigit = true
  small : digitsValue digits < Count.limit
deriving DecidableEq, Repr

def Numeral.value (numeral : Numeral) : Nat :=
  digitsValue numeral.digits

/-- The numeral with the given digits, if these write a count. -/
def Numeral.ofDigits? (digits : List Char) : Option Numeral :=
  if count : digits ≠ [] ∧ digits.all Char.isDigit = true ∧
      digitsValue digits < Count.limit then
    some ⟨digits, count.1, count.2.1, count.2.2⟩
  else none

/-- How often the expression before it may occur. -/
inductive Quantifier where
  | any
  | some
  | optional
  | exactly (count : Numeral)
  | atLeast (min : Numeral)
  | atMost (max : Numeral)
  | between (min max : Numeral) (ordered : min.value ≤ max.value)
  /-- Braces with a comma and no bound. -/
  | unbounded
deriving DecidableEq, Repr

def Quantifier.apply : Quantifier → Pattern → Pattern
  | any => Pattern.many
  | some => Pattern.many1
  | optional => Pattern.opt
  | exactly count => Pattern.rep count.value
  | atLeast min => Pattern.atLeast min.value
  | atMost max => Pattern.atMost max.value
  | between min max ordered => Pattern.between min.value max.value ordered
  | unbounded => Pattern.many

inductive Expr where
  | anyChar
  | windowEnd
  | char (c : Char)
  /-- A backslash and a character. -/
  | escape (c : Char)
  | charClass (members : CharClass)
  | group (operand : Expr)
  | quantified (operand : Expr) (quantifier : Quantifier)
  | sequence (items : List Expr)
  | alternatives (branches : List Expr)

namespace Expr

open Pattern (ofPredicate)

mutual

/-- The pattern that an expression stands for. -/
def toPattern : Expr → Pattern
  | anyChar => ofPredicate .always
  | windowEnd => Pattern.windowEnd
  | char c => ofPredicate (.is c)
  | escape c => ofPredicate (Escape.ofChar c).predicate
  | charClass members => ofPredicate members.predicate
  | group operand => toPattern operand
  | quantified operand quantifier => quantifier.apply (toPattern operand)
  | sequence items => Pattern.seqOf (toPatterns items)
  | alternatives branches => Pattern.anyOf (toPatterns branches)

def toPatterns : List Expr → List Pattern
  | [] => []
  | expr :: exprs => toPattern expr :: toPatterns exprs

end

end Expr

end Dialect

end TextPattern
