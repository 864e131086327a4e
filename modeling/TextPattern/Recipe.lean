import TextPattern.Dialect.Reader
import TextPattern.Library

/-!
# Recipes

A recipe is a pattern written down as the calls that build it.  Building works
from the leaves up and from left to right, and stops at the first call that
fails.
-/

namespace TextPattern

/-- The calls that build a pattern. -/
inductive Recipe where
  /-- A pattern that has been built already. -/
  | given (pattern : Pattern)
  | never
  | always
  | char (predicate : Predicate)
  | take (count : Nat)
  | takeAll (count : Nat)
  | literal (rule : CaseRule) (contents : List Char)
  | notLiteral (rule : CaseRule) (contents : List Char)
  | regex (source : List Char)
  | compile (expression : List Char)
  | entry (item : Library.Entry)
  | lineComment (opening : List Char)
  | blockComment (opening closing : List Char)
  | sequence (operands : List Recipe)
  | choice (operands : List Recipe)
  | conjunction (operands : List Recipe)
  | longest (operands : List Recipe)
  | shortest (operands : List Recipe)
  | orUnlessNever (first second : Recipe)
  | thenUnlessNever (first second : Recipe)
  | negation (operand : Recipe)
  | lookahead (operand : Recipe)
  | conditional (condition consequence alternative : Recipe)
  | optional (operand : Recipe)
  | atLeast (min : Nat) (operand : Recipe)
  | atMost (max : Nat) (operand : Recipe)
  | times (min max : Nat) (operand : Recipe)
  | exactly (count : Nat) (operand : Recipe)

namespace Recipe

def many (operand : Recipe) : Recipe :=
  atLeast 0 operand

def many1 (operand : Recipe) : Recipe :=
  atLeast 1 operand

mutual

/-- The pattern that the calls build, or the first error. -/
def build : Recipe → Except BuildError Pattern
  | given pattern => .ok pattern
  | never => .ok Pattern.never
  | always => .ok Pattern.always
  | char predicate => .ok (Pattern.ofPredicate predicate)
  | take count => .ok (Pattern.take count)
  | takeAll count => .ok (Pattern.hasExact count)
  | literal rule contents => .ok (Pattern.ofText rule contents)
  | notLiteral rule contents => .ok (Pattern.notText rule contents)
  | regex source => Pattern.ofRegex source
  | compile expression => Dialect.compile expression
  | entry item => .ok item.pattern
  | lineComment opening => .ok (Library.lineComment opening)
  | blockComment opening closing =>
      .ok (Library.blockComment opening closing)
  | sequence operands => do
      return Pattern.seqOf (← buildList operands)
  | choice operands => do
      return Pattern.anyOf (← buildList operands)
  | conjunction operands => do
      return Pattern.allOf (← buildList operands)
  | longest operands => do
      return Pattern.longestOf (← buildList operands)
  | shortest operands => do
      return Pattern.shortestOf (← buildList operands)
  | orUnlessNever first second => do
      return Pattern.orUnlessNever (← build first) (← build second)
  | thenUnlessNever first second => do
      return Pattern.thenUnlessNever (← build first) (← build second)
  | negation operand => do
      return (← build operand).negate
  | lookahead operand => do
      return (← build operand).peek
  | conditional condition consequence alternative => do
      return Pattern.ifElse (← build condition) (← build consequence)
        (← build alternative)
  | optional operand => do
      return (← build operand).opt
  | atLeast min operand => do
      return (← build operand).atLeast min
  | atMost max operand => do
      return (← build operand).atMost max
  | times min max operand => do
      (← build operand).times min max
  | exactly count operand => do
      return (← build operand).rep count

def buildList : List Recipe → Except BuildError (List Pattern)
  | [] => .ok []
  | recipe :: recipes => do
      return (← build recipe) :: (← buildList recipes)

end

end Recipe

end TextPattern
