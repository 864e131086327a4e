import TextPattern.BuildError
import TextPattern.Pattern.Basic

/-!
# Building patterns

Patterns are built by the functions of this file, which leave out what cannot
matter: an operand that never or always matches is taken into account when the
pattern is built, and an operation on one operand is that operand.  The
simplified pattern matches as the full tree would.
-/

namespace TextPattern

namespace Pattern

/-! ## Leaves -/

def ofPredicate : Predicate → Pattern
  | .never => never
  | predicate => char predicate

def ofChar (c : Char) : Pattern :=
  ofPredicate (.is c)

def inRange (lo hi : Char) : Pattern :=
  ofPredicate (.range lo hi)

def oneOf (set : List Char) : Pattern :=
  ofPredicate (.among set)

/-- So many characters, whatever they are, of at least as many. -/
def take : Nat → Pattern
  | 0 => always
  | count => hasAtLeast count

def anyChar : Pattern :=
  take 1

def windowEnd : Pattern :=
  hasExact 0

def ofText (rule : CaseRule) : List Char → Pattern
  | [] => always
  | text => literal text rule

def notText (rule : CaseRule) (text : List Char) : Pattern :=
  notLiteral text rule

def ofRegex (source : List Char) : Except BuildError Pattern :=
  match Regex.compile source with
  | .ok compiled => .ok (regex source compiled)
  | .error error => .error (.regexRejected error.message.toList)

/-! ## Operations on any number of operands -/

/-- The node over several operands.  No operand gives `unit`, and a single one
stands for itself. -/
def gather (unit : Pattern) (node : List Pattern → Pattern) :
    List Pattern → Pattern
  | [] => unit
  | [operand] => operand
  | operands => node operands

def dropAlways (operands : List Pattern) : List Pattern :=
  operands.filter fun operand => !operand.isAlways

def dropNever (operands : List Pattern) : List Pattern :=
  operands.filter fun operand => !operand.isNever

def seqOf (operands : List Pattern) : Pattern :=
  if operands.any isNever then never
  else gather always sequence (dropAlways operands)

def anyOf (operands : List Pattern) : Pattern :=
  gather never choice (dropNever operands)

/-- All operands at the same place; the greatest length counts. -/
def allOf (operands : List Pattern) : Pattern :=
  if operands.any isNever then never
  else gather always conjunction (dropAlways operands)

def longestOf (operands : List Pattern) : Pattern :=
  gather never longest (dropNever operands)

def shortestOf (operands : List Pattern) : Pattern :=
  gather never shortest (dropNever operands)

/-! ## Operations on a fixed number of operands -/

/-- Nothing, where the operand mismatches. -/
def negate : Pattern → Pattern
  | never => always
  | always => never
  | operand => negation operand

/-- Nothing, where the operand matches. -/
def peek : Pattern → Pattern
  | never => never
  | always => always
  | operand => lookahead operand

/-- The condition and the consequence, or the alternative where the condition
mismatches. -/
def ifElse (condition consequence alternative : Pattern) : Pattern :=
  match condition with
  | never => alternative
  | always => consequence
  | condition => conditional condition consequence alternative

def opt : Pattern → Pattern
  | never => always
  | always => always
  | operand => optional operand

def andThen (first second : Pattern) : Pattern :=
  seqOf [first, second]

def orElse (first second : Pattern) : Pattern :=
  anyOf [first, second]

def both (left right : Pattern) : Pattern :=
  allOf [left, right]

def longer (left right : Pattern) : Pattern :=
  longestOf [left, right]

def shorter (left right : Pattern) : Pattern :=
  shortestOf [left, right]

/-- The alternative of two patterns, which is the other one where one never
matches. -/
def orUnlessNever (first second : Pattern) : Pattern :=
  if first.isNever then second
  else if second.isNever then first
  else first.orElse second

/-- The sequence of two patterns, which never matches where one of them never
does. -/
def thenUnlessNever (first second : Pattern) : Pattern :=
  if first.isNever || second.isNever then never
  else first.andThen second

/-! ## Quantifiers -/

/-- A repetition that needs no loop: of what matches nothing, and of what
never matches. -/
def collapse? (min : Nat) : Pattern → Option Pattern
  | always => some always
  | never => some (if min = 0 then always else never)
  | _ => none

def atLeast (min : Nat) (operand : Pattern) : Pattern :=
  (collapse? min operand).getD (repeated min none operand)

def many (operand : Pattern) : Pattern :=
  operand.atLeast 0

def many1 (operand : Pattern) : Pattern :=
  operand.atLeast 1

def atMost (max : Nat) (operand : Pattern) : Pattern :=
  (collapse? 0 operand).getD (repeated 0 (some max) operand)

def between (min max : Nat) (_ : min ≤ max) (operand : Pattern) : Pattern :=
  (collapse? min operand).getD (repeated min (some max) operand)

/-- From `min` to `max` iterations, if the bounds are in order. -/
def times (min max : Nat) (operand : Pattern) :
    Except BuildError Pattern :=
  if ordered : min ≤ max then .ok (operand.between min max ordered)
  else .error (.boundsReversed min max)

def rep (count : Nat) (operand : Pattern) : Pattern :=
  (collapse? count operand).getD (exactly count operand)

end Pattern

end TextPattern
