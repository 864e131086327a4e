import TextPattern.Matcher.Repetition
import TextPattern.Regex.Basic

/-!
# Patterns

A pattern is a tree whose leaves look at the text and whose inner nodes
combine what their operands found.  `Pattern.matcher` gives each node its
meaning; every node, inner or leaf, checks its window before it looks.
-/

namespace TextPattern

/-- A description of pieces of text. -/
inductive Pattern where
  /-- Mismatches everywhere. -/
  | never
  /-- Matches nothing, everywhere. -/
  | always
  | char (predicate : Predicate)
  /-- So many characters, if at least so many remain. -/
  | hasAtLeast (count : Nat)
  /-- So many characters, if exactly so many remain. -/
  | hasExact (count : Nat)
  | literal (text : List Char) (rule : CaseRule)
  | notLiteral (text : List Char) (rule : CaseRule)
  | regex (source : List Char) (compiled : Regex)
  | sequence (operands : List Pattern)
  | choice (operands : List Pattern)
  /-- All operands at the same place; the greatest length counts. -/
  | conjunction (operands : List Pattern)
  | longest (operands : List Pattern)
  | shortest (operands : List Pattern)
  | negation (operand : Pattern)
  | lookahead (operand : Pattern)
  /-- The condition and the consequence, or the alternative where the
  condition mismatches. -/
  | conditional (condition consequence alternative : Pattern)
  | optional (operand : Pattern)
  | exactly (count : Nat) (operand : Pattern)
  /-- So many iterations at least and, if bounded, at most. -/
  | repeated (min : Nat) (max : Option Nat) (operand : Pattern)

instance : Inhabited Pattern := ⟨.always⟩

/-- A regular expression sees a copy of the window. -/
def Matcher.regex (compiled : Regex) : Matcher := fun source window => do
  return compiled.matchLength (← source.copy window.first window.stop)

namespace Pattern

mutual

/-- What a pattern does at the start of a window. -/
def matcher : Pattern → Matcher
  | never => .guarded .never
  | always => .guarded .always
  | char predicate => .guarded (.char predicate)
  | hasAtLeast count => .guarded (.hasAtLeast count)
  | hasExact count => .guarded (.hasExact count)
  | literal text rule => .guarded (.literal rule text)
  | notLiteral text rule => .guarded (.notLiteral rule text)
  | regex _ compiled => .guarded (.regex compiled)
  | sequence operands => .guarded (.sequence (matcherList operands))
  | choice operands => .guarded (.choice (matcherList operands))
  | conjunction operands => .guarded (.conjunction (matcherList operands))
  | longest operands => .guarded (.longest (matcherList operands))
  | shortest operands => .guarded (.shortest (matcherList operands))
  | negation operand => .guarded (.negation (matcher operand))
  | lookahead operand => .guarded (.lookahead (matcher operand))
  | conditional condition consequence alternative =>
      .guarded (.conditional (matcher condition) (matcher consequence)
        (matcher alternative))
  | optional operand => .guarded (.optional (matcher operand))
  | exactly count operand => .guarded (.exactly count (matcher operand))
  | repeated min max operand =>
      .guarded (.repeated min max (matcher operand))

def matcherList : List Pattern → List Matcher
  | [] => []
  | operand :: operands => matcher operand :: matcherList operands

end

/-- Matches at the start of a window: how many characters are consumed, or
`none` for a mismatch. -/
def matchIn (pattern : Pattern) (source : Source) (window : Window) :
    Except Fault (Option Nat) :=
  pattern.matcher source window

/-- Matches at the start of a source, with the whole source in view. -/
def matchAll (pattern : Pattern) (source : Source) :
    Except Fault (Option Nat) :=
  pattern.matchIn source (.whole source)

def isNever : Pattern → Bool
  | never => true
  | _ => false

def isAlways : Pattern → Bool
  | always => true
  | _ => false

end Pattern

end TextPattern
