import TextPattern.Regex.CharSet

/-!
# Regular expressions as trees

The tree of an expression after its flags have been applied: every class
stands for a definite set, every anchor for a definite condition, and every
repetition knows whether it is greedy.  Groups stay in the tree because they
count towards the depth that is allowed.
-/

namespace TextPattern

namespace Regex

/-- A condition on the characters around a position. -/
inductive Look where
  | textStart
  | textEnd
  | lineStart
  | lineEnd
  /-- Line bounds where `\r`, `\n` and `\r\n` all end a line. -/
  | anyLineStart
  | anyLineEnd
  | wordBoundary
  | noWordBoundary
  | wordStart
  | wordEnd
  | wordStartHalf
  | wordEndHalf
deriving DecidableEq, Repr

/-- Whether the condition holds between two characters; at a bound of the text
one is missing. -/
def Look.holds (look : Look) (before after : Option Char) : Bool :=
  let wordBefore := before.any isWordChar
  let wordAfter := after.any isWordChar
  match look with
  | textStart => before.isNone
  | textEnd => after.isNone
  | lineStart => before.isNone || before == some '\n'
  | lineEnd => after.isNone || after == some '\n'
  | anyLineStart =>
      before.isNone || before == some '\n' ||
        (before == some '\r' && after != some '\n')
  | anyLineEnd =>
      after.isNone || after == some '\r' ||
        (after == some '\n' && before != some '\r')
  | wordBoundary => wordBefore != wordAfter
  | noWordBoundary => wordBefore == wordAfter
  | wordStart => !wordBefore && wordAfter
  | wordEnd => wordBefore && !wordAfter
  | wordStartHalf => !wordBefore
  | wordEndHalf => !wordAfter

inductive Tree where
  | empty
  /-- One character of a set, which was written with brackets nested `depth`
  deep. -/
  | oneOf (set : CharSet) (depth : Nat)
  | look (condition : Look)
  | group (operand : Tree)
  | concat (operands : List Tree)
  | alternate (operands : List Tree)
  | repetition (min : Nat) (max : Option Nat) (greedy : Bool) (operand : Tree)

instance : Inhabited Tree := ⟨.empty⟩

namespace Tree

/-- One character of a set that was written without brackets. -/
def ofSet (set : CharSet) : Tree :=
  oneOf set 0

/-- The operands one after the other, where one operand stands for itself. -/
def concatOf : List Tree → Tree
  | [] => empty
  | [operand] => operand
  | operands => concat operands

mutual

def nullable : Tree → Bool
  | empty => true
  | oneOf _ _ => false
  | look _ => true
  | group operand => nullable operand
  | concat operands => nullableAll operands
  | alternate operands => nullableAny operands
  | repetition min _ _ operand => min == 0 || nullable operand

def nullableAll : List Tree → Bool
  | [] => true
  | operand :: operands => nullable operand && nullableAll operands

def nullableAny : List Tree → Bool
  | [] => false
  | operand :: operands => nullable operand || nullableAny operands

end

mutual

/-- Whether the expression never consumes a character. -/
def onlyEmpty : Tree → Bool
  | empty => true
  | oneOf _ _ => false
  | look _ => true
  | group operand => onlyEmpty operand
  | concat operands => onlyEmptyAll operands
  | alternate operands => onlyEmptyAll operands
  | repetition _ max _ operand => max == some 0 || onlyEmpty operand

def onlyEmptyAll : List Tree → Bool
  | [] => true
  | operand :: operands => onlyEmpty operand && onlyEmptyAll operands

end

/-- A repetition.  To repeat what consumes nothing changes nothing, so one
iteration is enough for it. -/
def repeated (min : Nat) (max : Option Nat) (greedy : Bool)
    (operand : Tree) : Tree :=
  if operand.onlyEmpty then
    repetition (Min.min min 1) (some (Min.min (max.getD 1) 1)) greedy operand
  else repetition min max greedy operand

mutual

/-- How deep operators and brackets nest. -/
def depth : Tree → Nat
  | empty => 0
  | oneOf _ brackets => brackets
  | look _ => 0
  | group operand => depth operand + 1
  | concat operands => depthMax operands + 1
  | alternate operands => depthMax operands + 1
  | repetition _ _ _ operand => depth operand + 1

def depthMax : List Tree → Nat
  | [] => 0
  | operand :: operands => max (depth operand) (depthMax operands)

end

mutual

/-- An estimate of the states of the compiled expression. -/
def weight : Tree → Nat
  | empty => 0
  | oneOf set _ => set.weight
  | look _ => 1
  | group operand => weight operand + 2
  | concat operands => weightSum operands
  | alternate operands => weightSum operands + 2
  | repetition min none _ operand => max min 1 * weight operand + 2
  | repetition min (some max) _ operand =>
      min * weight operand + (max - min) * (weight operand + 1) + 1

def weightSum : List Tree → Nat
  | [] => 0
  | operand :: operands => weight operand + weightSum operands

end

end Tree

end Regex

end TextPattern
