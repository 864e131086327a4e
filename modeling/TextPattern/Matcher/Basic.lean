import TextPattern.Predicate.Basic
import TextPattern.Unicode.LowercaseMapping
import TextPattern.Window

/-!
# Matchers

A matcher looks at a window of a source and either consumes some characters
from the start of the window or mismatches.  The operations of this file are
the meanings of the pattern nodes other than repetition.  Operands are tried
from left to right, and nothing is tried again: once an operand has matched,
its length stands.
-/

namespace TextPattern

/-- How many characters are consumed at the start of a window, `none` for a
mismatch. -/
abbrev Matcher := Source → Window → Except Fault (Option Nat)

/-- How the characters of a literal are compared with the text. -/
inductive CaseRule where
  | sensitive
  | insensitive
deriving DecidableEq, Repr

/-- Whether a character of the text stands for a character of the literal.
Ignoring case, two characters agree when their lowercase forms do. -/
def CaseRule.agree : CaseRule → Char → Char → Bool
  | sensitive, actual, expected => actual == expected
  | insensitive, actual, expected =>
      actual == expected ||
        Unicode.toLowercase actual == Unicode.toLowercase expected

namespace Matcher

/-- Every attempt first checks that its window lies in the source. -/
def guarded (body : Matcher) : Matcher := fun source window =>
  if window.Within source then body source window
  else .error (.window window.first window.stop source.size)

def never : Matcher := fun _ _ => .ok none

def always : Matcher := fun _ _ => .ok (some 0)

def char (predicate : Predicate) : Matcher := fun source window =>
  if window.first < window.stop then do
    let c ← window.read source window.first
    return if predicate.test c then some 1 else none
  else .ok none

def hasAtLeast (count : Nat) : Matcher := fun _ window => do
  let width ← window.width
  return if count ≤ width then some count else none

def hasExact (count : Nat) : Matcher := fun _ window => do
  let width ← window.width
  return if width = count then some count else none

/-- Whether the text at a position of the window agrees with a literal. -/
def agreesAt (rule : CaseRule) (source : Source) (window : Window) :
    List Char → Nat → Except Fault Bool
  | [], _ => .ok true
  | expected :: rest, index => do
      let actual ← window.read source index
      if rule.agree actual expected then
        agreesAt rule source window rest (← Count.add index 1)
      else return false

def literal (rule : CaseRule) (text : List Char) : Matcher :=
  fun source window => do
    let width ← window.width
    if width < text.length then return none
    else if ← agreesAt rule source window text window.first then
      return some text.length
    else return none

def notLiteral (rule : CaseRule) (text : List Char) : Matcher :=
  fun source window =>
    if window.stop ≤ window.first then .ok none
    else do
      match ← literal rule text source window with
      | some _ => return none
      | none => return some 1

/-- The operands one after the other, from `position` on; the position after
the last one. -/
def sequenceFrom (source : Source) (stop : Nat) :
    List Matcher → Nat → Except Fault (Option Nat)
  | [], position => .ok (some position)
  | operand :: operands, position => do
      match ← operand source ⟨position, stop⟩ with
      | none => return none
      | some length =>
          sequenceFrom source stop operands (← Count.add position length)

def sequence (operands : List Matcher) : Matcher := fun source window => do
  match ← sequenceFrom source window.stop operands window.first with
  | none => return none
  | some position => return some (← Count.sub position window.first)

def choice : List Matcher → Matcher
  | [], _, _ => .ok none
  | operand :: operands, source, window => do
      match ← operand source window with
      | some length => return some length
      | none => choice operands source window

/-- All operands have to match; the greatest length counts, and it is at least
the length so far. -/
def conjunctionFrom : List Matcher → Nat → Matcher
  | [], longest, _, _ => .ok (some longest)
  | operand :: operands, longest, source, window => do
      match ← operand source window with
      | none => return none
      | some length =>
          conjunctionFrom operands (max longest length) source window

def conjunction (operands : List Matcher) : Matcher :=
  conjunctionFrom operands 0

/-- The best length of the operands that match, where a later one counts only
if it is better than the best so far. -/
def selectFrom (better : Nat → Nat → Bool) :
    List Matcher → Option Nat → Matcher
  | [], best, _, _ => .ok best
  | operand :: operands, best, source, window => do
      match ← operand source window, best with
      | none, _ => selectFrom better operands best source window
      | some length, none =>
          selectFrom better operands (some length) source window
      | some length, some held =>
          let kept := if better length held then length else held
          selectFrom better operands (some kept) source window

def longest (operands : List Matcher) : Matcher :=
  selectFrom (fun length held => decide (held < length)) operands none

def shortest (operands : List Matcher) : Matcher :=
  selectFrom (fun length held => decide (length < held)) operands none

def negation (operand : Matcher) : Matcher := fun source window => do
  match ← operand source window with
  | some _ => return none
  | none => return some 0

def lookahead (operand : Matcher) : Matcher := fun source window => do
  match ← operand source window with
  | some _ => return some 0
  | none => return none

/-- The condition and then the consequence; the alternative is tried only
where the condition itself mismatches. -/
def conditional (condition consequence alternative : Matcher) : Matcher :=
  fun source window => do
    match ← condition source window with
    | none => alternative source window
    | some head =>
        match ← consequence source (← window.advance head) with
        | none => return none
        | some tail => return some (← Count.add head tail)

def optional (operand : Matcher) : Matcher := fun source window => do
  match ← operand source window with
  | some length => return some length
  | none => return some 0

end Matcher

end TextPattern
