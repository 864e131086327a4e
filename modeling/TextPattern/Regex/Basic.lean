import TextPattern.Regex.Expression
import TextPattern.Regex.Run

/-!
# Regular expressions that match at the start of a text

An expression is anchored by putting it into a group after `^`.  It has to be
an expression by itself as well, so that it cannot end that group early.
Matching needs nothing of a compiled expression but the length of its match,
a function of the text alone.
-/

namespace TextPattern

structure Regex where
  /-- The length of the preferred match. -/
  matchLength : List Char → Option Nat
  /-- A match lies in the text. -/
  inside : ∀ {text : List Char} {length : Nat},
    matchLength text = some length → length ≤ text.length

namespace Regex

/-- How large a compiled expression may be. -/
def weightLimit : Nat := 327680

/-- The expression in a group after `^`. -/
def anchored (expression : List Char) : List Char :=
  ['^', '(', '?', ':'] ++ expression ++ [')']

/-- Reads an expression whose compiled form has an acceptable size. -/
def readSized (expression : List Char) : Except Error Tree := do
  let tree ← readTree expression
  if weightLimit < tree.weight then .error .tooLarge else return tree

def compile (expression : List Char) : Except Error Regex := do
  let _ ← readSized expression
  let tree ← readSized (anchored expression)
  return ⟨tree.program.run, Program.run_le⟩

end Regex

end TextPattern
