import TextPattern.Dialect.Class

/-!
# Reading expressions

An expression is a choice of sequences, a sequence is a list of items, and an
item is an atom with any number of quantifiers.  Groups nest to a fixed depth,
which is what the reading of an expression recurses on; all else is read from
left to right.
-/

namespace TextPattern

namespace Dialect

open Reading

/-- How many groups may be open at the same time. -/
def maxNesting : Nat := 128

def readNumber : Reading Numeral := do
  match Numeral.ofDigits? (← takeWhile Char.isDigit) with
  | some numeral => return numeral
  | none => throw .invalidNumber

/-- The quantifier with the bounds that are given. -/
def quantifierOf : Option Numeral → Option Numeral → Reading Quantifier
  | none, none => return .unbounded
  | some min, none => return .atLeast min
  | none, some max => return .atMost max
  | some min, some max =>
      if ordered : min.value ≤ max.value then
        return .between min max ordered
      else throw .invalidBounds

/-- Reads a bound of a quantifier in braces, unless one of the given characters
comes in its place. -/
def readBound (ends : List Char) : Reading (Option Numeral) := do
  if (← peek).any ends.contains then return none
  else return some (← readNumber)

/-- Reads what follows the first bound of a quantifier in braces. -/
def readBracedFrom (first : Option Numeral) : Reading Quantifier := do
  if (← peek) == some '\x7d' then
    expect '\x7d'
    match first with
    | some count => return .exactly count
    | none => throw .invalidBounds
  else
    expect ','
    let second ← readBound ['\x7d']
    expect '\x7d'
    quantifierOf first second

/-- Reads a quantifier in braces, after its opening brace. -/
def readBraced : Reading Quantifier := do
  readBracedFrom (← readBound [',', '\x7d'])

def readQuantifier : Reading (Option Quantifier) := do
  match ← peek with
  | some '*' => expect '*'; return some .any
  | some '+' => expect '+'; return some .some
  | some '?' => expect '?'; return some .optional
  | some '\x7b' => expect '\x7b'; return some (← readBraced)
  | _ => return none

/-- Reads an atom.  A group is read by `group`, from after its opening
parenthesis. -/
def readAtom (group : Reading Expr) : Reading Expr := do
  match ← next with
  | none => throw .unexpectedEnd
  | some '(' => return .group (← group)
  | some '[' => return .charClass (← readClass)
  | some '.' => return .anyChar
  | some '$' => return .windowEnd
  | some '\\' => return .escape (← readEscaped)
  | some c =>
      if ['*', '+', '?', '\x7b'].contains c then throw .nothingToRepeat
      else if ['^', ']', '\x7d'].contains c then throw (.unexpectedChar c)
      else return .char c

/-- Reads an atom and the quantifiers after it, which apply from left to
right. -/
def readItem (group : Reading Expr) : Reading Expr := do
  let atom ← readAtom group
  let quantifiers ← collect readQuantifier
  return quantifiers.foldl Expr.quantified atom

/-- Reads an item, unless the sequence ends here. -/
def readNextItem (group : Reading Expr) : Reading (Option Expr) := do
  match ← peek with
  | none => return none
  | some '|' => return none
  | some ')' => return none
  | some _ => return some (← readItem group)

def readSequence (group : Reading Expr) : Reading Expr := do
  return .sequence (← collect (readNextItem group))

def readNextAlternative (group : Reading Expr) :
    Reading (Option Expr) := do
  if (← peek) == some '|' then
    expect '|'
    return some (← readSequence group)
  else return none

/-- Reads one or more sequences with bars between them. -/
def readAlternatives (group : Reading Expr) : Reading Expr := do
  let first ← readSequence group
  let others ← collect (readNextAlternative group)
  return .alternatives (first :: others)

def readGroupEnd : Reading Unit := do
  match ← next with
  | some ')' => return ()
  | _ => throw .unclosedGroup

/-- Reads an expression in which so many groups may still be opened inside
each other. -/
def readExpr : Nat → Reading Expr
  | 0 => readAlternatives (throw (.nestedTooDeep maxNesting))
  | room + 1 => readAlternatives do
      let inner ← readExpr room
      readGroupEnd
      return inner

/-- Where and why an expression is malformed. -/
structure Failure where
  position : Nat
  error : Error
deriving DecidableEq, Repr

def parse (text : List Char) : Except Failure Expr :=
  match readExpr maxNesting ⟨text, 0⟩ with
  | .error error cursor => .error ⟨cursor.position, error⟩
  | .ok expr cursor =>
      match cursor.rest with
      | [] => .ok expr
      | c :: _ => .error ⟨cursor.position, .unexpectedChar c⟩

def compile (text : List Char) : Except BuildError Pattern :=
  match parse text with
  | .ok expr => .ok expr.toPattern
  | .error failure => .error (.malformed failure.position failure.error)

end Dialect

end TextPattern
