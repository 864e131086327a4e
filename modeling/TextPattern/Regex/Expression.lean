import TextPattern.Regex.Bracket
import TextPattern.Regex.Group

/-!
# Reading regular expressions

The parts of an expression are read from left to right into an open group:
the alternatives that are finished, the parts of the one in progress, and the
flags that hold at this place.  Flags switched inside an alternative stay on in
the alternatives after it.
-/

namespace TextPattern

namespace Regex

/-- Counts in braces are below this bound. -/
def countLimit : Nat := Nat.pow 2 32

/-- How deep operators and brackets may nest. -/
def depthLimit : Nat := 250

/-- The digits of a count.  Between them blanks are skipped where the flags
allow blanks. -/
def readDigits (flags : Flags) :
    Option Nat → List Char → Option Nat × List Char
  | value, [] => (value, [])
  | value, c :: rest =>
      if c.isDigit then
        readDigits flags (some (value.getD 0 * 10 + (c.toNat - 48))) rest
      else if flags.extended && value.isSome && Unicode.isWhiteSpace c then
        readDigits flags value rest
      else (value, c :: rest)

/-- A count with the blanks around it. -/
def readCount (flags : Flags) (rest : List Char) :
    Except Error (Nat × List Char) :=
  match readDigits flags none (rest.dropWhile Unicode.isWhiteSpace) with
  | (none, _) => .error .missingCount
  | (some value, rest) =>
      if value < countLimit then
        .ok (value, flags.skip (rest.dropWhile Unicode.isWhiteSpace))
      else .error .invalidCount

/-- The bounds of a counted repetition, after its opening brace. -/
def readBounds (flags : Flags) (rest : List Char) :
    Except Error (Nat × Option Nat × List Char) := do
  let (min, rest) ← readCount flags (flags.skip rest)
  let (max, rest) ←
    match rest with
    | ',' :: rest =>
        match flags.skip rest with
        | '\x7d' :: after => pure (none, '\x7d' :: after)
        | rest => do
            let (max, rest) ← readCount flags rest
            pure (some max, rest)
    | rest => pure (some min, rest)
  match rest with
  | '\x7d' :: rest =>
      if max.all (min ≤ ·) then return (min, max, rest)
      else .error .invalidCount
  | _ => .error .unclosedCount

/-- What has been read of a group: the alternatives before the one in
progress and the parts of that one, in both lists the last one first. -/
structure OpenGroup where
  flags : Flags
  finished : List Tree
  parts : List Tree

namespace OpenGroup

def start (flags : Flags) : OpenGroup := ⟨flags, [], []⟩

def push (group : OpenGroup) (part : Tree) : OpenGroup :=
  { group with parts := part :: group.parts }

def pushChar (group : OpenGroup) (c : Char) : OpenGroup :=
  group.push (.ofSet (.foldedIf group.flags.ignoreCase (.single c)))

def nextAlternative (group : OpenGroup) : OpenGroup :=
  { group with
    finished := .concatOf group.parts.reverse :: group.finished
    parts := [] }

def tree (group : OpenGroup) : Tree :=
  let last := Tree.concatOf group.parts.reverse
  match group.finished with
  | [] => last
  | finished => .alternate (last :: finished).reverse

def repeatLast (group : OpenGroup) (min : Nat) (max : Option Nat)
    (greedy : Bool) : Except Error OpenGroup :=
  match group.parts with
  | [] => .error .nothingToRepeat
  | .empty :: _ => .error .nothingToRepeat
  | part :: parts =>
      let greedy := greedy != group.flags.swapGreed
      .ok { group with parts := .repeated min max greedy part :: parts }

end OpenGroup

/-- Whether a question mark makes a repetition reluctant. -/
def readGreed : List Char → Bool × List Char
  | '?' :: rest => (false, rest)
  | rest => (true, rest)

def dotSet (flags : Flags) : CharSet :=
  if flags.dotAll then .full
  else if flags.anyLineEnd then
    .complement (.ranges [('\n', '\n'), ('\r', '\r')])
  else .complement (.single '\n')

def caretLook (flags : Flags) : Look :=
  if !flags.multiLine then .textStart
  else if flags.anyLineEnd then .anyLineStart
  else .lineStart

def dollarLook (flags : Flags) : Look :=
  if !flags.multiLine then .textEnd
  else if flags.anyLineEnd then .anyLineEnd
  else .lineEnd

/-- Reads one part of a group.  The contents of a nested group are read by
`nested`, from after its opening.  Without a result the group has ended. -/
def readPart
    (nested : Flags → Unread → Except Error (Tree × Unread))
    (group : OpenGroup) (unread : Unread) :
    Except Error (Option (OpenGroup × Unread)) := do
  let flags := group.flags
  let simple (group : OpenGroup) (rest : List Char) :=
    some (group, { unread with rest })
  let repetition (min : Nat) (max : Option Nat) (rest : List Char) := do
    let (greedy, rest) := readGreed rest
    return simple (← group.repeatLast min max greedy) rest
  match flags.skip unread.rest with
  | [] => return none
  | ')' :: _ => return none
  | '|' :: rest => return simple group.nextAlternative rest
  | '(' :: rest =>
      match ← readOpening flags { unread with rest } with
      | (.flags inner, unread) =>
          return some ({ group.push .empty with flags := inner }, unread)
      | (.group inner, unread) =>
          let (tree, unread) ← nested inner unread
          return some (group.push (.group tree), unread)
  | '[' :: rest =>
      let (bracket, rest) ← readBracket flags depthLimit rest
      return simple (group.push (.oneOf bracket.set bracket.depth)) rest
  | '*' :: rest => repetition 0 none rest
  | '+' :: rest => repetition 1 none rest
  | '?' :: rest => repetition 0 (some 1) rest
  | '\x7b' :: rest =>
      let (min, max, rest) ← readBounds flags rest
      repetition min max (flags.skip rest)
  | '.' :: rest => return simple (group.push (.ofSet (dotSet flags))) rest
  | '^' :: rest => return simple (group.push (.look (caretLook flags))) rest
  | '$' :: rest => return simple (group.push (.look (dollarLook flags))) rest
  | '\\' :: rest =>
      match ← readEscape flags rest with
      | (.char c, rest) => return simple (group.pushChar c) rest
      | (.set members, rest) => return simple (group.push (.ofSet members)) rest
      | (.look condition, rest) =>
          return simple (group.push (.look condition)) rest
  | c :: rest => return simple (group.pushChar c) rest

/-- Reads the parts of a group up to, and without, its closing parenthesis or
the end of the expression. -/
def readParts
    (nested : Flags → Unread → Except Error (Tree × Unread))
    (group : OpenGroup) (unread : Unread) : Except Error (Tree × Unread) :=
  match readPart nested group unread with
  | .error error => .error error
  | .ok none =>
      .ok (group.tree,
        { unread with rest := group.flags.skip unread.rest })
  | .ok (some (next, after)) =>
      if after.rest.length < unread.rest.length then
        readParts nested next after
      else .ok (next.tree, after)
termination_by unread.rest.length

/-- Reads the contents of a group and its closing parenthesis, with room for
so many nested groups. -/
def readGroup :
    Nat → Flags → Unread → Except Error (Tree × Unread)
  | 0, _, _ => .error .nestedTooDeep
  | room + 1, flags, unread => do
      let (tree, after) ← readParts (readGroup room) (.start flags) unread
      match after.rest with
      | ')' :: rest => return (tree, { after with rest })
      | _ => .error .unclosedGroup

def readTree (expression : List Char) : Except Error Tree := do
  let (tree, after) ←
    readParts (readGroup depthLimit) (.start {}) ⟨expression, []⟩
  if !after.rest.isEmpty then .error .unopenedGroup
  else if depthLimit < tree.depth then .error .nestedTooDeep
  else return tree

end Regex

end TextPattern
