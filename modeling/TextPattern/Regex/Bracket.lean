import TextPattern.Regex.Escape

/-!
# Bracketed classes of regular expressions

A class is a union of characters, ranges, classes called by name and nested
classes.  Unions are combined by intersection `&&`, difference `--` and
symmetric difference `~~`, from left to right.
-/

namespace TextPattern

namespace Regex

/-- A set and how deep the brackets and operators nest that wrote it. -/
structure Bracket where
  set : CharSet
  depth : Nat

namespace Bracket

/-- A member that is no bracket. -/
def leaf (set : CharSet) : Bracket := ⟨set, 0⟩

/-- The union of the members, which counts as a level if there are several. -/
def unionOf : List Bracket → Bracket
  | [] => leaf .empty
  | [item] => item
  | items =>
      ⟨items.foldr (fun item set => .union item.set set) .empty,
        items.foldr (fun item depth => max item.depth depth) 0 + 1⟩

/-- The bracket around its contents. -/
def close (flags : Flags) (negated : Bool) (contents : Bracket) : Bracket :=
  ⟨.complementIf negated (.foldedIf flags.ignoreCase contents.set),
    contents.depth + 1⟩

end Bracket

inductive SetOperator where
  | inter
  | diff
  | symmDiff

def SetOperator.apply : SetOperator → CharSet → CharSet → CharSet
  | inter => .inter
  | diff => .diff
  | symmDiff => .symmDiff

/-- What has been read of a class: the combination of the unions before the
last operator, and the members after it, the last one first. -/
structure OpenBracket where
  flags : Flags
  negated : Bool
  left : Option (Bracket × SetOperator)
  items : List Bracket

namespace OpenBracket

def push (bracket : OpenBracket) (item : Bracket) : OpenBracket :=
  { bracket with items := item :: bracket.items }

def contents (bracket : OpenBracket) : Bracket :=
  let right := Bracket.unionOf bracket.items.reverse
  match bracket.left with
  | none => right
  | some (left, operator) =>
      let fold := CharSet.foldedIf bracket.flags.ignoreCase
      ⟨operator.apply (fold left.set) (fold right.set),
        max left.depth right.depth + 1⟩

def combine (bracket : OpenBracket) (operator : SetOperator) :
    OpenBracket :=
  { bracket with left := some (bracket.contents, operator), items := [] }

/-- The class after its closing bracket. -/
def close (bracket : OpenBracket) : Bracket :=
  bracket.contents.close bracket.flags bracket.negated

end OpenBracket

/-- The minus signs at the start of a class, which are members. -/
def readMinusSigns (bracket : OpenBracket) :
    List Char → OpenBracket × List Char
  | [] => (bracket, [])
  | c :: rest =>
      if c = '-' then
        readMinusSigns (bracket.push (.leaf (.single '-'))) rest
      else if bracket.flags.extended && Unicode.isWhiteSpace c then
        readMinusSigns bracket rest
      else (bracket, c :: rest)

/-- The start of a class, after its opening bracket: a caret negates it, minus
signs are members, and so is a closing bracket in the first place. -/
def openBracket (flags : Flags) (rest : List Char) :
    OpenBracket × List Char :=
  let (negated, rest) :=
    match flags.skip rest with
    | '^' :: rest => (true, flags.skip rest)
    | rest => (false, rest)
  let (bracket, rest) := readMinusSigns ⟨flags, negated, none, []⟩ rest
  match rest with
  | ']' :: after =>
      if bracket.items.isEmpty then
        (bracket.push (.leaf (.single ']')), after)
      else (bracket, rest)
  | rest => (bracket, rest)

/-- A class called by name, after its opening bracket, such as `:alpha:]`. -/
def readNamed? (flags : Flags) (rest : List Char) :
    Option (Bracket × List Char) :=
  match rest with
  | ':' :: rest =>
      let (negated, rest) :=
        match rest with
        | '^' :: rest => (true, rest)
        | rest => (false, rest)
      let name := rest.takeWhile (· != ':')
      match rest.dropWhile (· != ':') with
      | ':' :: ']' :: after => do
          let set ← CharSet.named? name
          some (.leaf (.complementIf negated (.foldedIf flags.ignoreCase set)),
            after)
      | _ => none
  | _ => none

/-- One character or escape sequence of a class. -/
def readClassAtom (flags : Flags) :
    List Char → Except Error (Escaped × List Char)
  | [] => .error .unclosedClass
  | '\\' :: rest => readEscape flags rest
  | c :: rest => .ok (.char c, rest)

/-- A single member or a range.  A minus sign makes a range unless a closing
bracket or another minus sign follows it. -/
def readMember (flags : Flags) (rest : List Char) :
    Except Error (Bracket × List Char) := do
  let (first, rest) ← readClassAtom flags rest
  let rest := flags.skip rest
  let single : Except Error (Bracket × List Char) :=
    match first with
    | .char c => .ok (.leaf (.single c), rest)
    | .set members => .ok (.leaf members, rest)
    | .look _ => .error .invalidClassItem
  match rest with
  | '-' :: after =>
      let after := flags.skip after
      match after with
      | ']' :: _ => single
      | '-' :: _ => single
      | _ => do
          let (last, rest) ← readClassAtom flags after
          match first, last with
          | .char lo, .char hi =>
              if lo ≤ hi then return (.leaf (.range lo hi), rest)
              else .error .invalidRange
          | _, _ => .error .invalidRange
  | _ => single

/-- Reads members and operators up to and with the closing bracket.  A nested
class is read by `nested`, from after its opening bracket. -/
def readMembers
    (nested : List Char → Except Error (Bracket × List Char))
    (bracket : OpenBracket) (rest : List Char) :
    Except Error (Bracket × List Char) :=
  let flags := bracket.flags
  let continueWith (next : OpenBracket) (after : List Char) :=
    if after.length < rest.length then readMembers nested next after
    else .error .unclosedClass
  match flags.skip rest with
  | [] => .error .unclosedClass
  | ']' :: after => .ok (bracket.close, after)
  | '[' :: after =>
      match readNamed? flags after with
      | some (item, after) => continueWith (bracket.push item) after
      | none =>
          match nested after with
          | .error error => .error error
          | .ok (item, after) => continueWith (bracket.push item) after
  | '&' :: '&' :: after => continueWith (bracket.combine .inter) after
  | '-' :: '-' :: after => continueWith (bracket.combine .diff) after
  | '~' :: '~' :: after => continueWith (bracket.combine .symmDiff) after
  | start =>
      match readMember flags start with
      | .error error => .error error
      | .ok (item, after) => continueWith (bracket.push item) after
termination_by rest.length

/-- Reads a class after its opening bracket, with room for so many nested
classes. -/
def readBracket (flags : Flags) :
    Nat → List Char → Except Error (Bracket × List Char)
  | 0, _ => .error .nestedTooDeep
  | room + 1, rest =>
      let (bracket, rest) := openBracket flags rest
      readMembers (readBracket flags room) bracket rest

end Regex

end TextPattern
