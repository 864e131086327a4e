import TextPattern.Pattern.Basic

/-!
# Extents

An extent says how many characters are consumed at the start of a text.  It
knows no sources, no positions and no faults, so it is what a pattern means.
Every operation on matchers has its counterpart here; the loops of the
quantifiers become recursions on the count, and the loop without a bound needs
no more iterations than the text has characters.
-/

namespace TextPattern

/-- How many characters are consumed at the start of a text, `none` for a
mismatch. -/
abbrev Extent := List Char → Option Nat

namespace Extent

def never : Extent := fun _ => none

def always : Extent := fun _ => some 0

def char (predicate : Predicate) : Extent
  | [] => none
  | c :: _ => if predicate.test c then some 1 else none

def hasAtLeast (count : Nat) : Extent := fun text =>
  if count ≤ text.length then some count else none

def hasExact (count : Nat) : Extent := fun text =>
  if text.length = count then some count else none

/-- Whether a text starts with a literal. -/
def startsWith (rule : CaseRule) : List Char → List Char → Bool
  | [], _ => true
  | _ :: _, [] => false
  | expected :: contents, actual :: text =>
      rule.agree actual expected && startsWith rule contents text

def literal (rule : CaseRule) (contents : List Char) : Extent := fun text =>
  if startsWith rule contents text then some contents.length else none

def notLiteral (rule : CaseRule) (contents : List Char) : Extent
  | [] => none
  | c :: text => if startsWith rule contents (c :: text) then none else some 1

/-- The operands one after the other, each on what the one before left. -/
def sequence : List Extent → Extent
  | [], _ => some 0
  | operand :: operands, text =>
      match operand text with
      | none => none
      | some length => (sequence operands (text.drop length)).map (length + ·)

def choice (operands : List Extent) : Extent := fun text =>
  operands.findSome? fun operand => operand text

/-- The greatest length, if all operands match. -/
def conjunction : List Extent → Extent
  | [], _ => some 0
  | operand :: operands, text =>
      match operand text, conjunction operands text with
      | some length, some longest => some (max length longest)
      | _, _ => none

/-- The lengths of the operands that match. -/
def lengths (operands : List Extent) (text : List Char) : List Nat :=
  operands.filterMap fun operand => operand text

def longest (operands : List Extent) : Extent := fun text =>
  (lengths operands text).max?

def shortest (operands : List Extent) : Extent := fun text =>
  (lengths operands text).min?

def negation (operand : Extent) : Extent := fun text =>
  match operand text with
  | some _ => none
  | none => some 0

def lookahead (operand : Extent) : Extent := fun text =>
  (operand text).map fun _ => 0

def conditional (condition consequence alternative : Extent) : Extent :=
  fun text =>
    match condition text with
    | none => alternative text
    | some head => (consequence (text.drop head)).map (head + ·)

def optional (operand : Extent) : Extent := fun text =>
  some ((operand text).getD 0)

/-- The operand so many times; an empty match settles all that remain. -/
def exactly (operand : Extent) : Nat → Extent
  | 0, _ => some 0
  | count + 1, text =>
      match operand text with
      | none => none
      | some 0 => some 0
      | some (length + 1) =>
          (exactly operand count (text.drop (length + 1))).map
            (length + 1 + ·)

/-- What the operand consumes in at most so many iterations. -/
def atMost (operand : Extent) : Nat → List Char → Nat
  | 0, _ => 0
  | count + 1, text =>
      match operand text with
      | none => 0
      | some 0 => 0
      | some (length + 1) =>
          length + 1 + atMost operand count (text.drop (length + 1))

/-- What the operand consumes in as many iterations as it takes.  Each of them
consumes a character, so there are no more than the text is long. -/
def many (operand : Extent) (text : List Char) : Nat :=
  atMost operand text.length text

/-- What the operand consumes after the mandatory iterations. -/
def more (min : Nat) (max : Option Nat) (operand : Extent)
    (text : List Char) : Nat :=
  match max with
  | none => many operand text
  | some max => atMost operand (max - min) text

def repeated (min : Nat) (max : Option Nat) (operand : Extent) : Extent :=
  fun text =>
    match exactly operand min text with
    | none => none
    | some head => some (head + more min max operand (text.drop head))

end Extent

namespace Pattern

mutual

/-- What a pattern consumes at the start of a text. -/
def extent : Pattern → Extent
  | never => .never
  | always => .always
  | char predicate => .char predicate
  | hasAtLeast count => .hasAtLeast count
  | hasExact count => .hasExact count
  | literal text rule => .literal rule text
  | notLiteral text rule => .notLiteral rule text
  | regex _ compiled => compiled.matchLength
  | sequence operands => .sequence (extentList operands)
  | choice operands => .choice (extentList operands)
  | conjunction operands => .conjunction (extentList operands)
  | longest operands => .longest (extentList operands)
  | shortest operands => .shortest (extentList operands)
  | negation operand => .negation (extent operand)
  | lookahead operand => .lookahead (extent operand)
  | conditional condition consequence alternative =>
      .conditional (extent condition) (extent consequence)
        (extent alternative)
  | optional operand => .optional (extent operand)
  | exactly count operand => .exactly (extent operand) count
  | repeated min max operand => .repeated min max (extent operand)

/-- The extents of some patterns, one by one. -/
def extentList : List Pattern → List Extent
  | [] => []
  | operand :: operands => extent operand :: extentList operands

end

@[simp] theorem extentList_eq_map (operands : List Pattern) :
    extentList operands = operands.map extent := by
  induction operands with
  | nil => rfl
  | cons operand operands ih => simp [extentList, ih]

@[simp] theorem matcherList_eq_map (operands : List Pattern) :
    matcherList operands = operands.map matcher := by
  induction operands with
  | nil => rfl
  | cons operand operands ih => simp [matcherList, ih]

end Pattern

end TextPattern
