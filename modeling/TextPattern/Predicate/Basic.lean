import TextPattern.Unicode.Alphabetic
import TextPattern.Unicode.Uppercase
import TextPattern.Unicode.Lowercase
import TextPattern.Unicode.WhiteSpace

/-!
# Character predicates

A predicate is a test of one character.  The constructors are plain data;
`negate`, `allOf` and `anyOf` build composite predicates and leave out what
changes no test: a negated constant or leaf stays a leaf, and a conjunction or
disjunction of one predicate is that predicate.
-/

namespace TextPattern

/-- A test of one character. -/
inductive Predicate where
  | always
  | never
  | digit
  | hexDigit
  | uppercase
  | lowercase
  | alpha
  | alphaUnderscore
  | alphaNumeric
  | alphaNumericUnderscore
  | whitespace
  /-- A letter of any script. -/
  | letter
  | is (c : Char)
  | isNot (c : Char)
  /-- A character from `lo` to `hi`, both included. -/
  | range (lo hi : Char)
  | notRange (lo hi : Char)
  | among (set : List Char)
  | notAmong (set : List Char)
  | not (operand : Predicate)
  | all (operands : List Predicate)
  | any (operands : List Predicate)
  /-- A test supplied by the caller, with the name that describes it. -/
  | custom (name : String) (accepts : Char → Bool)

instance : Inhabited Predicate := ⟨.always⟩

namespace Predicate

def isHexDigit (c : Char) : Bool :=
  c.isDigit || ('a' ≤ c && c ≤ 'f') || ('A' ≤ c && c ≤ 'F')

mutual

def test : Predicate → Char → Bool
  | always, _ => true
  | never, _ => false
  | digit, c => c.isDigit
  | hexDigit, c => isHexDigit c
  | uppercase, c => Unicode.isUppercase c
  | lowercase, c => Unicode.isLowercase c
  | alpha, c => c.isAlpha
  | alphaUnderscore, c => c == '_' || c.isAlpha
  | alphaNumeric, c => c.isAlphanum
  | alphaNumericUnderscore, c => c == '_' || c.isAlphanum
  | whitespace, c => Unicode.isWhiteSpace c
  | letter, c => Unicode.isAlphabetic c
  | is d, c => d == c
  | isNot d, c => d != c
  | range lo hi, c => lo ≤ c && c ≤ hi
  | notRange lo hi, c => !(lo ≤ c && c ≤ hi)
  | among set, c => set.contains c
  | notAmong set, c => !set.contains c
  | not operand, c => !test operand c
  | all operands, c => testAll operands c
  | any operands, c => testAny operands c
  | custom _ accepts, c => accepts c

def testAll : List Predicate → Char → Bool
  | [], _ => true
  | operand :: operands, c => test operand c && testAll operands c

def testAny : List Predicate → Char → Bool
  | [], _ => false
  | operand :: operands, c => test operand c || testAny operands c

end

/-- The opposite test.  Leaves that come in pairs change to their partner, and
a negation is taken off. -/
def negate : Predicate → Predicate
  | always => never
  | never => always
  | is c => isNot c
  | isNot c => is c
  | range lo hi => notRange lo hi
  | notRange lo hi => range lo hi
  | among set => notAmong set
  | notAmong set => among set
  | not operand => operand
  | other => not other

def allOf : List Predicate → Predicate
  | [] => always
  | [operand] => operand
  | operands => all operands

def anyOf : List Predicate → Predicate
  | [] => never
  | [operand] => operand
  | operands => any operands

def and (left right : Predicate) : Predicate :=
  allOf [left, right]

def or (left right : Predicate) : Predicate :=
  anyOf [left, right]

/-- A small vowel of the Latin alphabet. -/
def vowel : Predicate :=
  custom "vowel" fun c => ['a', 'e', 'i', 'o', 'u'].contains c

/-- A character with an even code point. -/
def even : Predicate :=
  custom "even" fun c => c.toNat % 2 == 0

end Predicate

end TextPattern
