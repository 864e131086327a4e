import TextPattern.Predicate.Basic

/-!
# Equality of predicates

Two predicates are the same when they are built alike.  Supplied tests are the
same when they carry the same name and agree on every character, which is
decided by asking them about all code points.
-/

namespace TextPattern

namespace Predicate

/-- Whether two tests agree on all the characters with a code point below the
bound. -/
def agreeBelow (left right : Char → Bool) : Nat → Bool
  | 0 => true
  | n + 1 =>
      left (Char.ofNat n) == right (Char.ofNat n) && agreeBelow left right n

mutual

/-- Whether two predicates are built alike. -/
def same : Predicate → Predicate → Bool
  | always, always => true
  | never, never => true
  | digit, digit => true
  | hexDigit, hexDigit => true
  | uppercase, uppercase => true
  | lowercase, lowercase => true
  | alpha, alpha => true
  | alphaUnderscore, alphaUnderscore => true
  | alphaNumeric, alphaNumeric => true
  | alphaNumericUnderscore, alphaNumericUnderscore => true
  | whitespace, whitespace => true
  | letter, letter => true
  | is c, is d => c == d
  | isNot c, isNot d => c == d
  | range lo hi, range lo' hi' => lo == lo' && hi == hi'
  | notRange lo hi, notRange lo' hi' => lo == lo' && hi == hi'
  | among set, among set' => set == set'
  | notAmong set, notAmong set' => set == set'
  | not operand, not operand' => same operand operand'
  | all operands, all operands' => sameList operands operands'
  | any operands, any operands' => sameList operands operands'
  | custom name accepts, custom name' accepts' =>
      name == name' && agreeBelow accepts accepts' 0x110000
  | _, _ => false

def sameList : List Predicate → List Predicate → Bool
  | [], [] => true
  | operand :: operands, operand' :: operands' =>
      same operand operand' && sameList operands operands'
  | _, _ => false

end

instance : BEq Predicate := ⟨same⟩

end Predicate

end TextPattern
