/-!
# Why a regular expression is rejected
-/

namespace TextPattern

namespace Regex

inductive Error where
  | unclosedGroup
  | unopenedGroup
  | unclosedClass
  | invalidRange
  | invalidClassItem
  | nothingToRepeat
  | unclosedCount
  | missingCount
  | invalidCount
  | trailingBackslash
  | unknownEscape (c : Char)
  | backreference
  | lookaround
  | invalidCodePoint
  | unknownFlag (c : Char)
  | repeatedFlag
  | danglingMinus
  | unsupportedFlag
  | invalidGroupName
  | repeatedGroupName
  | nestedTooDeep
  | tooLarge
deriving DecidableEq, Repr

def Error.message : Error → String
  | unclosedGroup => "unclosed group"
  | unopenedGroup => "unopened group"
  | unclosedClass => "unclosed character class"
  | invalidRange => "character range out of order"
  | invalidClassItem => "not a member of a character class"
  | nothingToRepeat => "repetition operator without an expression"
  | unclosedCount => "unclosed repetition count"
  | missingCount => "repetition count without a number"
  | invalidCount => "invalid repetition count"
  | trailingBackslash => "incomplete escape sequence"
  | unknownEscape c => "unknown escape sequence \\" ++ c.toString
  | backreference => "backreferences are not supported"
  | lookaround => "lookaround is not supported"
  | invalidCodePoint => "not a code point"
  | unknownFlag c => "unknown flag " ++ c.toString
  | repeatedFlag => "repeated flag"
  | danglingMinus => "no flag after the minus sign"
  | unsupportedFlag => "texts are sequences of characters"
  | invalidGroupName => "invalid group name"
  | repeatedGroupName => "repeated group name"
  | nestedTooDeep => "expression nested too deep"
  | tooLarge => "expression too large"

end Regex

end TextPattern
