import TextPattern.Predicate.Basic
import TextPattern.Text.Escape

/-!
# Descriptions of predicates

Every predicate has a one-line description.  Composite predicates stand in
parentheses, so that descriptions can be nested.
-/

namespace TextPattern

namespace Predicate

open Text (quoteChar members escape)

mutual

def describe : Predicate → List Char
  | always => "any character".toList
  | never => "none".toList
  | digit => "[0-9]".toList
  | hexDigit => "[0-9a-fA-F]".toList
  | uppercase => "uppercase".toList
  | lowercase => "lowercase".toList
  | alpha => "[a-zA-Z]".toList
  | alphaUnderscore => "[a-zA-Z_]".toList
  | alphaNumeric => "[0-9a-zA-Z]".toList
  | alphaNumericUnderscore => "[0-9a-zA-Z_]".toList
  | whitespace => "whitespace".toList
  | letter => "letter".toList
  | is c => quoteChar c
  | isNot c => '^' :: quoteChar c
  | range lo hi =>
      ['['] ++ escape .member lo ++ ['-'] ++ escape .member hi ++ [']']
  | notRange lo hi =>
      ['[', '^'] ++ escape .member lo ++ ['-'] ++ escape .member hi ++ [']']
  | among set => ['['] ++ members set ++ [']']
  | notAmong set => ['[', '^'] ++ members set ++ [']']
  | not operand => '^' :: describe operand
  | all operands =>
      ['('] ++ [' ', 'a', 'n', 'd', ' '].intercalate (describeList operands)
        ++ [')']
  | any operands =>
      ['('] ++ [' ', '|', ' '].intercalate (describeList operands) ++ [')']
  | custom name _ => name.toList

def describeList : List Predicate → List (List Char)
  | [] => []
  | operand :: operands => describe operand :: describeList operands

end

end Predicate

end TextPattern
