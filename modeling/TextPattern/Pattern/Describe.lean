import TextPattern.Pattern.Basic
import TextPattern.Predicate.Describe

/-!
# Descriptions of patterns

Every pattern has a one-line description, which shows the tree and not the
steps that built it.
-/

namespace TextPattern

namespace Pattern

open Text (decimal quoteText)

/-- A literal text, marked with `i` if it ignores case. -/
def describeLiteral (text : List Char) : CaseRule → List Char
  | .sensitive => quoteText text
  | .insensitive => 'i' :: quoteText text

def braces (contents : List Char) : List Char :=
  '\x7b' :: contents ++ ['\x7d']

/-- The quantifier of a repetition. -/
def describeBounds : Nat → Option Nat → List Char
  | 0, none => ['*']
  | 1, none => ['+']
  | min, none => braces (decimal min ++ [','])
  | 0, some max => braces (',' :: decimal max)
  | min, some max => braces (decimal min ++ ',' :: decimal max)

mutual

def describe : Pattern → List Char
  | never => "<never>".toList
  | always => "<always>".toList
  | char predicate => predicate.describe
  | hasAtLeast count =>
      "<at least ".toList ++ decimal count ++ " chars>".toList
  | hasExact count =>
      "<exactly ".toList ++ decimal count ++ " chars>".toList
  | literal text rule => describeLiteral text rule
  | notLiteral text rule => '!' :: describeLiteral text rule
  | regex source _ => '/' :: source ++ ['/']
  | sequence operands =>
      '(' :: [' '].intercalate (describeList operands) ++ [')']
  | choice operands =>
      '(' :: " | ".toList.intercalate (describeList operands) ++ [')']
  | conjunction operands =>
      '(' :: " & ".toList.intercalate (describeList operands) ++ [')']
  | longest operands =>
      "longest(".toList ++ ", ".toList.intercalate (describeList operands)
        ++ [')']
  | shortest operands =>
      "shortest(".toList ++ ", ".toList.intercalate (describeList operands)
        ++ [')']
  | negation operand => '!' :: describe operand
  | lookahead operand => '&' :: describe operand
  | conditional condition consequence alternative =>
      "(if ".toList ++ describe condition ++ " then ".toList
        ++ describe consequence ++ " else ".toList ++ describe alternative
        ++ [')']
  | optional operand => describe operand ++ ['?']
  | exactly count operand => describe operand ++ braces (decimal count)
  | repeated min max operand => describe operand ++ describeBounds min max

def describeList : List Pattern → List (List Char)
  | [] => []
  | operand :: operands => describe operand :: describeList operands

end

end Pattern

end TextPattern
