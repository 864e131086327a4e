import TextPattern.Text.Escape

/-!
# Errors in expressions of the dialect
-/

namespace TextPattern

namespace Dialect

inductive Error where
  | unexpectedChar (c : Char)
  | unexpectedEnd
  | invalidNumber
  | unclosedGroup
  | unclosedClass
  /-- A quantifier without bounds or with bounds out of order. -/
  | invalidBounds
  | nothingToRepeat
  | nestedTooDeep (limit : Nat)
deriving DecidableEq, Repr

def Error.message : Error → List Char
  | unexpectedChar c => "unexpected character ".toList ++ Text.quoteChar c
  | unexpectedEnd => "unexpected end of expression".toList
  | invalidNumber => "invalid number".toList
  | unclosedGroup => "unclosed group '('".toList
  | unclosedClass => "unclosed character class '['".toList
  | invalidBounds => "invalid quantifier range \x7bn,m\x7d".toList
  | nothingToRepeat => "quantifier has nothing to repeat".toList
  | nestedTooDeep limit =>
      "groups nested deeper than ".toList ++ Text.decimal limit

end Dialect

end TextPattern
