import TextPattern.Dialect.Error

/-!
# Why a pattern cannot be built
-/

namespace TextPattern

/-- Why the arguments of a constructor make no pattern. -/
inductive BuildError where
  /-- A repetition whose least count exceeds the greatest one. -/
  | boundsReversed (min max : Nat)
  | regexRejected (reason : List Char)
  | malformed (position : Nat) (error : Dialect.Error)
deriving DecidableEq, Repr

def BuildError.message : BuildError → List Char
  | boundsReversed min max =>
      "invalid repetition bounds: min ".toList ++ Text.decimal min
        ++ " exceeds max ".toList ++ Text.decimal max
  | regexRejected reason => "invalid regular expression: ".toList ++ reason
  | malformed position error =>
      "syntax error at character ".toList ++ Text.decimal position
        ++ ": ".toList ++ error.message

end TextPattern
