import TextPattern.Pattern.Build

/-!
# Ready-made patterns

Numbers, words, quoted texts and comments as they occur in many languages.
-/

namespace TextPattern

namespace Library

open Pattern (ofPredicate ofChar ofText inRange oneOf anyChar seqOf notText)

def integer : Pattern :=
  (ofPredicate .digit).many1

def fraction : Pattern :=
  (ofChar '.').andThen integer

def strictDecimal : Pattern :=
  integer.andThen ((ofChar '.').andThen (ofPredicate .digit).many).opt

def decimal : Pattern :=
  strictDecimal.orElse fraction

def word : Pattern :=
  (ofPredicate .alphaUnderscore).andThen
    (ofPredicate .alphaNumericUnderscore).many

def octInteger : Pattern :=
  (ofChar '0').andThen (inRange '0' '7').many

def decInteger : Pattern :=
  (inRange '1' '9').andThen (ofPredicate .digit).many

def hexInteger : Pattern :=
  ((ofText .sensitive ['0', 'x']).orElse
    (ofText .sensitive ['0', 'X'])).andThen (ofPredicate .hexDigit).many1

def scientificNotation : Pattern :=
  seqOf [decimal, oneOf ['e', 'E'], (oneOf ['+', '-']).opt, integer]

def escapedChar : Pattern :=
  (ofChar '\\').andThen anyChar

/-- A text in double quotes, with backslash escapes. -/
def doubleQuotedString : Pattern :=
  let body := escapedChar.orElse (ofPredicate (.notAmong ['"', '\\']))
  seqOf [ofChar '"', body.many, ofChar '"']

/-- A text in single quotes, where two of them stand for one. -/
def singleQuotedString : Pattern :=
  let body :=
    (ofText .sensitive ['\'', '\'']).orElse (ofPredicate (.isNot '\''))
  seqOf [ofChar '\'', body.many, ofChar '\'']

/-- A text between slashes, with backslash escapes.  A line break occurs in it
only after a backslash. -/
def regexpLiteral : Pattern :=
  let body := escapedChar.orElse
    (ofPredicate (.notAmong ['/', '\r', '\n', '\\']))
  seqOf [ofChar '/', body.many, ofChar '/']

def regexpModifiers : Pattern :=
  (ofPredicate .alpha).many

/-- An opening text and the rest of the line. -/
def lineComment (opening : List Char) : Pattern :=
  (ofText .sensitive opening).andThen
    (ofPredicate (.notAmong ['\r', '\n'])).many

/-- An opening text, anything in which the closing text does not start, and
the closing text. -/
def blockComment (opening closing : List Char) : Pattern :=
  seqOf [ofText .sensitive opening, (notText .sensitive closing).many,
    ofText .sensitive closing]

/-- The ready-made patterns without parameters. -/
inductive Entry where
  | decInteger
  | decimal
  | doubleQuotedString
  | escapedChar
  | fraction
  | hexInteger
  | integer
  | octInteger
  | regexpLiteral
  | regexpModifiers
  | scientificNotation
  | singleQuotedString
  | strictDecimal
  | word
deriving DecidableEq, Repr

namespace Entry

/-- All entries, in the order of their names. -/
def all : List Entry :=
  [decInteger, decimal, doubleQuotedString, escapedChar, fraction, hexInteger,
    integer, octInteger, regexpLiteral, regexpModifiers, scientificNotation,
    singleQuotedString, strictDecimal, word]

def name : Entry → String
  | decInteger => "dec-integer"
  | decimal => "decimal"
  | doubleQuotedString => "double-quoted-string"
  | escapedChar => "escaped-char"
  | fraction => "fraction"
  | hexInteger => "hex-integer"
  | integer => "integer"
  | octInteger => "oct-integer"
  | regexpLiteral => "regexp-literal"
  | regexpModifiers => "regexp-modifiers"
  | scientificNotation => "scientific-notation"
  | singleQuotedString => "single-quoted-string"
  | strictDecimal => "strict-decimal"
  | word => "word"

def pattern : Entry → Pattern
  | decInteger => Library.decInteger
  | decimal => Library.decimal
  | doubleQuotedString => Library.doubleQuotedString
  | escapedChar => Library.escapedChar
  | fraction => Library.fraction
  | hexInteger => Library.hexInteger
  | integer => Library.integer
  | octInteger => Library.octInteger
  | regexpLiteral => Library.regexpLiteral
  | regexpModifiers => Library.regexpModifiers
  | scientificNotation => Library.scientificNotation
  | singleQuotedString => Library.singleQuotedString
  | strictDecimal => Library.strictDecimal
  | word => Library.word

def ofName? (name : String) : Option Entry :=
  all.find? fun entry => entry.name == name

end Entry

end Library

end TextPattern
