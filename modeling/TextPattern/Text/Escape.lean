import TextPattern.Unicode.DefaultIgnorable
import TextPattern.Unicode.GraphemeExtend
import TextPattern.Unicode.Unprintable

/-!
# Written forms of characters and texts

Descriptions and reports show characters in a form that can be read back.  The
form is the same everywhere except for the quotation marks: inside single
quotes only the single quote is escaped, inside double quotes only the double
quote, and between brackets both.
-/

namespace TextPattern

namespace Text

/-- Which quotation marks take a backslash. -/
structure Quoting where
  single : Bool
  double : Bool

/-- A character between single quotes. -/
def Quoting.character : Quoting := ⟨true, false⟩

/-- A text between double quotes. -/
def Quoting.text : Quoting := ⟨false, true⟩

/-- A member of a set between brackets. -/
def Quoting.member : Quoting := ⟨true, true⟩

/-- Whether the quotation mark takes a backslash. -/
def Quoting.marks (quoting : Quoting) (c : Char) : Bool :=
  (c == '\'' && quoting.single) || (c == '"' && quoting.double)

def hexDigit (n : Nat) : Char :=
  if n < 10 then Char.ofNat (n + 48) else Char.ofNat (n + 87)

/-- A number in base sixteen, in small letters and without leading zeros. -/
def hexDigits (n : Nat) : List Char :=
  if n < 16 then [hexDigit n] else hexDigits (n / 16) ++ [hexDigit (n % 16)]

/-- The letter after the backslash, for the characters that have one. -/
def escapeLetter? (c : Char) : Option Char :=
  if c = '\x00' then some '0'
  else if c = '\t' then some 't'
  else if c = '\r' then some 'r'
  else if c = '\n' then some 'n'
  else if c = '\\' then some '\\'
  else none

/-- The halfwidth voiced and semi-voiced sound marks of katakana. -/
def isHalfwidthMark (c : Char) : Bool :=
  c == '\uff9e' || c == '\uff9f'

/-- Whether a character would join the character before it.  The halfwidth
sound marks extend a grapheme too, but are letters with a place of their
own. -/
def isJoining (c : Char) : Bool :=
  Unicode.isGraphemeExtend c && !isHalfwidthMark c

/-- Whether a character is shown as itself, which needs something to see: it
neither joins the character before it nor may go unseen.  The plain space is
shown, although it is a separator. -/
def isShown (c : Char) : Bool :=
  !isJoining c && !Unicode.isDefaultIgnorable c &&
    (c == ' ' || !Unicode.isUnprintable c)

def codePoint (c : Char) : List Char :=
  ['\\', 'u', '\x7b'] ++ hexDigits c.toNat ++ ['\x7d']

def escape (quoting : Quoting) (c : Char) : List Char :=
  match escapeLetter? c with
  | some letter => ['\\', letter]
  | none =>
      if quoting.marks c then ['\\', c]
      else if isShown c then [c]
      else codePoint c

def quoteChar (c : Char) : List Char :=
  '\'' :: escape .character c ++ ['\'']

def quoteText (text : List Char) : List Char :=
  '"' :: text.flatMap (escape .text) ++ ['"']

def members (set : List Char) : List Char :=
  set.flatMap (escape .member)

def decimal (n : Nat) : List Char :=
  n.repr.toList

end Text

end TextPattern
