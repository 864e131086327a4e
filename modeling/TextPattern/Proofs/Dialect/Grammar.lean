import TextPattern.Dialect.Expr

/-!
# The grammar of the dialect

Which texts write an expression, independently of how they are read.  An
expression is one or more sequences with bars between them, a sequence is any
number of items, an item is an atom with any number of quantifiers, and a group
is an expression in parentheses.  The number that comes with each relation is
the number of groups that may be open inside each other.
-/

namespace TextPattern

namespace Dialect

/-! ## Quantifiers -/

/-- How a quantifier is written. -/
def Quantifier.text : Quantifier → List Char
  | any => ['*']
  | some => ['+']
  | optional => ['?']
  | exactly count => '\x7b' :: (count.digits ++ ['\x7d'])
  | atLeast min => '\x7b' :: (min.digits ++ [',', '\x7d'])
  | atMost max => '\x7b' :: ',' :: (max.digits ++ ['\x7d'])
  | between min max _ =>
      '\x7b' :: (min.digits ++ ',' :: (max.digits ++ ['\x7d']))
  | unbounded => ['\x7b', ',', '\x7d']

/-! ## Classes -/

/-- A character in a class, as itself or after a backslash. -/
inductive CharText : Char → List Char → Prop where
  | plain {c : Char} : c ≠ '\\' → CharText c [c]
  | escaped {written c : Char} :
      Escape.ofChar written = .char c → CharText c ['\\', written]

/-- No range goes on with the text: it does not start with a minus sign and
another character than the closing bracket. -/
def NoRange (text : List Char) : Prop :=
  ∀ c more, text = '-' :: c :: more → c = ']'

/-- A member of a class and the text after it.  A character that could start a
range is no single member. -/
inductive MemberText : Member → List Char → List Char → Prop where
  | single {c : Char} {text rest : List Char} :
      CharText c text → NoRange rest →
      MemberText (.single c) text rest
  | range {lo hi : Char} {first last rest : List Char} :
      CharText lo first → CharText hi last → last ≠ [']'] →
      MemberText (.range lo hi) (first ++ '-' :: last) rest
  | shorthand {written : Char} {members : Shorthand} {rest : List Char} :
      Escape.ofChar written = .shorthand members →
      MemberText (.shorthand members) ['\\', written] rest

/-- The members of a class after the first one, and the closing bracket. -/
inductive MembersText : List Member → List Char → Prop where
  | close : MembersText [] [']']
  | cons {member : Member} {members : List Member} {text more : List Char} :
      MemberText member text more → text.head? ≠ some ']' →
      MembersText members more →
      MembersText (member :: members) (text ++ more)

/-- A class after its opening bracket, up to the closing one. -/
inductive ClassText : CharClass → List Char → Prop where
  | plain {member : Member} {members : List Member}
      {text more : List Char} :
      MemberText member text more → text.head? ≠ some '^' →
      MembersText members more →
      ClassText ⟨false, member :: members⟩ (text ++ more)
  | negated {member : Member} {members : List Member}
      {text more : List Char} :
      MemberText member text more → MembersText members more →
      ClassText ⟨true, member :: members⟩ ('^' :: (text ++ more))

/-! ## Expressions -/

/-- The characters that do not stand for themselves outside a class. -/
def reserved : List Char :=
  ['(', ')', '[', ']', '\x7b', '\x7d', '|', '.', '$', '\\', '*', '+', '?',
    '^']

mutual

inductive AtomText : Nat → Expr → List Char → Prop where
  | anyChar {room : Nat} : AtomText room .anyChar ['.']
  | windowEnd {room : Nat} : AtomText room .windowEnd ['$']
  | char {room : Nat} {c : Char} :
      c ∉ reserved → AtomText room (.char c) [c]
  | escape {room : Nat} (c : Char) : AtomText room (.escape c) ['\\', c]
  | charClass {room : Nat} {members : CharClass} {text : List Char} :
      ClassText members text →
      AtomText room (.charClass members) ('[' :: text)
  | group {room : Nat} {operand : Expr} {text : List Char} :
      ExprText room operand text →
      AtomText (room + 1) (.group operand) ('(' :: (text ++ [')']))

/-- An atom and its quantifiers, of which the first one applies first. -/
inductive ItemText : Nat → Expr → List Char → Prop where
  | quantified {room : Nat} {atom : Expr} {text : List Char}
      (quantifiers : List Quantifier) :
      AtomText room atom text →
      ItemText room (quantifiers.foldl .quantified atom)
        (text ++ quantifiers.flatMap Quantifier.text)

inductive ItemsText : Nat → List Expr → List Char → Prop where
  | nil {room : Nat} : ItemsText room [] []
  | cons {room : Nat} {item : Expr} {items : List Expr}
      {text more : List Char} :
      ItemText room item text → ItemsText room items more →
      ItemsText room (item :: items) (text ++ more)

/-- Sequences with a bar before each of them. -/
inductive BranchesText : Nat → List Expr → List Char → Prop where
  | nil {room : Nat} : BranchesText room [] []
  | cons {room : Nat} {items branches : List Expr}
      {text more : List Char} :
      ItemsText room items text → BranchesText room branches more →
      BranchesText room (.sequence items :: branches) ('|' :: (text ++ more))

inductive ExprText : Nat → Expr → List Char → Prop where
  | alternatives {room : Nat} {items branches : List Expr}
      {text more : List Char} :
      ItemsText room items text → BranchesText room branches more →
      ExprText room (.alternatives (.sequence items :: branches))
        (text ++ more)

end

end Dialect

end TextPattern
