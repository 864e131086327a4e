import TextPattern.Dialect.Expr

/-!
# What an expression derives

The ordinary meaning of an expression does not know the order in which things
are tried.  It is a relation between positions of a text: alternatives are a
union, a sequence is a composition, and a quantifier allows a range of
iteration counts, of which any may be taken.  Neither greediness nor the order
of the alternatives has a place in it.
-/

namespace TextPattern

namespace Dialect

/-! ## Characters -/

def Shorthand.Accepts : Shorthand → Char → Prop
  | digit, c => c.isDigit = true
  | notDigit, c => ¬ c.isDigit = true
  | word, c => c.isAlphanum = true ∨ c = '_'
  | notWord, c => ¬ (c.isAlphanum = true ∨ c = '_')
  | space, c => Unicode.isWhiteSpace c = true
  | notSpace, c => ¬ Unicode.isWhiteSpace c = true

def Escape.Accepts : Escape → Char → Prop
  | shorthand members, c => members.Accepts c
  | char meant, c => c = meant

def Member.Accepts : Member → Char → Prop
  | single meant, c => c = meant
  | range lo hi, c => lo ≤ c ∧ c ≤ hi
  | shorthand members, c => members.Accepts c

/-- A class accepts what one of its members accepts, or if it is negated what
none of them does. -/
def CharClass.Accepts (cls : CharClass) (c : Char) : Prop :=
  if cls.negated then ¬ ∃ member ∈ cls.members, member.Accepts c
  else ∃ member ∈ cls.members, member.Accepts c

/-! ## Counts -/

/-- The counts of iterations that a quantifier allows. -/
def Quantifier.Allows : Quantifier → Nat → Prop
  | any, _ => True
  | some, count => 1 ≤ count
  | optional, count => count ≤ 1
  | exactly bound, count => count = bound.value
  | atLeast min, count => min.value ≤ count
  | atMost max, count => count ≤ max.value
  | between min max _, count => min.value ≤ count ∧ count ≤ max.value
  | unbounded, _ => True

/-! ## Positions -/

section

variable (text : List Char)

mutual

/-- The part of the text from the first position up to the second one belongs
to the expression. -/
inductive Derives : Expr → Nat → Nat → Prop where
  | anyChar {position : Nat} :
      position < text.length → Derives .anyChar position (position + 1)
  | windowEnd : Derives .windowEnd text.length text.length
  | char {c : Char} {position : Nat} :
      text[position]? = some c → Derives (.char c) position (position + 1)
  | escape {written c : Char} {position : Nat} :
      text[position]? = some c → (Escape.ofChar written).Accepts c →
      Derives (.escape written) position (position + 1)
  | charClass {members : CharClass} {c : Char} {position : Nat} :
      text[position]? = some c → members.Accepts c →
      Derives (.charClass members) position (position + 1)
  | group {operand : Expr} {first stop : Nat} :
      Derives operand first stop → Derives (.group operand) first stop
  | quantified {operand : Expr} {quantifier : Quantifier}
      {count first stop : Nat} :
      quantifier.Allows count → DerivesTimes operand count first stop →
      Derives (.quantified operand quantifier) first stop
  | sequence {items : List Expr} {first stop : Nat} :
      DerivesAll items first stop → Derives (.sequence items) first stop
  | alternatives {branch : Expr} {branches : List Expr} {first stop : Nat} :
      branch ∈ branches → Derives branch first stop →
      Derives (.alternatives branches) first stop

/-- So many parts one after the other, each of which belongs to the
expression. -/
inductive DerivesTimes : Expr → Nat → Nat → Nat → Prop where
  | zero {operand : Expr} {position : Nat} :
      DerivesTimes operand 0 position position
  | succ {operand : Expr} {count first middle stop : Nat} :
      Derives operand first middle →
      DerivesTimes operand count middle stop →
      DerivesTimes operand (count + 1) first stop

/-- Parts one after the other, one for each of the expressions. -/
inductive DerivesAll : List Expr → Nat → Nat → Prop where
  | nil {position : Nat} : DerivesAll [] position position
  | cons {item : Expr} {items : List Expr} {first middle stop : Nat} :
      Derives item first middle → DerivesAll items middle stop →
      DerivesAll (item :: items) first stop

end

end

namespace DerivesTimes

variable {text : List Char} {operand : Expr} {first middle stop : Nat}

/-- Iterations may be put together. -/
theorem append {done more : Nat}
    (head : DerivesTimes text operand done first middle)
    (tail : DerivesTimes text operand more middle stop) :
    DerivesTimes text operand (done + more) first stop := by
  induction done generalizing first with
  | zero =>
      cases head
      rwa [Nat.zero_add]
  | succ done ih =>
      cases head with
      | succ iteration others =>
          rw [Nat.succ_add]
          exact .succ iteration (ih others)

/-- What belongs to the expression without consuming anything does so any
number of times. -/
theorem of_empty {position : Nat}
    (empty : Derives text operand position position) (count : Nat) :
    DerivesTimes text operand count position position := by
  induction count with
  | zero => exact .zero
  | succ count ih => exact .succ empty ih

end DerivesTimes

end Dialect

end TextPattern
