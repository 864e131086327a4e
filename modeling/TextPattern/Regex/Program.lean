import TextPattern.Regex.Tree

/-!
# Programs for regular expressions

An expression is compiled to numbered instructions.  Code is laid out from the
end of the expression to its start: the code of a part is made when the
instruction after it is known.  A choice lists the instruction to prefer
first, which is how greedy and reluctant repetition differ.
-/

namespace TextPattern

namespace Regex

/-- One instruction; the numbers are those of the instructions that follow. -/
inductive Instruction where
  | accept
  | consume (set : CharSet) (next : Nat)
  | check (condition : Look) (next : Nat)
  | choose (first second : Nat)

/-- Instructions, numbered by their place. -/
abbrev Code := Array Instruction

/-- Lays out code in front of the instruction with the given number and gives
the number of its first instruction. -/
abbrev Layout := Nat → Code → Nat × Code

namespace Layout

def emit (instruction : Instruction) (code : Code) : Nat × Code :=
  (code.size, code.push instruction)

/-- A choice between one more iteration and leaving the loop. -/
def loopChoice (greedy : Bool) (again leave : Nat) : Instruction :=
  if greedy then .choose again leave else .choose leave again

/-- The operand so many times. -/
def times (operand : Layout) : Nat → Layout
  | 0, next, code => (next, code)
  | count + 1, next, code =>
      let (entry, code) := times operand count next code
      operand entry code

/-- The operand at most so many times; all choices leave to the same place. -/
def upTo (operand : Layout) (greedy : Bool) : Nat → Layout
  | 0, next, code => (next, code)
  | count + 1, next, code =>
      let (following, code) := upTo operand greedy count next code
      let (entry, code) := operand following code
      emit (loopChoice greedy entry next) code

/-- The operand once or more; the numbers of its first instruction and of the
choice after an iteration. -/
def loop (operand : Layout) (greedy : Bool) (next : Nat) (code : Code) :
    Nat × Nat × Code :=
  let choice := code.size
  let (entry, code) := operand choice (code.push .accept)
  (entry, choice,
    code.setIfInBounds choice (loopChoice greedy entry next))

/-- The operand any number of times, at least `min`.  A loop that can be left
without consuming anything is entered through a choice of its own, so that its
first iteration is preferred as the operand asks. -/
def atLeast (operand : Layout) (nullable greedy : Bool) : Nat → Layout
  | 0, next, code =>
      let (entry, choice, code) := loop operand greedy next code
      if nullable then emit (loopChoice greedy entry next) code
      else (choice, code)
  | min + 1, next, code =>
      let (entry, _, code) := loop operand greedy next code
      times operand min entry code

def repetition (operand : Layout) (nullable : Bool) (min : Nat)
    (max : Option Nat) (greedy : Bool) : Layout :=
  match max with
  | none => atLeast operand nullable greedy min
  | some max => fun next code =>
      let (entry, code) := upTo operand greedy (max - min) next code
      times operand min entry code

end Layout

namespace Tree

mutual

/-- The code of an expression. -/
def layout : Tree → Layout
  | empty, next, code => (next, code)
  | oneOf set _, next, code => Layout.emit (.consume set next) code
  | look condition, next, code => Layout.emit (.check condition next) code
  | group operand, next, code => layout operand next code
  | concat operands, next, code => layoutConcat operands next code
  | alternate operands, next, code => layoutAlternate operands next code
  | repetition min max greedy operand, next, code =>
      Layout.repetition (layout operand) operand.nullable min max greedy
        next code

def layoutConcat : List Tree → Layout
  | [], next, code => (next, code)
  | operand :: operands, next, code =>
      let (entry, code) := layoutConcat operands next code
      layout operand entry code

/-- The code of expressions of which the earlier ones are preferred. -/
def layoutAlternate : List Tree → Layout
  | [], next, code => (next, code)
  | [operand], next, code => layout operand next code
  | operand :: operands, next, code =>
      let (second, code) := layoutAlternate operands next code
      let (first, code) := layout operand next code
      Layout.emit (.choose first second) code

end

end Tree

structure Program where
  code : Code
  entry : Nat

/-- The program that accepts after the expression. -/
def Tree.program (tree : Tree) : Program :=
  let (entry, code) := tree.layout 0 #[.accept]
  ⟨code, entry⟩

end Regex

end TextPattern
