import TextPattern.Proofs.Dialect.ExprErrors

/-!
# How deep groups nest

The groups of an expression nest as deep as those of its deepest part, and a
group nests one deeper than what is inside it.  This is how much room the
expression needs, no matter how many groups it has.
-/

namespace TextPattern

namespace Dialect

namespace Expr

mutual

/-- How many groups are open inside each other where they nest deepest. -/
def nesting : Expr → Nat
  | group operand => nesting operand + 1
  | quantified operand _ => nesting operand
  | sequence items => deepest items
  | alternatives branches => deepest branches
  | anyChar | windowEnd | char _ | escape _ | charClass _ => 0

def deepest : List Expr → Nat
  | [] => 0
  | expr :: exprs => max (nesting expr) (deepest exprs)

end

theorem deepest_le_iff {exprs : List Expr} {limit : Nat} :
    deepest exprs ≤ limit ↔ ∀ expr ∈ exprs, expr.nesting ≤ limit := by
  induction exprs with
  | nil => simp [deepest]
  | cons expr exprs ih =>
      simp only [deepest, Nat.max_le, ih, List.forall_mem_cons]

theorem nesting_foldl_quantified (quantifiers : List Quantifier)
    (atom : Expr) :
    (quantifiers.foldl quantified atom).nesting = atom.nesting := by
  induction quantifiers generalizing atom with
  | nil => rfl
  | cons quantifier quantifiers ih =>
      rw [List.foldl_cons, ih]
      rfl

end Expr

mutual

theorem AtomText.nesting_le {room : Nat} {atom : Expr}
    {text : List Char} (written : AtomText room atom text) :
    atom.nesting ≤ room :=
  match written with
  | .anyChar | .windowEnd | .char _ | .escape _ | .charClass _ =>
      Nat.zero_le _
  | .group operand => Nat.succ_le_succ operand.nesting_le

theorem ItemText.nesting_le {room : Nat} {item : Expr}
    {text : List Char} (written : ItemText room item text) :
    item.nesting ≤ room :=
  match written with
  | .quantified quantifiers atom => by
      rw [Expr.nesting_foldl_quantified]
      exact atom.nesting_le

theorem ItemsText.deepest_le {room : Nat} {items : List Expr}
    {text : List Char} (written : ItemsText room items text) :
    Expr.deepest items ≤ room :=
  match written with
  | .nil => Nat.zero_le _
  | .cons item items => Nat.max_le.mpr ⟨item.nesting_le, items.deepest_le⟩

theorem BranchesText.deepest_le {room : Nat} {branches : List Expr}
    {text : List Char} (written : BranchesText room branches text) :
    Expr.deepest branches ≤ room :=
  match written with
  | .nil => Nat.zero_le _
  | .cons items branches =>
      Nat.max_le.mpr ⟨items.deepest_le, branches.deepest_le⟩

theorem ExprText.nesting_le {room : Nat} {expr : Expr}
    {text : List Char} (written : ExprText room expr text) :
    expr.nesting ≤ room :=
  match written with
  | .alternatives items branches =>
      Nat.max_le.mpr ⟨items.deepest_le, branches.deepest_le⟩

end

mutual

theorem AtomText.of_nesting_le {room limit : Nat} {atom : Expr}
    {text : List Char} (written : AtomText room atom text)
    (fits : atom.nesting ≤ limit) :
    AtomText limit atom text :=
  match written with
  | .anyChar => .anyChar
  | .windowEnd => .windowEnd
  | .char plain => .char plain
  | .escape c => .escape c
  | .charClass members => .charClass members
  | .group operand => by
      cases limit with
      | zero => cases fits
      | succ limit =>
          exact .group (operand.of_nesting_le (Nat.le_of_succ_le_succ fits))

theorem ItemText.of_nesting_le {room limit : Nat} {item : Expr}
    {text : List Char} (written : ItemText room item text)
    (fits : item.nesting ≤ limit) :
    ItemText limit item text :=
  match written with
  | .quantified quantifiers atom => by
      rw [Expr.nesting_foldl_quantified] at fits
      exact .quantified quantifiers (atom.of_nesting_le fits)

theorem ItemsText.of_deepest_le {room limit : Nat} {items : List Expr}
    {text : List Char} (written : ItemsText room items text)
    (fits : Expr.deepest items ≤ limit) : ItemsText limit items text :=
  match written with
  | .nil => .nil
  | .cons item items =>
      have each := Nat.max_le.mp fits
      .cons (item.of_nesting_le each.1) (items.of_deepest_le each.2)

theorem BranchesText.of_deepest_le {room limit : Nat} {branches : List Expr}
    {text : List Char} (written : BranchesText room branches text)
    (fits : Expr.deepest branches ≤ limit) :
    BranchesText limit branches text :=
  match written with
  | .nil => .nil
  | .cons items branches =>
      have each := Nat.max_le.mp fits
      .cons (items.of_deepest_le each.1) (branches.of_deepest_le each.2)

/-- An expression needs no more room than its groups nest. -/
theorem ExprText.of_nesting_le {room limit : Nat} {expr : Expr}
    {text : List Char} (written : ExprText room expr text)
    (fits : expr.nesting ≤ limit) :
    ExprText limit expr text :=
  match written with
  | .alternatives items branches =>
      have each := Nat.max_le.mp fits
      .alternatives (items.of_deepest_le each.1)
        (branches.of_deepest_le each.2)

end

/-! ## Groups around an expression -/

/-- So many groups around an expression. -/
def Expr.enclosed (operand : Expr) : Nat → Expr
  | 0 => operand
  | depth + 1 => .alternatives [.sequence [.group (operand.enclosed depth)]]

def enclosedText (text : List Char) : Nat → List Char
  | 0 => text
  | depth + 1 => '(' :: (enclosedText text depth ++ [')'])

theorem Expr.nesting_enclosed (operand : Expr) (depth : Nat) :
    (operand.enclosed depth).nesting = operand.nesting + depth := by
  induction depth with
  | zero => rfl
  | succ depth ih =>
      simp only [enclosed, nesting, deepest, ih, Nat.max_zero]
      rfl

theorem ExprText.enclosed {room : Nat} {operand : Expr} {text : List Char}
    (written : ExprText room operand text) (depth : Nat) :
    ExprText (room + depth) (operand.enclosed depth)
      (enclosedText text depth) := by
  induction depth with
  | zero => exact written
  | succ depth ih =>
      have group : AtomText (room + (depth + 1))
          (.group (operand.enclosed depth))
          ('(' :: (enclosedText text depth ++ [')'])) := .group ih
      exact group.item.items.expr

end Dialect

end TextPattern
