import TextPattern.Proofs.Dialect.ClassReading

/-!
# Open groups

How many groups are open at a place of a text depends only on the characters
before it: a parenthesis counts unless it comes after a backslash or inside a
class.  Reading the text from left to right keeps count, without regard to what
else the text means.  A text that the grammar derives closes all its groups.
-/

namespace TextPattern

namespace Dialect

/-! ## Counting -/

/-- What the next character of a text is a part of. -/
inductive Place where
  | outside
  /-- After a backslash outside a class. -/
  | escaped
  /-- After the opening bracket of a class. -/
  | classStart
  /-- After the caret of a negated class. -/
  | classFirst
  /-- After the first member of a class. -/
  | classLater
  /-- After a backslash inside a class. -/
  | classEscaped
deriving DecidableEq, Repr

/-- Where a text ends, and how many groups are open there. -/
structure Nesting where
  place : Place
  depth : Nat
deriving DecidableEq, Repr

namespace Nesting

/-- One character more.  Parentheses count only outside of classes and not
after a backslash. -/
def step : Nesting → Char → Nesting
  | ⟨.outside, depth⟩, c =>
      if c = '(' then ⟨.outside, depth + 1⟩
      else if c = ')' then ⟨.outside, depth - 1⟩
      else if c = '[' then ⟨.classStart, depth⟩
      else if c = '\\' then ⟨.escaped, depth⟩
      else ⟨.outside, depth⟩
  | ⟨.escaped, depth⟩, _ => ⟨.outside, depth⟩
  | ⟨.classStart, depth⟩, c =>
      if c = '^' then ⟨.classFirst, depth⟩
      else if c = '\\' then ⟨.classEscaped, depth⟩
      else ⟨.classLater, depth⟩
  | ⟨.classFirst, depth⟩, c =>
      if c = '\\' then ⟨.classEscaped, depth⟩ else ⟨.classLater, depth⟩
  | ⟨.classLater, depth⟩, c =>
      if c = ']' then ⟨.outside, depth⟩
      else if c = '\\' then ⟨.classEscaped, depth⟩
      else ⟨.classLater, depth⟩
  | ⟨.classEscaped, depth⟩, _ => ⟨.classLater, depth⟩

def run (start : Nesting) (text : List Char) : Nesting :=
  text.foldl step start

theorem run_take_succ {start : Nesting} {text : List Char} {index : Nat}
    {c : Char} (shown : text[index]? = some c) :
    start.run (text.take (index + 1)) =
      (start.run (text.take index)).step c := by
  rw [run, List.take_add_one, shown, List.foldl_append]
  rfl

end Nesting

def nestingAfter (text : List Char) : Nesting :=
  Nesting.run ⟨.outside, 0⟩ text

/-- The number of groups that are open after a text. -/
def openGroups (text : List Char) : Nat :=
  (nestingAfter text).depth

/-- Outside of a class the character opens and closes nothing. -/
def Inert (c : Char) : Prop :=
  c ≠ '(' ∧ c ≠ ')' ∧ c ≠ '[' ∧ c ≠ '\\'

/-! ## Bounded walks -/

/-- The text leads from one state to another, with at most so many groups open
on the way. -/
inductive Walks (bound : Nat) : Nesting → List Char → Nesting → Prop where
  | nil {nesting : Nesting} :
      nesting.depth ≤ bound → Walks bound nesting [] nesting
  | cons {start last : Nesting} {c : Char} {text : List Char} :
      start.depth ≤ bound → Walks bound (start.step c) text last →
      Walks bound start (c :: text) last

namespace Walks

variable {bound : Nat} {start middle last : Nesting}
  {first second text : List Char}

theorem append (head : Walks bound start first middle)
    (tail : Walks bound middle second last) :
    Walks bound start (first ++ second) last := by
  induction head with
  | nil _ => exact tail
  | cons inside _ ih => exact .cons inside (ih tail)

theorem run_eq (walks : Walks bound start text last) :
    start.run text = last := by
  induction walks with
  | nil _ => rfl
  | cons _ _ ih => exact ih

theorem depth_le (walks : Walks bound start text last) :
    last.depth ≤ bound := by
  induction walks with
  | nil inside => exact inside
  | cons _ _ ih => exact ih

theorem depth_run_take_le (walks : Walks bound start text last)
    (count : Nat) : (start.run (text.take count)).depth ≤ bound := by
  induction walks generalizing count with
  | nil inside =>
      rw [List.take_nil]
      exact inside
  | @cons start last c text inside _ ih =>
      cases count with
      | zero => exact inside
      | succ count => exact ih count

/-- Characters that open and close nothing. -/
theorem of_inert {depth : Nat} (inside : depth ≤ bound)
    (inert : ∀ c ∈ text, Inert c) :
    Walks bound ⟨.outside, depth⟩ text ⟨.outside, depth⟩ := by
  induction text with
  | nil => exact .nil inside
  | cons c text ih =>
      have same : Nesting.step ⟨.outside, depth⟩ c = ⟨.outside, depth⟩ := by
        obtain ⟨noOpening, noClosing, noClass, noEscape⟩ :=
          inert c List.mem_cons_self
        simp [Nesting.step, noOpening, noClosing, noClass, noEscape]
      refine .cons inside ?_
      rw [same]
      exact ih fun c member => inert c (List.mem_cons_of_mem _ member)

end Walks

/-- The text closes the groups that it opens, and opens at most so many of them
inside each other. -/
def Neutral (room : Nat) (text : List Char) : Prop :=
  ∀ bound depth, depth + room ≤ bound →
    Walks bound ⟨.outside, depth⟩ text ⟨.outside, depth⟩

namespace Neutral

variable {room : Nat} {first second text : List Char}

theorem nil : Neutral room [] := by
  intro bound depth inside
  exact .nil (Nat.le_trans (Nat.le_add_right depth room) inside)

theorem append (head : Neutral room first) (tail : Neutral room second) :
    Neutral room (first ++ second) := by
  intro bound depth inside
  exact (head bound depth inside).append (tail bound depth inside)

theorem of_inert (inert : ∀ c ∈ text, Inert c) :
    Neutral room text := by
  intro bound depth inside
  apply Walks.of_inert ?_ inert
  exact Nat.le_trans (Nat.le_add_right depth room) inside

theorem bar : Neutral room ['|'] :=
  of_inert (by simp [Inert])

end Neutral

/-! ## Classes -/

/-- A member of a class may start here with this character. -/
def Place.Starts : Place → Char → Prop
  | classStart, c => c ≠ '^'
  | classFirst, _ => True
  | classLater, c => c ≠ ']'
  | _, _ => False

section

variable {bound depth : Nat} {place : Place}

theorem step_of_starts {c : Char} (starts : place.Starts c)
    (plain : c ≠ '\\') :
    Nesting.step ⟨place, depth⟩ c = ⟨.classLater, depth⟩ := by
  cases place with
  | outside | escaped | classEscaped => cases starts
  | classFirst => simp [Nesting.step, plain]
  | classStart | classLater =>
      have other := starts
      simp only [Place.Starts, ne_eq] at other
      simp [Nesting.step, plain, other]

theorem step_backslash_of_starts (starts : place.Starts '\\') :
    Nesting.step ⟨place, depth⟩ '\\' = ⟨.classEscaped, depth⟩ := by
  cases place with
  | outside | escaped | classEscaped => cases starts
  | classFirst | classStart | classLater => simp [Nesting.step]

/-- A backslash and a character are a part of the class, whatever the
character is. -/
theorem walks_backslash (inside : depth ≤ bound)
    (starts : place.Starts '\\') (c : Char) :
    Walks bound ⟨place, depth⟩ ['\\', c] ⟨.classLater, depth⟩ := by
  refine .cons inside ?_
  rw [step_backslash_of_starts starts]
  exact .cons inside (.nil inside)

theorem CharText.walks {c : Char} {text : List Char}
    (written : CharText c text) (inside : depth ≤ bound)
    (starts : ∀ head ∈ text.head?, place.Starts head) :
    Walks bound ⟨place, depth⟩ text ⟨.classLater, depth⟩ := by
  cases written with
  | plain other =>
      refine .cons inside ?_
      rw [step_of_starts (starts c rfl) other]
      exact .nil inside
  | escaped _ => exact walks_backslash inside (starts '\\' rfl) _

theorem MemberText.walks {member : Member} {text rest : List Char}
    (written : MemberText member text rest) (inside : depth ≤ bound)
    (starts : ∀ head ∈ text.head?, place.Starts head) :
    Walks bound ⟨place, depth⟩ text ⟨.classLater, depth⟩ := by
  cases written with
  | single written _ => exact written.walks inside starts
  | @range lo hi first last _ lower upper other =>
      have start : ∀ head ∈ first.head?, place.Starts head := by
        intro head shown
        apply starts
        rw [List.head?_append, Option.mem_def.mp shown]
        rfl
      have minus : Walks bound ⟨.classLater, depth⟩ ['-']
          ⟨.classLater, depth⟩ := .cons inside (.nil inside)
      -- A closing bracket after the minus sign would have ended the class.
      have stop : ∀ head ∈ last.head?, Place.classLater.Starts head := by
        obtain ⟨head, more, rfl, notBracket⟩ := upper.head_ne_bracket other
        intro c shown
        cases shown
        exact notBracket
      exact (lower.walks inside start).append
        (minus.append (upper.walks inside stop))
  | shorthand _ => exact walks_backslash inside (starts '\\' rfl) _

theorem MembersText.walks {members : List Member} {text : List Char}
    (written : MembersText members text) (inside : depth ≤ bound) :
    Walks bound ⟨.classLater, depth⟩ text ⟨.outside, depth⟩ := by
  induction written with
  | close => exact .cons inside (.nil inside)
  | cons member other _ ih =>
      refine (member.walks inside ?_).append ih
      intro head shown bracket
      rw [bracket] at shown
      exact other shown

theorem ClassText.walks {cls : CharClass} {text : List Char}
    (written : ClassText cls text) (inside : depth ≤ bound) :
    Walks bound ⟨.classStart, depth⟩ text ⟨.outside, depth⟩ := by
  cases written with
  | plain member other members =>
      refine (member.walks inside ?_).append (members.walks inside)
      intro head shown caret
      rw [caret] at shown
      exact other shown
  | negated member members =>
      have first : Walks bound ⟨.classFirst, depth⟩ _ ⟨.classLater, depth⟩ :=
        member.walks inside fun _ _ => trivial
      exact .cons inside (first.append (members.walks inside))

end

/-! ## Expressions -/

theorem Numeral.inert (numeral : Numeral) :
    ∀ c ∈ numeral.digits, Inert c := by
  intro c member
  have digit := List.all_eq_true.mp numeral.decimal c member
  refine ⟨?_, ?_, ?_, ?_⟩
  all_goals
    rintro rfl
    exact absurd digit (by decide)

theorem Quantifier.inert (quantifier : Quantifier) :
    ∀ c ∈ quantifier.text, Inert c := by
  cases quantifier with
  | any | some | optional | unbounded => simp [text, Inert]
  | exactly count | atLeast count | atMost count =>
      have digits := count.inert
      simp only [text, List.mem_cons, List.mem_append]
      grind [Inert]
  | between min max ordered =>
      have lower := min.inert
      have upper := max.inert
      simp only [text, List.mem_cons, List.mem_append]
      grind [Inert]

theorem neutral_quantifiers {room : Nat} (quantifiers : List Quantifier) :
    Neutral room (quantifiers.flatMap Quantifier.text) := by
  apply Neutral.of_inert
  intro c member
  obtain ⟨quantifier, -, inside⟩ := List.mem_flatMap.mp member
  exact quantifier.inert c inside

/-- A group needs room for itself and for what is inside it. -/
theorem Neutral.group {room : Nat} {text : List Char}
    (inner : Neutral room text) :
    Neutral (room + 1) ('(' :: (text ++ [')'])) := by
  intro bound depth inside
  have outer : depth ≤ bound := by omega
  have opened : Walks bound ⟨.outside, depth + 1⟩ text
      ⟨.outside, depth + 1⟩ := inner bound (depth + 1) (by omega)
  have closes : Walks bound ⟨.outside, depth + 1⟩ [')']
      ⟨.outside, depth⟩ := .cons (by simp only; omega) (.nil outer)
  exact .cons outer (opened.append closes)

mutual

theorem AtomText.neutral {room : Nat} {atom : Expr} {text : List Char}
    (written : AtomText room atom text) : Neutral room text :=
  match written with
  | .anyChar | .windowEnd => .of_inert (by simp [Inert])
  | @AtomText.char _ c plain => by
      have inert : Inert c := by
        simp only [reserved, List.mem_cons, not_or] at plain
        simp [Inert, plain]
      apply Neutral.of_inert
      intro other member
      rwa [List.mem_singleton.mp member]
  | .escape c => by
      intro bound depth inside
      have outer : depth ≤ bound := by omega
      exact .cons outer (.cons outer (.nil outer))
  | .charClass members => by
      intro bound depth inside
      have outer : depth ≤ bound := by omega
      exact .cons outer (members.walks outer)
  | .group operand => operand.neutral.group

theorem ItemText.neutral {room : Nat} {item : Expr} {text : List Char}
    (written : ItemText room item text) : Neutral room text :=
  match written with
  | .quantified quantifiers atom =>
      atom.neutral.append (neutral_quantifiers quantifiers)

theorem ItemsText.neutral {room : Nat} {items : List Expr}
    {text : List Char} (written : ItemsText room items text) :
    Neutral room text :=
  match written with
  | .nil => .nil
  | .cons item items => item.neutral.append items.neutral

theorem BranchesText.neutral {room : Nat} {branches : List Expr}
    {text : List Char} (written : BranchesText room branches text) :
    Neutral room text :=
  match written with
  | .nil => .nil
  | .cons items branches =>
      Neutral.bar.append (items.neutral.append branches.neutral)

theorem ExprText.neutral {room : Nat} {expr : Expr} {text : List Char}
    (written : ExprText room expr text) : Neutral room text :=
  match written with
  | .alternatives items branches => items.neutral.append branches.neutral

end

end Dialect

end TextPattern
