import TextPattern.Predicate.Describe
import TextPattern.Proofs.EscapedForms
import TextPattern.Proofs.Negations

/-!
# Reading descriptions back

A description can be read back: not to the predicate, since the decimal digits
and the range of the same characters are described alike, but to its test.  So
two predicates with one description have one test.  Sets and supplied tests are
left out: a set may look like a range, and a supplied test has any name.

A description does not show by itself where it ends, as one may be the start of
another.  Reading therefore looks at what follows, which inside a composite
description is a space or a parenthesis.
-/

namespace TextPattern

namespace Predicate

open Text (escape quoteChar readEscaped readEscaped_escape readEscaped_plain
  eq_of_escape_append)

/-! ## Reading -/

/-- The predicates with a description of their own: a word, or ranges that are
not one range. -/
def named : List Predicate :=
  [always, never, hexDigit, uppercase, lowercase, alpha, alphaUnderscore,
    alphaNumeric, alphaNumericUnderscore, whitespace, letter]

def readNamed (text : List Char) : Option ((Char → Bool) × List Char) :=
  named.findSome? fun predicate => do
    let rest ← predicate.describe.isPrefixOf? text
    return (predicate.test, rest)

/-- A character, after its opening quotation mark. -/
def readQuoted (text : List Char) : Option ((Char → Bool) × List Char) := do
  let (c, rest) ← readEscaped text
  let rest ← ['\''].isPrefixOf? rest
  return ((is c).test, rest)

/-- The bounds of a range, up to its closing bracket. -/
def readBounds (text : List Char) : Option ((Char × Char) × List Char) := do
  let (lo, rest) ← readEscaped text
  let rest ← ['-'].isPrefixOf? rest
  let (hi, rest) ← readEscaped rest
  let rest ← [']'].isPrefixOf? rest
  return ((lo, hi), rest)

/-- A range, after its opening bracket. -/
def readRange (text : List Char) : Option ((Char → Bool) × List Char) := do
  let ((lo, hi), rest) ← readBounds text
  return ((range lo hi).test, rest)

def readNotRange (text : List Char) : Option ((Char → Bool) × List Char) := do
  let text ← ['^'].isPrefixOf? text
  let ((lo, hi), rest) ← readBounds text
  return ((notRange lo hi).test, rest)

/-- A description without operands.  A caret after the bracket negates the
range unless it is itself the lower bound, so the negated range is tried
first. -/
def readElementary : List Char → Option ((Char → Bool) × List Char)
  | '\'' :: text => readQuoted text
  | '[' :: text =>
      (readNotRange text).or ((readRange text).or (readNamed ('[' :: text)))
  | text => readNamed text

mutual

/-- Reads a description: its test, and what follows it. -/
def readTest : Nat → List Char → Option ((Char → Bool) × List Char)
  | 0, _ => none
  | fuel + 1, '^' :: text => do
      let (test, rest) ← readTest fuel text
      return (fun c => !test c, rest)
  | fuel + 1, '(' :: text => do
      let (first, rest) ← readTest fuel text
      match readOthers [' ', 'a', 'n', 'd', ' '] fuel rest with
      | some (others, rest) =>
          return (fun c => (first :: others).all (· c), rest)
      | none => do
          let (others, rest) ← readOthers [' ', '|', ' '] fuel rest
          return (fun c => (first :: others).any (· c), rest)
  | _ + 1, text => readElementary text

/-- Reads the other operands, each after the separator, and the closing
parenthesis. -/
def readOthers (separator : List Char) :
    Nat → List Char → Option (List (Char → Bool) × List Char)
  | 0, _ => none
  | _ + 1, ')' :: rest => some ([], rest)
  | fuel + 1, text => do
      let text ← separator.isPrefixOf? text
      let (test, rest) ← readTest fuel text
      let (tests, rest) ← readOthers separator fuel rest
      return (test :: tests, rest)

end

/-! ## Marks -/

theorem isPrefixOf?_cons (c d : Char) (mark text : List Char) :
    (c :: mark).isPrefixOf? (d :: text) =
      if c == d then mark.isPrefixOf? text else none :=
  rfl

theorem isPrefixOf?_append (mark rest : List Char) :
    mark.isPrefixOf? (mark ++ rest) = some rest := by
  induction mark with
  | nil => rfl
  | cons c mark ih =>
      rw [List.cons_append, isPrefixOf?_cons, if_pos (beq_self_eq_true c), ih]

theorem isPrefixOf?_self (c : Char) (rest : List Char) :
    [c].isPrefixOf? (c :: rest) = some rest :=
  isPrefixOf?_append [c] rest

theorem isPrefixOf?_other {c d : Char} (other : d ≠ c) (rest : List Char) :
    [c].isPrefixOf? (d :: rest) = none := by
  rw [isPrefixOf?_cons, if_neg]
  exact fun same => other (eq_of_beq same).symm

/-! ## Ranges -/

/-- A range can go on after its bracket only with another bracket. -/
def Ends (rest : List Char) : Prop :=
  rest.head? ≠ some ']'

/-- The bounds of a range as they are described. -/
def bounds (lo hi : Char) : List Char :=
  escape .member lo ++ ['-'] ++ escape .member hi ++ [']']

theorem describe_range (lo hi : Char) :
    (range lo hi).describe = '[' :: bounds lo hi :=
  rfl

theorem describe_notRange (lo hi : Char) :
    (notRange lo hi).describe = '[' :: '^' :: bounds lo hi :=
  rfl

theorem readBounds_bounds (lo hi : Char) (rest : List Char) :
    readBounds (bounds lo hi ++ rest) = some ((lo, hi), rest) := by
  simp [readBounds, bounds, readEscaped_escape, isPrefixOf?_self]

/-- A caret that is the lower bound does not negate: what follows it is no
range. -/
theorem readBounds_dash {hi : Char} {rest : List Char} (ends : Ends rest) :
    readBounds ('-' :: (escape .member hi ++ ']' :: rest)) = none := by
  rw [readBounds, readEscaped_plain (by decide)]
  cases shown : escape .member hi ++ ']' :: rest with
  | nil => rfl
  | cons first others =>
      by_cases dash : first = '-'
      · rw [dash] at shown
        obtain ⟨-, same⟩ := eq_of_escape_append (by decide) shown
        rw [← same, dash]
        cases rest with
        | nil => rfl
        | cons next rest =>
            have other : next ≠ ']' := by
              intro bracket
              rw [bracket] at ends
              exact ends rfl
            simp [readEscaped_plain, isPrefixOf?_self,
              isPrefixOf?_other other]
      · simp [isPrefixOf?_other dash]

theorem readNotRange_bounds {lo hi : Char} {rest : List Char}
    (ends : Ends rest) : readNotRange (bounds lo hi ++ rest) = none := by
  simp only [bounds, List.append_assoc, List.cons_append, List.nil_append]
  cases shown : escape .member lo ++ '-' :: (escape .member hi ++ ']' :: rest)
    with
  | nil => rfl
  | cons first others =>
      by_cases caret : first = '^'
      · rw [caret] at shown
        obtain ⟨-, same⟩ := eq_of_escape_append (by decide) shown
        rw [← same, caret]
        simp [readNotRange, isPrefixOf?_self, readBounds_dash ends]
      · simp [readNotRange, isPrefixOf?_other caret]

/-- With another bracket, a range from the caret to the dash is a negated
range. -/
example : readNotRange (bounds '^' '-' ++ [']']) =
    some ((notRange '-' ']').test, []) :=
  rfl

/-! ## Descriptions -/

/-- The text is read as a description of the test, whatever follows that is no
bracket. -/
def Spells (text : List Char) (test : Char → Bool) : Prop :=
  ∀ fuel rest, text.length < fuel → Ends rest →
    readTest fuel (text ++ rest) = some (test, rest)

theorem spells_of_step {text : List Char} {test : Char → Bool}
    (step : ∀ fuel rest, text.length ≤ fuel → Ends rest →
      readTest (fuel + 1) (text ++ rest) = some (test, rest)) :
    Spells text test := by
  intro fuel rest enough ends
  cases fuel with
  | zero => exact absurd enough (Nat.not_lt_zero _)
  | succ fuel => exact step fuel rest (Nat.le_of_lt_succ enough) ends

theorem spells_named {predicate : Predicate} (member : predicate ∈ named) :
    Spells predicate.describe predicate.test := by
  apply spells_of_step
  intro fuel rest _ _
  simp only [named, List.mem_cons, List.not_mem_nil, or_false] at member
  rcases member with same | same | same | same | same | same | same | same |
    same | same | same
  all_goals
    rw [same]
    rfl

theorem readTest_quote (fuel : Nat) (text : List Char) :
    readTest (fuel + 1) ('\'' :: text) = readQuoted text :=
  rfl

theorem readTest_bracket (fuel : Nat) (text : List Char) :
    readTest (fuel + 1) ('[' :: text) =
      (readNotRange text).or
        ((readRange text).or (readNamed ('[' :: text))) :=
  rfl

theorem spells_is (c : Char) : Spells (is c).describe (is c).test := by
  apply spells_of_step
  intro fuel rest _ _
  have shown : (is c).describe ++ rest =
      '\'' :: (escape .character c ++ '\'' :: rest) :=
    congrArg ('\'' :: ·) (List.append_assoc _ ['\''] rest)
  rw [shown, readTest_quote, readQuoted, readEscaped_escape]
  rfl

theorem spells_range (lo hi : Char) :
    Spells (range lo hi).describe (range lo hi).test := by
  apply spells_of_step
  intro fuel rest _ ends
  rw [describe_range, List.cons_append, readTest_bracket,
    readNotRange_bounds ends, readRange, readBounds_bounds]
  rfl

theorem spells_notRange (lo hi : Char) :
    Spells (notRange lo hi).describe (notRange lo hi).test := by
  apply spells_of_step
  intro fuel rest _ ends
  rw [describe_notRange, List.cons_append, List.cons_append]
  have read : readNotRange ('^' :: (bounds lo hi ++ rest)) =
      some ((notRange lo hi).test, rest) := by
    simp [readNotRange, isPrefixOf?_self, readBounds_bounds]
  rw [readTest_bracket, read]
  rfl

/-- The digits look like a range, and test like it. -/
theorem digit_eq_range :
    digit.describe = (range '0' '9').describe ∧
      digit.test = (range '0' '9').test :=
  ⟨rfl, rfl⟩

theorem spells_caret {text : List Char} {test : Char → Bool}
    (spelled : Spells text test) :
    Spells ('^' :: text) fun c => !test c := by
  apply spells_of_step
  intro fuel rest enough ends
  have read := spelled fuel rest enough ends
  simp [readTest, read]

/-! ## Composite descriptions -/

theorem describeList_eq_map (operands : List Predicate) :
    describeList operands = operands.map describe := by
  induction operands with
  | nil => rfl
  | cons operand operands ih => exact congrArg (operand.describe :: ·) ih

/-- The operands after the first, as they are described. -/
def describeOthers (separator : List Char) (operands : List Predicate) :
    List Char :=
  operands.flatMap (separator ++ ·.describe)

theorem intercalate_map_describe (separator : List Char) (first : Predicate)
    (others : List Predicate) :
    separator.intercalate ((first :: others).map describe) =
      first.describe ++ describeOthers separator others := by
  induction others generalizing first with
  | nil => simp [describeOthers]
  | cons second others ih =>
      have rest := ih second
      rw [List.map_cons] at rest
      rw [List.map_cons, List.map_cons, List.intercalate_cons_cons, rest]
      simp [describeOthers]

/-- The description of the operands, between parentheses. -/
def describeOperands (separator : List Char) (first : Predicate)
    (others : List Predicate) : List Char :=
  '(' :: (first.describe ++ (describeOthers separator others ++ [')']))

theorem intercalate_describeList (separator : List Char) (first : Predicate)
    (others : List Predicate) :
    ['('] ++ separator.intercalate (describeList (first :: others)) ++ [')'] =
      describeOperands separator first others := by
  rw [describeList_eq_map, intercalate_map_describe, describeOperands,
    List.append_assoc, List.append_assoc, List.singleton_append]

theorem describe_all (first : Predicate) (others : List Predicate) :
    (all (first :: others)).describe =
      describeOperands [' ', 'a', 'n', 'd', ' '] first others :=
  intercalate_describeList _ first others

theorem describe_any (first : Predicate) (others : List Predicate) :
    (any (first :: others)).describe =
      describeOperands [' ', '|', ' '] first others :=
  intercalate_describeList _ first others

section

variable {separator : List Char} (spaced : ∃ mark, separator = ' ' :: mark)

include spaced

/-- A separator or the closing parenthesis follows every operand. -/
theorem ends_describeOthers (operands : List Predicate) (rest : List Char) :
    Ends (describeOthers separator operands ++ ')' :: rest) := by
  obtain ⟨mark, rfl⟩ := spaced
  cases operands with
  | nil => simp [Ends, describeOthers]
  | cons operand operands => simp [Ends, describeOthers]

theorem readOthers_separator {text rest ending : List Char}
    {test : Char → Bool} {tests : List (Char → Bool)} {fuel : Nat}
    (read : readTest fuel text = some (test, rest))
    (readRest : readOthers separator fuel rest = some (tests, ending)) :
    readOthers separator (fuel + 1) (separator ++ text) =
      some (test :: tests, ending) := by
  obtain ⟨mark, rfl⟩ := spaced
  have step : readOthers (' ' :: mark) (fuel + 1) (' ' :: mark ++ text) = (do
      let text ← (' ' :: mark).isPrefixOf? (' ' :: mark ++ text)
      let (test, rest) ← readTest fuel text
      let (tests, rest) ← readOthers (' ' :: mark) fuel rest
      return (test :: tests, rest)) := rfl
  rw [step, isPrefixOf?_append]
  simp [read, readRest]

theorem readOthers_describeOthers {operands : List Predicate}
    (spelled : ∀ operand ∈ operands, Spells operand.describe operand.test)
    {fuel : Nat} (rest : List Char)
    (enough : (describeOthers separator operands).length < fuel) :
    readOthers separator fuel
        (describeOthers separator operands ++ ')' :: rest) =
      some (operands.map test, rest) := by
  -- Each operand has a separator before it, which pays for the step.
  induction operands generalizing fuel with
  | nil =>
      cases fuel with
      | zero => exact absurd enough (Nat.not_lt_zero _)
      | succ fuel => rfl
  | cons operand operands ih =>
      cases fuel with
      | zero => exact absurd enough (Nat.not_lt_zero _)
      | succ fuel =>
          obtain ⟨spelledFirst, spelledOthers⟩ :=
            List.forall_mem_cons.mp spelled
          have shown : describeOthers separator (operand :: operands) =
              separator ++ (operand.describe ++
                describeOthers separator operands) :=
            List.append_assoc _ _ _
          have positive : 0 < separator.length := by
            obtain ⟨mark, rfl⟩ := spaced
            exact Nat.succ_pos _
          simp only [shown, List.length_append] at enough
          rw [shown, List.append_assoc, List.append_assoc]
          exact readOthers_separator spaced
            (spelledFirst fuel _ (by omega)
              (ends_describeOthers spaced operands rest))
            (ih spelledOthers (by omega))

end

/-- The separator shows whether the operands are all required. -/
theorem readOthers_and_or (fuel : Nat) (second : Predicate)
    (others : List Predicate) (rest : List Char) :
    readOthers [' ', 'a', 'n', 'd', ' '] fuel
        (describeOthers [' ', '|', ' '] (second :: others) ++ rest) = none := by
  cases fuel with
  | zero => rfl
  | succ fuel => rfl

theorem test_all_eq (operands : List Predicate) :
    (all operands).test = fun c => (operands.map test).all (· c) := by
  funext c
  apply Bool.eq_iff_iff.mpr
  simp [test, testAll_iff]

theorem test_any_eq (operands : List Predicate) :
    (any operands).test = fun c => (operands.map test).any (· c) := by
  funext c
  apply Bool.eq_iff_iff.mpr
  simp [test, testAny_iff]

section

variable {fuel : Nat} {text rest ending : List Char} {first : Char → Bool}
  {others : List (Char → Bool)}

theorem readTest_all (read : readTest fuel text = some (first, rest))
    (readRest : readOthers [' ', 'a', 'n', 'd', ' '] fuel rest =
      some (others, ending)) :
    readTest (fuel + 1) ('(' :: text) =
      some (fun c => (first :: others).all (· c), ending) := by
  rw [readTest, read]
  simp only [Option.bind_eq_bind, Option.bind_some, readRest]
  rfl

theorem readTest_any (read : readTest fuel text = some (first, rest))
    (noAnd : readOthers [' ', 'a', 'n', 'd', ' '] fuel rest = none)
    (readRest : readOthers [' ', '|', ' '] fuel rest = some (others, ending)) :
    readTest (fuel + 1) ('(' :: text) =
      some (fun c => (first :: others).any (· c), ending) := by
  rw [readTest, read]
  simp only [Option.bind_eq_bind, Option.bind_some, noAnd, readRest]
  rfl

end

theorem spells_all {first : Predicate} {others : List Predicate}
    (spelled : ∀ operand ∈ first :: others,
      Spells operand.describe operand.test) :
    Spells (all (first :: others)).describe (all (first :: others)).test := by
  obtain ⟨spelledFirst, spelledOthers⟩ := List.forall_mem_cons.mp spelled
  rw [describe_all, test_all_eq, describeOperands]
  apply spells_of_step
  intro fuel rest enough _
  simp only [List.length_append, List.length_cons] at enough
  rw [List.cons_append, List.append_assoc, List.append_assoc]
  exact readTest_all
    (spelledFirst fuel _ (by omega)
      (ends_describeOthers ⟨_, rfl⟩ others rest))
    (readOthers_describeOthers ⟨_, rfl⟩ spelledOthers rest (by omega))

theorem spells_any {first second : Predicate} {others : List Predicate}
    (spelled : ∀ operand ∈ first :: second :: others,
      Spells operand.describe operand.test) :
    Spells (any (first :: second :: others)).describe
      (any (first :: second :: others)).test := by
  obtain ⟨spelledFirst, spelledOthers⟩ := List.forall_mem_cons.mp spelled
  rw [describe_any, test_any_eq, describeOperands]
  apply spells_of_step
  intro fuel rest enough _
  simp only [List.length_append, List.length_cons] at enough
  rw [List.cons_append, List.append_assoc, List.append_assoc]
  exact readTest_any
    (spelledFirst fuel _ (by omega)
      (ends_describeOthers ⟨_, rfl⟩ (second :: others) rest))
    (readOthers_and_or fuel second others (')' :: rest))
    (readOthers_describeOthers ⟨_, rfl⟩ spelledOthers rest (by omega))

/-! ## Composed predicates -/

/-- Neither a set nor a supplied test, and without operands. -/
def Elementary : Predicate → Prop
  | among _ | notAmong _ | custom _ _ | not _ | all _ | any _ => False
  | _ => True

/-- The predicate comes from elementary ones through the operators. -/
inductive Composed : Predicate → Prop where
  | elementary {predicate : Predicate} :
      predicate.Elementary → Composed predicate
  | negate {operand : Predicate} : Composed operand → Composed operand.negate
  | allOf {operands : List Predicate} :
      (∀ operand ∈ operands, Composed operand) → Composed (allOf operands)
  | anyOf {operands : List Predicate} :
      (∀ operand ∈ operands, Composed operand) → Composed (anyOf operands)

theorem Composed.and {left right : Predicate} (leftComposed : left.Composed)
    (rightComposed : right.Composed) : (left.and right).Composed :=
  .allOf (List.forall_mem_cons.mpr
    ⟨leftComposed, List.forall_mem_singleton.mpr rightComposed⟩)

theorem Composed.or {left right : Predicate} (leftComposed : left.Composed)
    (rightComposed : right.Composed) : (left.or right).Composed :=
  .anyOf (List.forall_mem_cons.mpr
    ⟨leftComposed, List.forall_mem_singleton.mpr rightComposed⟩)

/-- What every node of a composed predicate is like: without two operands, a
conjunction and a disjunction would look alike. -/
def Legible : Predicate → Prop
  | among _ | notAmong _ | custom _ _ => False
  | all operands | any operands => 2 ≤ operands.length
  | _ => True

theorem negate_legible {predicate : Predicate}
    (legible : predicate.Everywhere Legible) :
    predicate.negate.Everywhere Legible := by
  by_cases paired : predicate.Paired
  · cases predicate with
    | not operand => exact legible.operand operand List.mem_cons_self
    | among _ | notAmong _ => exact legible.root.elim
    | always | never | is _ | isNot _ | range _ _ | notRange _ _ =>
        exact .leaf trivial rfl
    | _ => exact paired.elim
  · rw [negate_eq_not paired]
    refine .node trivial fun operand member => ?_
    rw [List.mem_singleton.mp member]
    exact legible

theorem Composed.legible {predicate : Predicate}
    (composed : predicate.Composed) : predicate.Everywhere Legible := by
  induction composed with
  | @elementary predicate elementary =>
      cases predicate with
      | among _ | notAmong _ | custom _ _ | not _ | all _ | any _ =>
          exact elementary.elim
      | _ => exact .leaf trivial rfl
  | negate _ ih => exact negate_legible ih
  | allOf _ ih =>
      exact allOf_holds (.leaf trivial rfl) ih fun several => .node several ih
  | anyOf _ ih =>
      exact anyOf_holds (.leaf trivial rfl) ih fun several => .node several ih

theorem spells_describe {predicate : Predicate}
    (legible : predicate.Everywhere Legible) :
    Spells predicate.describe predicate.test := by
  induction legible with
  | @node predicate legible _ ih =>
      cases predicate with
      | among _ | notAmong _ | custom _ _ => exact legible.elim
      | digit =>
          rw [digit_eq_range.1, digit_eq_range.2]
          exact spells_range '0' '9'
      | is c => exact spells_is c
      | isNot c => exact spells_caret (spells_is c)
      | range lo hi => exact spells_range lo hi
      | notRange lo hi => exact spells_notRange lo hi
      | not operand => exact spells_caret (ih operand List.mem_cons_self)
      -- Legibility leaves out the lists without two operands.
      | all operands =>
          match operands with
          | first :: others => exact spells_all ih
      | any operands =>
          match operands with
          | first :: second :: others => exact spells_any ih
      | _ => exact spells_named (by simp [named])

/-- Composed predicates that are described alike test alike. -/
theorem describe_unambiguous {left right : Predicate}
    (leftComposed : left.Composed) (rightComposed : right.Composed)
    (same : left.describe = right.describe) (c : Char) :
    left.test c = right.test c := by
  have enough := Nat.lt_succ_self left.describe.length
  have ends : Ends [] := by simp [Ends]
  have readLeft := spells_describe leftComposed.legible _ [] enough ends
  rw [same] at readLeft enough
  have readRight := spells_describe rightComposed.legible _ [] enough ends
  have read := Option.some.inj (readRight.symm.trans readLeft)
  exact congrFun (congrArg Prod.fst read).symm c

/-- A digit or an underscore that is no letter, with the digits once by name and
once as a range: the description does not tell which. -/
theorem describe_unambiguous_digits :
    ((digit.or (is '_')).and letter.negate).Composed ∧
      (((range '0' '9').or (is '_')).and letter.negate).Composed ∧
      ((digit.or (is '_')).and letter.negate).describe =
        (((range '0' '9').or (is '_')).and letter.negate).describe ∧
      ((digit.or (is '_')).and letter.negate).test '7' =
        (((range '0' '9').or (is '_')).and letter.negate).test '7' := by
  have underscore : (is '_').Composed := .elementary trivial
  have noLetter : letter.negate.Composed := .negate (.elementary trivial)
  have digits : ((digit.or (is '_')).and letter.negate).Composed :=
    .and (.or (.elementary trivial) underscore) noLetter
  have ranges : (((range '0' '9').or (is '_')).and letter.negate).Composed :=
    .and (.or (.elementary trivial) underscore) noLetter
  exact ⟨digits, ranges, rfl, describe_unambiguous digits ranges rfl '7'⟩

end Predicate

end TextPattern
