import TextPattern.Dialect.Reader
import TextPattern.Proofs.Dialect.Grammar
import TextPattern.Proofs.Dialect.Reads

/-!
# Reading a quantifier follows the grammar

A quantifier is read if and only if it is written as the grammar says.  Nothing
that comes after it matters, because a number in braces ends at a comma or at
the closing brace.
-/

namespace TextPattern

namespace Dialect

open Reading

/-! ## Numbers -/

/-- The text does not go on with a digit. -/
def NoDigit (text : List Char) : Prop :=
  ∀ c ∈ text.head?, c.isDigit = false

theorem Numeral.ofDigits?_eq_some_iff {digits : List Char}
    {numeral : Numeral} :
    ofDigits? digits = some numeral ↔ digits = numeral.digits := by
  obtain ⟨written, nonempty, decimal, small⟩ := numeral
  unfold ofDigits?
  constructor
  · intro found
    split at found
    · cases found
      rfl
    · cases found
  · intro same
    have accepted : digits ≠ [] ∧ digits.all Char.isDigit = true ∧
        digitsValue digits < Count.limit := by
      rw [same]
      exact ⟨nonempty, decimal, small⟩
    rw [dif_pos accepted]
    simp only [same]

theorem Numeral.exists_cons (numeral : Numeral) :
    ∃ c more, numeral.digits = c :: more ∧ c.isDigit = true := by
  obtain ⟨c, more, shown⟩ := List.exists_cons_of_ne_nil numeral.nonempty
  refine ⟨c, more, shown, List.all_eq_true.mp numeral.decimal c ?_⟩
  rw [shown]
  exact List.mem_cons_self

theorem readNumber_reads :
    Reads readNumber fun numeral text rest =>
      text = numeral.digits ∧ NoDigit rest := by
  apply (takeWhile_reads Char.isDigit).bind
    (fun digits numeral text _ =>
      text = [] ∧ digits = numeral.digits)
  · intro digits
    cases written : Numeral.ofDigits? digits with
    | none =>
        refine .throw fun numeral text _ holds => ?_
        rw [Numeral.ofDigits?_eq_some_iff.mpr holds.2] at written
        cases written
    | some found =>
        refine .pure fun numeral text _ => ?_
        have digitsEq := Numeral.ofDigits?_eq_some_iff.mp written
        constructor
        · intro holds
          have again := Numeral.ofDigits?_eq_some_iff.mpr holds.2
          rw [written] at again
          cases again
          exact ⟨rfl, holds.1⟩
        · intro holds
          rw [holds.1]
          exact ⟨holds.2, digitsEq⟩
  · intro numeral text rest
    constructor
    · intro holds
      obtain ⟨same, stops⟩ := holds
      exact ⟨text, text, [], (List.append_nil text).symm,
        ⟨rfl, same ▸ List.all_eq_true.mp numeral.decimal, stops⟩, rfl, same⟩
    · intro holds
      obtain ⟨digits, head, tail, joined, ⟨same, -, stops⟩, empty, written⟩ :=
        holds
      rw [empty, List.append_nil] at joined
      rw [empty, List.nil_append] at stops
      exact ⟨by rw [joined, same, written], stops⟩

/-! ## Bounds -/

/-- How a bound is written, if it is given. -/
def boundText (bound : Option Numeral) : List Char :=
  bound.elim [] Numeral.digits

/-- What has to follow a bound.  A bound that is left out shows in the next
character, and a number ends before the first character that is no digit. -/
def BoundEnds (ends : List Char) (bound : Option Numeral)
    (text : List Char) : Prop :=
  match bound with
  | none => text.head?.any ends.contains = true
  | some _ => NoDigit text

theorem boundEnds_cons {ends : List Char} {c : Char} (member : c ∈ ends)
    (noDigit : c.isDigit = false) (bound : Option Numeral)
    (text : List Char) : BoundEnds ends bound (c :: text) := by
  cases bound with
  | none => simpa [BoundEnds] using member
  | some numeral => simpa [BoundEnds, NoDigit] using noDigit

theorem readBound_reads {ends : List Char}
    (noDigits : ∀ c ∈ ends, c.isDigit = false) :
    Reads (readBound ends) fun bound text rest =>
      text = boundText bound ∧ BoundEnds ends bound rest := by
  apply Reads.afterPeek (fun shown bound text rest =>
    if shown.any ends.contains = true then bound = none ∧ text = []
    else ∃ numeral, bound = some numeral ∧
      text = numeral.digits ∧ NoDigit rest)
  · intro shown
    by_cases ended : shown.any ends.contains = true
    · simp only [ended, if_true]
      exact .pure fun _ _ _ => Iff.rfl
    · simp only [ended]
      exact readNumber_reads.map fun _ _ _ => Iff.rfl
  · intro bound text rest
    cases bound with
    | none =>
        constructor
        · intro holds
          obtain ⟨empty, ended⟩ := holds
          simp only [boundText, Option.elim_none] at empty
          simp only [BoundEnds] at ended
          rw [empty, List.nil_append, if_pos ended]
          exact ⟨rfl, rfl⟩
        · intro holds
          split at holds
          next ended =>
            rw [holds.2, List.nil_append] at ended
            exact ⟨holds.2, ended⟩
          next =>
            obtain ⟨_, impossible, _⟩ := holds
            cases impossible
    | some numeral =>
        obtain ⟨c, more, shown, digit⟩ := numeral.exists_cons
        have none : ((numeral.digits ++ rest).head?.any ends.contains) ≠
            true := by
          rw [shown]
          intro ended
          have member : c ∈ ends := by simpa using ended
          rw [noDigits c member] at digit
          cases digit
        constructor
        · intro holds
          obtain ⟨written, stops⟩ := holds
          simp only [boundText, Option.elim_some] at written
          rw [written, if_neg none]
          exact ⟨numeral, rfl, rfl, stops⟩
        · intro holds
          split at holds
          next => cases holds.1
          next =>
            obtain ⟨_, same, written, stops⟩ := holds
            cases same
            exact ⟨written, stops⟩

/-! ## Braces -/

/-- The quantifier of two bounds, unless they are out of order. -/
inductive Bounds : Option Numeral → Option Numeral → Quantifier → Prop where
  | unbounded : Bounds none none .unbounded
  | atLeast (min : Numeral) : Bounds (some min) none (.atLeast min)
  | atMost (max : Numeral) : Bounds none (some max) (.atMost max)
  | between {min max : Numeral} (ordered : min.value ≤ max.value) :
      Bounds (some min) (some max) (.between min max ordered)

theorem quantifierOf_reads (first second : Option Numeral) :
    Reads (quantifierOf first second) fun quantifier text _ =>
      Bounds first second quantifier ∧ text = [] := by
  have returns : ∀ {made : Quantifier}, Bounds first second made →
      (∀ {other}, Bounds first second other → other = made) →
      Reads (pure made) fun quantifier text _ =>
        Bounds first second quantifier ∧ text = [] := by
    intro made bounds only
    refine .pure fun quantifier text _ => ?_
    constructor
    · exact fun holds => ⟨only holds.1, holds.2⟩
    · intro holds
      rw [holds.1]
      exact ⟨bounds, holds.2⟩
  unfold quantifierOf
  split
  · exact returns .unbounded fun other => by cases other; rfl
  · exact returns (.atLeast _) fun other => by cases other; rfl
  · exact returns (.atMost _) fun other => by cases other; rfl
  · next min max =>
    by_cases ordered : min.value ≤ max.value
    · rw [dif_pos ordered]
      exact returns (.between ordered) fun other => by cases other; rfl
    · rw [dif_neg ordered]
      refine .throw fun quantifier text _ holds => ?_
      cases holds.1 with
      | between inOrder => exact ordered inOrder

/-- What follows the first bound of a quantifier in braces. -/
inductive BracedText : Option Numeral → Quantifier → List Char → Prop where
  | exactly (count : Numeral) :
      BracedText (some count) (.exactly count) ['\x7d']
  | bounds {first second : Option Numeral} {quantifier : Quantifier} :
      Bounds first second quantifier →
      BracedText first quantifier (',' :: (boundText second ++ ['\x7d']))

theorem readBracedFrom_reads (first : Option Numeral) :
    Reads (readBracedFrom first) fun quantifier text _ =>
      BracedText first quantifier text := by
  apply Reads.afterPeek (fun shown quantifier text _ =>
    if (shown == some '\x7d') = true then
      ∃ tail, text = '\x7d' :: tail ∧
        ∃ count, first = some count ∧ quantifier = .exactly count ∧ tail = []
    else ∃ tail, text = ',' :: tail ∧ ∃ second,
        tail = boundText second ++ ['\x7d'] ∧
        Bounds first second quantifier)
  · intro shown
    by_cases closes : (shown == some '\x7d') = true
    · simp only [closes, if_true]
      refine Reads.afterExpect ?_ fun _ _ _ => Iff.rfl
      cases first with
      | none => exact .throw (by simp)
      | some count => exact .pure (by simp)
    · simp only [closes]
      refine Reads.afterExpect ?_ fun _ _ _ => Iff.rfl
      refine (readBound_reads (by simp)).bind _ (fun second =>
        Reads.afterExpect (quantifierOf_reads first second)
          fun _ _ _ => Iff.rfl) ?_
      intro quantifier text rest
      constructor
      · intro holds
        obtain ⟨second, written, bounds⟩ := holds
        refine ⟨second, boundText second, ['\x7d'], written, ⟨rfl, ?_⟩, [],
          rfl, bounds, rfl⟩
        exact boundEnds_cons (by decide) (by decide) _ _
      · intro holds
        obtain ⟨second, _, _, joined, ⟨written, -⟩, _, brace, bounds, empty⟩ :=
          holds
        rw [written, brace, empty] at joined
        exact ⟨second, joined, bounds⟩
  · intro quantifier text rest
    constructor
    · intro written
      cases written with
      | exactly count =>
          rw [if_pos (by simp)]
          exact ⟨[], rfl, count, rfl, rfl, rfl⟩
      | bounds bounds =>
          rw [if_neg (by simp)]
          exact ⟨_, rfl, _, rfl, bounds⟩
    · intro holds
      split at holds
      next =>
        obtain ⟨_, rfl, count, rfl, rfl, rfl⟩ := holds
        exact .exactly count
      next =>
        obtain ⟨_, rfl, second, rfl, bounds⟩ := holds
        exact .bounds bounds

/-- A quantifier in braces is a first bound, if any, and what follows it. -/
theorem Quantifier.text_eq_brace_iff {quantifier : Quantifier}
    {text : List Char} :
    quantifier.text = '\x7b' :: text ↔
      ∃ first tail, text = boundText first ++ tail ∧
        BracedText first quantifier tail := by
  constructor
  · intro written
    cases quantifier with
    | any | some | optional => cases written
    | exactly count =>
        cases written
        exact ⟨.some count, _, rfl, .exactly count⟩
    | atLeast min =>
        cases written
        exact ⟨.some min, _, rfl, .bounds (.atLeast min)⟩
    | atMost max =>
        cases written
        exact ⟨none, _, rfl, .bounds (.atMost max)⟩
    | between min max ordered =>
        cases written
        exact ⟨.some min, _, rfl, .bounds (.between ordered)⟩
    | unbounded =>
        cases written
        exact ⟨none, _, rfl, .bounds .unbounded⟩
  · intro holds
    obtain ⟨first, tail, rfl, written⟩ := holds
    cases written with
    | exactly count => rfl
    | bounds bounds => cases bounds <;> rfl

theorem BracedText.boundEnds {first : Option Numeral}
    {quantifier : Quantifier} {text : List Char}
    (written : BracedText first quantifier text) (rest : List Char) :
    BoundEnds [',', '\x7d'] first (text ++ rest) := by
  cases written with
  | exactly _ => exact boundEnds_cons (by decide) (by decide) _ _
  | bounds _ => exact boundEnds_cons (by decide) (by decide) _ _

theorem readBraced_reads :
    Reads readBraced fun quantifier text _ =>
      quantifier.text = '\x7b' :: text := by
  refine (readBound_reads (by simp)).bind _ readBracedFrom_reads ?_
  intro quantifier text rest
  rw [Quantifier.text_eq_brace_iff]
  constructor
  · intro holds
    obtain ⟨first, tail, joined, written⟩ := holds
    exact ⟨first, _, tail, joined, ⟨rfl, written.boundEnds rest⟩, written⟩
  · intro holds
    obtain ⟨first, _, tail, joined, ⟨bound, -⟩, written⟩ := holds
    rw [bound] at joined
    exact ⟨first, tail, joined, written⟩

/-! ## Quantifiers -/

/-- The characters that quantifiers start with. -/
def quantifierStarts : List Char :=
  ['*', '+', '?', '\x7b']

/-- No quantifier comes next. -/
def NoQuantifier (text : List Char) : Prop :=
  ∀ c ∈ text.head?, c ∉ quantifierStarts

theorem Quantifier.exists_cons (quantifier : Quantifier) :
    ∃ c more, quantifier.text = c :: more ∧ c ∈ quantifierStarts := by
  cases quantifier <;> exact ⟨_, _, rfl, by decide⟩

theorem Quantifier.text_ne_nil (quantifier : Quantifier) :
    quantifier.text ≠ [] := by
  obtain ⟨c, more, shown, -⟩ := quantifier.exists_cons
  rw [shown]
  exact List.cons_ne_nil c more

/-- The quantifiers of one character. -/
theorem expect_quantifier_reads {c : Char} {quantifier : Quantifier}
    (written : quantifier.text = [c])
    (only : ∀ other : Quantifier, other.text.head? = some c →
      other = quantifier) :
    Reads (do expect c; return some quantifier) fun found text _ =>
      ∃ other, found = some other ∧ text = other.text ∧
        other.text.head? = some c := by
  refine Reads.afterExpect (Reads.pure fun _ _ _ => Iff.rfl) ?_
  intro found text rest
  constructor
  · intro holds
    obtain ⟨other, same, shown, head⟩ := holds
    rw [only other head, written] at shown
    rw [only other head] at same
    exact ⟨[], shown, same, rfl⟩
  · intro holds
    obtain ⟨_, shown, same, rfl⟩ := holds
    exact ⟨quantifier, same, by rw [shown, written], by rw [written]; rfl⟩

theorem readQuantifier_reads :
    Reads readQuantifier (Grammar.orStop
      (fun quantifier text _ => text = quantifier.text)
      (fun text rest => text = [] ∧ NoQuantifier rest)) := by
  apply Reads.afterPeek (fun shown found text _ =>
    if shown.any quantifierStarts.contains = true then
      ∃ quantifier, found = some quantifier ∧ text = quantifier.text ∧
        quantifier.text.head? = shown
    else found = none ∧ text = [])
  · intro shown
    split
    · exact expect_quantifier_reads rfl fun other head => by
        cases other <;> first | rfl | cases head
    · exact expect_quantifier_reads rfl fun other head => by
        cases other <;> first | rfl | cases head
    · exact expect_quantifier_reads rfl fun other head => by
        cases other <;> first | rfl | cases head
    · refine Reads.afterExpect (readBraced_reads.map fun _ _ _ => Iff.rfl) ?_
      intro found text rest
      rw [if_pos (by decide)]
      constructor
      · intro holds
        obtain ⟨quantifier, same, shown, head⟩ := holds
        obtain ⟨c, more, written, -⟩ := quantifier.exists_cons
        rw [written] at head
        cases head
        exact ⟨more, by rw [shown, written], quantifier, same, written⟩
      · intro holds
        obtain ⟨tail, shown, quantifier, same, written⟩ := holds
        exact ⟨quantifier, same, by rw [shown, written], by rw [written]; rfl⟩
    · next noStar noPlus noMark noBrace =>
      have other : ¬ shown.any quantifierStarts.contains = true := by
        cases shown with
        | none => simp
        | some c => grind [quantifierStarts]
      refine .pure fun found text rest => ?_
      rw [if_neg other]
  · intro found text rest
    cases found with
    | none =>
        constructor
        · intro holds
          obtain ⟨empty, stops⟩ : text = [] ∧ NoQuantifier rest := holds
          rw [empty, List.nil_append, if_neg ?_]
          · exact ⟨rfl, rfl⟩
          · cases rest with
            | nil => simp
            | cons c rest => simpa using stops c rfl
        · intro holds
          split at holds
          next =>
            obtain ⟨_, impossible, _⟩ := holds
            cases impossible
          next stops =>
            refine ⟨holds.2, fun c head member => stops ?_⟩
            rw [holds.2, List.nil_append, Option.mem_def.mp head]
            simpa using member
    | some quantifier =>
        obtain ⟨c, more, written, starts⟩ := quantifier.exists_cons
        constructor
        · intro holds
          have shown : text = quantifier.text := holds
          rw [shown, if_pos ?_]
          · exact ⟨quantifier, rfl, rfl, by rw [written]; rfl⟩
          · rw [written]
            simpa using starts
        · intro holds
          split at holds
          next =>
            obtain ⟨_, same, shown, _⟩ := holds
            cases same
            exact shown
          next => cases holds.1

end Dialect

end TextPattern
