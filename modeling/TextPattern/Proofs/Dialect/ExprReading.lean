import TextPattern.Proofs.Dialect.ClassReading
import TextPattern.Proofs.Dialect.QuantifierReading

/-!
# Reading an expression follows the grammar

The readings of atoms, items, sequences and alternatives are stated for any
reading of groups; an induction on the number of groups that may still be
opened then gives the reading of an expression.
-/

namespace TextPattern

namespace Dialect

open Reading

/-! ## How texts start and what follows them -/

/-- A sequence ends at a bar, at a closing parenthesis, or with the text. -/
def SequenceEnds (text : List Char) : Prop :=
  ∀ c ∈ text.head?, c = '|' ∨ c = ')'

/-- An expression ends at a closing parenthesis or with the text. -/
def ExprEnds (text : List Char) : Prop :=
  ∀ c ∈ text.head?, c = ')'

theorem SequenceEnds.noQuantifier {text : List Char}
    (ends : SequenceEnds text) : NoQuantifier text := by
  intro c head
  rcases ends c head with bar | closing
  · rw [bar]
    decide
  · rw [closing]
    decide

theorem AtomText.exists_cons {room : Nat} {atom : Expr} {text : List Char}
    (written : AtomText room atom text) :
    ∃ c more, text = c :: more ∧ c ≠ '|' ∧ c ≠ ')' ∧
      c ∉ quantifierStarts := by
  cases written with
  | @char _ c plain =>
      refine ⟨c, [], rfl, ?_, ?_, ?_⟩
      · intro bar
        exact plain (by rw [bar]; decide)
      · intro closing
        exact plain (by rw [closing]; decide)
      · intro starts
        refine plain ?_
        simp only [quantifierStarts, List.mem_cons, List.not_mem_nil,
          or_false] at starts
        rcases starts with rfl | rfl | rfl | rfl <;> decide
  | anyChar | windowEnd | escape _ | charClass _ | group _ =>
      exact ⟨_, _, rfl, by decide, by decide, by decide⟩

theorem ItemText.exists_cons {room : Nat} {item : Expr} {text : List Char}
    (written : ItemText room item text) :
    ∃ c more, text = c :: more ∧ c ≠ '|' ∧ c ≠ ')' ∧
      c ∉ quantifierStarts := by
  cases written with
  | quantified quantifiers atom =>
      obtain ⟨c, more, shown, others⟩ := atom.exists_cons
      rw [shown]
      exact ⟨c, _, rfl, others⟩

theorem ItemText.ne_nil {room : Nat} {item : Expr} {text : List Char}
    (written : ItemText room item text) : text ≠ [] := by
  obtain ⟨c, more, shown, -⟩ := written.exists_cons
  rw [shown]
  exact List.cons_ne_nil c more

theorem ItemsText.noQuantifier {room : Nat} {items : List Expr}
    {text rest : List Char} (written : ItemsText room items text)
    (ends : SequenceEnds rest) : NoQuantifier (text ++ rest) := by
  cases written with
  | nil => exact ends.noQuantifier
  | cons item items =>
      obtain ⟨c, more, shown, -, -, other⟩ := item.exists_cons
      rw [shown]
      intro head same
      cases same
      exact other

/-! ## Atoms -/

/-- The characters that are not read as themselves. -/
def special : List Char :=
  ['(', '[', '.', '$', '\\'] ++ quantifierStarts ++ ['^', ']', '\x7d']

/-- What is read as an atom.  A bar and a closing parenthesis count as plain
characters here, but no item starts with them. -/
inductive AtomReading (room : Nat) : Expr → List Char → Prop where
  | atom {atom : Expr} {text : List Char} :
      AtomText room atom text → AtomReading room atom text
  | ending {c : Char} : c = '|' ∨ c = ')' → AtomReading room (.char c) [c]

/-- The reading of a group, from after its opening parenthesis. -/
abbrev GroupReading (room : Nat) (group : Reading Expr) : Prop :=
  Reads group fun operand text _ =>
    AtomText room (.group operand) ('(' :: text)

theorem mem_reserved_iff {c : Char} :
    c ∈ reserved ↔ c ∈ special ∨ c = '|' ∨ c = ')' := by
  simp only [reserved, special, quantifierStarts, List.cons_append,
    List.nil_append, List.mem_cons, List.not_mem_nil, or_false]
  grind

/-- The first character of an atom decides how the atom goes on. -/
theorem atomReading_cons_iff {room : Nat} {atom : Expr} {c : Char}
    {text : List Char} :
    AtomReading room atom (c :: text) ↔
      (c = '(' ∧ ∃ operand, atom = .group operand ∧
        AtomText room (.group operand) ('(' :: text)) ∨
      (c = '[' ∧ ∃ members, atom = .charClass members ∧
        ClassText members text) ∨
      (c = '.' ∧ atom = .anyChar ∧ text = []) ∨
      (c = '$' ∧ atom = .windowEnd ∧ text = []) ∨
      (c = '\\' ∧ ∃ escaped, atom = .escape escaped ∧ text = [escaped]) ∨
      (c ∉ special ∧ atom = .char c ∧ text = []) := by
  constructor
  · intro read
    cases read with
    | atom written =>
        cases written with
        | anyChar => simp
        | windowEnd => simp
        | @char _ c plain =>
            have other : c ∉ special := fun member =>
              plain (mem_reserved_iff.mpr (.inl member))
            simp [other]
        | escape c => simp
        | charClass members => simp [members]
        | group operand => simp [AtomText.group operand]
    | ending ending =>
        have other : c ∉ special := by
          rcases ending with bar | closing
          · rw [bar]
            decide
          · rw [closing]
            decide
        simp [other]
  · intro holds
    rcases holds with ⟨rfl, operand, rfl, written⟩ |
      ⟨rfl, members, rfl, written⟩ | ⟨rfl, rfl, rfl⟩ | ⟨rfl, rfl, rfl⟩ |
      ⟨rfl, escaped, rfl, rfl⟩ | ⟨other, rfl, rfl⟩
    · exact .atom written
    · exact .atom (.charClass written)
    · exact .atom .anyChar
    · exact .atom .windowEnd
    · exact .atom (.escape escaped)
    · by_cases ending : c = '|' ∨ c = ')'
      · exact .ending ending
      · refine .atom (.char fun member => ?_)
        rcases mem_reserved_iff.mp member with inside | ends
        · exact other inside
        · exact ending ends

theorem readAtom_reads {room : Nat} {group : Reading Expr}
    (groups : GroupReading room group) :
    Reads (readAtom group) fun atom text _ => AtomReading room atom text := by
  apply Reads.afterNext (fun c atom text _ =>
    AtomReading room atom (c :: text)) rfl
  · intro c
    split
    next none => cases none
    next same =>
      cases same
      exact groups.map (by simp [atomReading_cons_iff, special])
    next same =>
      cases same
      exact readClass_reads.map (by simp [atomReading_cons_iff, special])
    next same =>
      cases same
      exact .pure (by simp [atomReading_cons_iff, special])
    next same =>
      cases same
      exact .pure (by simp [atomReading_cons_iff, special])
    next same =>
      cases same
      exact readEscaped_reads.map (by simp [atomReading_cons_iff, special])
    next noGroup noClass noDot noDollar noEscape same =>
      cases same
      have reading : ∀ atom text, AtomReading room atom (c :: text) ↔
          c ∉ special ∧ atom = .char c ∧ text = [] := by
        intro atom text
        rw [atomReading_cons_iff]
        simp only [show c ≠ '(' from noGroup, show c ≠ '[' from noClass,
          show c ≠ '.' from noDot, show c ≠ '$' from noDollar,
          show c ≠ '\\' from noEscape, false_and, false_or]
      split
      next repeats =>
        refine .throw fun atom text _ read => ((reading _ _).mp read).1 ?_
        have member : c ∈ quantifierStarts :=
          List.contains_iff_mem.mp repeats
        simp [special, member]
      next noQuantifier =>
        split
        next closes =>
          refine .throw fun atom text _ read => ((reading _ _).mp read).1 ?_
          have member := List.contains_iff_mem.mp closes
          rw [special, List.mem_append]
          exact .inr member
        next noEnd =>
          refine .pure fun atom text _ => ?_
          have noStart : c ∉ quantifierStarts := fun member =>
            noQuantifier (List.contains_iff_mem.mpr member)
          have other : c ∉ special := by
            rw [special, List.mem_append, List.mem_append]
            intro member
            rcases member with (first | start) | last
            · simp only [List.mem_cons, List.not_mem_nil, or_false] at first
              rcases first with same | same | same | same | same
              · exact noGroup same
              · exact noClass same
              · exact noDot same
              · exact noDollar same
              · exact noEscape same
            · exact noStart start
            · exact noEnd (List.contains_iff_mem.mpr last)
          rw [reading]
          simp only [other, not_false_eq_true, true_and]
  · intro atom text rest
    constructor
    · intro read
      cases read with
      | atom written =>
          obtain ⟨c, more, rfl, -⟩ := written.exists_cons
          exact ⟨c, more, rfl, .atom written⟩
      | ending ending => exact ⟨_, [], rfl, .ending ending⟩
    · intro holds
      obtain ⟨c, more, rfl, read⟩ := holds
      exact read

/-! ## Items -/

theorem collect_quantifier_reads :
    Reads (collect readQuantifier) fun quantifiers text rest =>
      text = quantifiers.flatMap Quantifier.text ∧ NoQuantifier rest := by
  refine (collect_reads readQuantifier_reads ?_).congr ?_
  · intro quantifier text rest written
    rw [written]
    exact quantifier.text_ne_nil
  · intro quantifiers text rest
    constructor
    · intro collected
      induction collected with
      | nil stopped => exact stopped
      | cons written _ ih =>
          rw [List.flatMap_cons, written, ih.1]
          exact ⟨rfl, ih.2⟩
    · intro holds
      obtain ⟨rfl, stops⟩ := holds
      induction quantifiers with
      | nil => exact .nil ⟨rfl, stops⟩
      | cons quantifier quantifiers ih => exact .cons rfl ih

theorem readItem_reads {room : Nat} {group : Reading Expr}
    (groups : GroupReading room group) :
    Reads (readItem group) fun item text rest =>
      ∃ atom first quantifiers,
        item = List.foldl .quantified atom quantifiers ∧
        text = first ++ quantifiers.flatMap Quantifier.text ∧
        AtomReading room atom first ∧ NoQuantifier rest := by
  refine (readAtom_reads groups).bind _ (fun atom =>
    collect_quantifier_reads.map fun _ _ _ => Iff.rfl) ?_
  intro item text rest
  constructor
  · intro holds
    obtain ⟨atom, first, quantifiers, rfl, rfl, read, stops⟩ := holds
    exact ⟨atom, first, _, rfl, read, quantifiers, rfl, rfl, stops⟩
  · intro holds
    obtain ⟨atom, first, _, rfl, read, quantifiers, rfl, rfl, stops⟩ := holds
    exact ⟨atom, first, quantifiers, rfl, rfl, read, stops⟩

theorem readNextItem_reads {room : Nat} {group : Reading Expr}
    (groups : GroupReading room group) :
    Reads (readNextItem group) (Grammar.orStop
      (fun item text rest => ItemText room item text ∧ NoQuantifier rest)
      (fun text rest => text = [] ∧ SequenceEnds rest)) := by
  apply Reads.afterPeek (fun shown found text rest =>
    ((∀ c ∈ shown, c = '|' ∨ c = ')') ∧ found = none ∧ text = []) ∨
    ∃ c, shown = some c ∧ c ≠ '|' ∧ c ≠ ')' ∧
      ∃ item, found = some item ∧ ∃ atom first quantifiers,
        item = List.foldl .quantified atom quantifiers ∧
        text = first ++ quantifiers.flatMap Quantifier.text ∧
        AtomReading room atom first ∧ NoQuantifier rest)
  · intro shown
    split
    · exact .pure (by simp)
    · exact .pure (by simp)
    · exact .pure (by simp)
    next c noBar noClosing =>
      refine (readItem_reads groups).map fun found text rest => ?_
      constructor
      · intro holds
        rcases holds with ⟨ends, -⟩ | ⟨_, _, _, _, item, holds⟩
        · rcases ends c rfl with bar | closing
          · exact absurd bar noBar
          · exact absurd closing noClosing
        · exact ⟨item, holds⟩
      · intro holds
        exact .inr ⟨c, rfl, noBar, noClosing, holds⟩
  · intro found text rest
    cases found with
    | none =>
        constructor
        · intro holds
          obtain ⟨rfl, ends⟩ : text = [] ∧ SequenceEnds rest := holds
          exact .inl ⟨ends, rfl, rfl⟩
        · intro holds
          rcases holds with ⟨ends, -, rfl⟩ | ⟨_, _, _, _, _, none, _⟩
          · exact ⟨rfl, ends⟩
          · cases none
    | some item =>
        constructor
        · intro holds
          obtain ⟨written, stops⟩ :
            ItemText room item text ∧ NoQuantifier rest := holds
          obtain ⟨c, more, shown, noBar, noClosing, -⟩ := written.exists_cons
          have head : (text ++ rest).head? = some c := by
            rw [shown]
            rfl
          cases written with
          | quantified quantifiers atom =>
              exact .inr ⟨c, head, noBar, noClosing, _, rfl, _, _,
                quantifiers, rfl, rfl, .atom atom, stops⟩
        · intro holds
          rcases holds with ⟨_, none, _⟩ | ⟨c, head, noBar, noClosing, _,
            same, atom, first, quantifiers, rfl, rfl, read, stops⟩
          · cases none
          · cases same
            cases read with
            | atom written => exact ⟨.quantified quantifiers written, stops⟩
            | ending ending =>
                cases head
                rcases ending with bar | closing
                · exact absurd bar noBar
                · exact absurd closing noClosing

/-! ## Sequences -/

theorem collected_items_iff {room : Nat} {items : List Expr}
    {text rest : List Char} :
    Collected
        (fun item text rest => ItemText room item text ∧ NoQuantifier rest)
        (fun text rest => text = [] ∧ SequenceEnds rest) items text rest ↔
      ItemsText room items text ∧ SequenceEnds rest := by
  constructor
  · intro collected
    induction collected with
    | nil stopped =>
        obtain ⟨rfl, ends⟩ := stopped
        exact ⟨.nil, ends⟩
    | cons item _ ih => exact ⟨.cons item.1 ih.1, ih.2⟩
  · intro holds
    obtain ⟨written, ends⟩ := holds
    induction items generalizing text with
    | nil =>
        cases written
        exact .nil ⟨rfl, ends⟩
    | cons item items ih =>
        cases written with
        | cons first others =>
            exact .cons ⟨first, others.noQuantifier ends⟩ (ih others)

theorem readSequence_reads {room : Nat} {group : Reading Expr}
    (groups : GroupReading room group) :
    Reads (readSequence group) fun expr text rest =>
      ∃ items, expr = .sequence items ∧ ItemsText room items text ∧
        SequenceEnds rest := by
  have items := (collect_reads (readNextItem_reads groups)
    fun written => written.1.ne_nil).congr fun _ _ _ => collected_items_iff
  exact items.map fun _ _ _ => Iff.rfl

/-! ## Alternatives -/

/-- A bar and a sequence. -/
def BranchText (room : Nat) : Grammar Expr := fun branch text rest =>
  ∃ items tail, branch = .sequence items ∧ text = '|' :: tail ∧
    ItemsText room items tail ∧ SequenceEnds rest

theorem BranchText.ne_nil {room : Nat} {branch : Expr}
    {text rest : List Char} (written : BranchText room branch text rest) :
    text ≠ [] := by
  obtain ⟨items, tail, -, rfl, -⟩ := written
  exact List.cons_ne_nil '|' tail

theorem readNextAlternative_reads {room : Nat} {group : Reading Expr}
    (groups : GroupReading room group) :
    Reads (readNextAlternative group) ((BranchText room).orStop
      fun text rest => text = [] ∧ rest.head? ≠ some '|') := by
  apply Reads.afterPeek (fun shown found text rest =>
    if (shown == some '|') = true then
      ∃ tail, text = '|' :: tail ∧ ∃ branch, found = some branch ∧
        ∃ items, branch = .sequence items ∧ ItemsText room items tail ∧
          SequenceEnds rest
    else found = none ∧ text = [])
  · intro shown
    by_cases bar : (shown == some '|') = true
    · simp only [bar, if_true]
      refine Reads.afterExpect ?_ fun _ _ _ => Iff.rfl
      exact (readSequence_reads groups).map fun _ _ _ => Iff.rfl
    · simp only [bar]
      exact .pure fun _ _ _ => Iff.rfl
  · intro found text rest
    cases found with
    | none =>
        constructor
        · intro holds
          obtain ⟨rfl, noBar⟩ : text = [] ∧ rest.head? ≠ some '|' := holds
          rw [if_neg (by simpa using noBar)]
          exact ⟨rfl, rfl⟩
        · intro holds
          split at holds
          next =>
            obtain ⟨_, _, _, impossible, _⟩ := holds
            cases impossible
          next noBar =>
            obtain ⟨-, rfl⟩ := holds
            exact ⟨rfl, by simpa using noBar⟩
    | some branch =>
        constructor
        · intro holds
          obtain ⟨items, tail, rfl, rfl, written, ends⟩ :
            BranchText room branch text rest := holds
          rw [if_pos (by simp)]
          exact ⟨tail, rfl, _, rfl, items, rfl, written, ends⟩
        · intro holds
          split at holds
          next =>
            obtain ⟨tail, rfl, _, same, items, rfl, written, ends⟩ := holds
            cases same
            exact ⟨items, tail, rfl, rfl, written, ends⟩
          next => cases holds.1

/-- The alternatives after the first one.  Each of them ends where the sequence
before it may end. -/
theorem collected_branches_iff {room : Nat} {branches : List Expr}
    {text rest : List Char} :
    (Collected (BranchText room)
        (fun text rest => text = [] ∧ rest.head? ≠ some '|') branches text
        rest ∧ SequenceEnds (text ++ rest)) ↔
      BranchesText room branches text ∧ ExprEnds rest := by
  constructor
  · intro holds
    obtain ⟨collected, ends⟩ := holds
    induction collected with
    | nil stopped =>
        obtain ⟨rfl, noBar⟩ := stopped
        refine ⟨.nil, fun c head => ?_⟩
        rcases ends c head with bar | closing
        · rw [bar] at head
          exact absurd head noBar
        · exact closing
    | cons branch _ ih =>
        obtain ⟨items, tail, rfl, rfl, written, follows⟩ := branch
        obtain ⟨others, ended⟩ := ih follows
        exact ⟨.cons written others, ended⟩
  · intro holds
    obtain ⟨written, ended⟩ := holds
    induction branches generalizing text with
    | nil =>
        cases written
        refine ⟨.nil ⟨rfl, fun bar => ?_⟩, fun c head => .inr (ended c head)⟩
        cases ended '|' bar
    | cons branch branches ih =>
        cases written with
        | @cons _ items _ tail more first others =>
            obtain ⟨collected, follows⟩ := ih others
            have branch : BranchText room (.sequence items) ('|' :: tail)
                (more ++ rest) := ⟨items, tail, rfl, rfl, first, follows⟩
            refine ⟨.cons branch collected, fun c head => ?_⟩
            cases head
            exact .inl rfl

theorem readAlternatives_reads {room : Nat} {group : Reading Expr}
    (groups : GroupReading room group) :
    Reads (readAlternatives group) fun expr text rest =>
      ExprText room expr text ∧ ExprEnds rest := by
  have others : Reads (collect (readNextAlternative group))
      (Collected (BranchText room)
        fun text rest => text = [] ∧ rest.head? ≠ some '|') :=
    collect_reads (readNextAlternative_reads groups) BranchText.ne_nil
  refine (readSequence_reads groups).bind _ (fun first =>
    others.map fun _ _ _ => Iff.rfl) ?_
  intro expr text rest
  constructor
  · intro holds
    obtain ⟨written, ended⟩ := holds
    cases written with
    | alternatives items branches =>
        obtain ⟨collected, ends⟩ :=
          collected_branches_iff.mpr ⟨branches, ended⟩
        exact ⟨_, _, _, rfl, ⟨_, rfl, items, ends⟩, _, rfl, collected⟩
  · intro holds
    obtain ⟨_, head, tail, rfl, ⟨items, rfl, written, ends⟩, branches, rfl,
      collected⟩ := holds
    obtain ⟨others, ended⟩ := collected_branches_iff.mp ⟨collected, ends⟩
    exact ⟨.alternatives written others, ended⟩

/-! ## Expressions -/

theorem readGroupEnd_reads :
    Reads readGroupEnd fun _ text _ => text = [')'] := by
  apply Reads.afterNext (fun c _ text _ => c = ')' ∧ text = [])
    rfl
  · intro c
    split
    next same =>
      cases same
      exact .pure (by simp)
    next other =>
      refine .throw fun _ _ _ holds => ?_
      rw [holds.1] at other
      exact other rfl
  · intro _ text rest
    constructor
    · intro written
      exact ⟨')', [], written, rfl, rfl⟩
    · intro holds
      obtain ⟨c, tail, rfl, rfl, rfl⟩ := holds
      rfl

theorem groupText_iff {room : Nat} {operand : Expr} {text : List Char} :
    AtomText (room + 1) (.group operand) ('(' :: text) ↔
      ∃ inner, text = inner ++ [')'] ∧ ExprText room operand inner := by
  constructor
  · intro written
    cases written with
    | group inner => exact ⟨_, rfl, inner⟩
  · intro holds
    obtain ⟨inner, rfl, written⟩ := holds
    exact .group written

theorem throw_groupReading {error : Error} :
    GroupReading 0 (throw error) := by
  refine .throw fun operand text rest written => ?_
  cases written

/-- A group is an expression and the closing parenthesis. -/
theorem readGroup_reads {room : Nat} {read : Reading Expr}
    (reads : Reads read fun expr text rest =>
      ExprText room expr text ∧ ExprEnds rest) :
    GroupReading (room + 1) (do
      let inner ← read
      readGroupEnd
      return inner) := by
  refine reads.bind _ (fun inner =>
    readGroupEnd_reads.map fun _ _ _ => Iff.rfl) ?_
  intro operand text rest
  rw [groupText_iff]
  constructor
  · intro holds
    obtain ⟨inner, rfl, written⟩ := holds
    refine ⟨operand, inner, [')'], rfl, ⟨written, ?_⟩, (), rfl, rfl⟩
    intro c head
    cases head
    rfl
  · intro holds
    obtain ⟨_, inner, _, rfl, ⟨written, -⟩, _, rfl, rfl⟩ := holds
    exact ⟨inner, rfl, written⟩

/-- With no room left there is no group at all; with room for one more, a group
is read by the reading for the room that is left. -/
theorem readExpr_reads (room : Nat) :
    Reads (readExpr room) fun expr text rest =>
      ExprText room expr text ∧ ExprEnds rest := by
  induction room with
  | zero => exact readAlternatives_reads throw_groupReading
  | succ room ih => exact readAlternatives_reads (readGroup_reads ih)

end Dialect

end TextPattern
