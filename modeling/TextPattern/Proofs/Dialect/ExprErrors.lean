import TextPattern.Proofs.Dialect.ClassErrors
import TextPattern.Proofs.Dialect.ExprReading
import TextPattern.Proofs.Dialect.QuantifierErrors

/-!
# How expressions fail

An atom, an item, a sequence and a choice fail where one of their parts fails.
A part that has no end breaks all that it is a part of, and whatever completes
the part completes the whole.
-/

namespace TextPattern

namespace Dialect

open Reading

/-! ## What breaks at each level -/

/-- What is broken writes a group from its opening parenthesis on. -/
abbrev GroupBroken (room : Nat) : Fault :=
  Broken fun text => ∃ operand, AtomText room (.group operand) text

abbrev AtomBroken (room : Nat) : Fault :=
  Broken fun text => ∃ atom, AtomText room atom text

abbrev ItemBroken (room : Nat) : Fault :=
  Broken fun text => ∃ item, ItemText room item text

abbrev ItemsBroken (room : Nat) : Fault :=
  Broken fun text => ∃ items, ItemsText room items text

abbrev BranchesBroken (room : Nat) : Fault :=
  Broken fun text => ∃ branches, BranchesText room branches text

abbrev ExprBroken (room : Nat) : Fault :=
  Broken fun text => ∃ expr, ExprText room expr text

/-- The reading of a group fails after the opening parenthesis. -/
abbrev GroupFailing (room : Nat) (group : Reading Expr) : Prop :=
  Fails group fun error text rest => GroupBroken room error ('(' :: text) rest

section

variable {room : Nat} {text : List Char}

theorem AtomText.item {atom : Expr} (written : AtomText room atom text) :
    ItemText room atom text := by
  have single : ItemText room atom (text ++ []) := .quantified [] written
  rwa [List.append_nil] at single

theorem ItemText.items {item : Expr} (written : ItemText room item text) :
    ItemsText room [item] text := by
  have single : ItemsText room [item] (text ++ []) := .cons written .nil
  rwa [List.append_nil] at single

theorem ItemsText.branches {items : List Expr}
    (written : ItemsText room items text) :
    BranchesText room [.sequence items] ('|' :: text) := by
  have single : BranchesText room [.sequence items] ('|' :: (text ++ [])) :=
    .cons written .nil
  rwa [List.append_nil] at single

theorem ItemsText.expr {items : List Expr}
    (written : ItemsText room items text) :
    ExprText room (.alternatives [.sequence items]) text := by
  have single : ExprText room (.alternatives [.sequence items])
      (text ++ []) := .alternatives written .nil
  rwa [List.append_nil] at single

end

section

variable {room : Nat} {group : Reading Expr}

/-! ## Atoms and items -/

theorem readAtom_fails (failing : GroupFailing room group) :
    Fails (readAtom group) (AtomBroken room) := by
  apply Fails.afterNext (fun c error text rest =>
    AtomBroken room error (c :: text) rest) rfl
  · intro c
    split
    next none => cases none
    next same =>
      cases same
      apply failing.map.mono
      intro error text rest broken
      exact broken.mono fun _ ⟨operand, written⟩ => ⟨_, written⟩
    next same =>
      cases same
      apply readClass_fails.map.mono
      intro error text rest broken
      apply broken.prepend ['[']
      intro text ⟨members, written⟩
      exact ⟨.charClass members, .charClass written⟩
    next same =>
      cases same
      exact .pure
    next same =>
      cases same
      exact .pure
    next same =>
      cases same
      apply readEscaped_fails.map.mono
      intro error text rest holds
      obtain ⟨rfl, rfl, rfl⟩ := holds
      exact .of_located rfl id
    next same =>
      cases same
      split
      next repeats => exact .throw fun _ => .of_located trivial id
      next other =>
        split
        next closes =>
          exact .throw fun _ => .of_located (.inl (List.suffix_refl _)) id
        next plain => exact .pure
  · exact .of_located rfl id
  · intro c error text rest broken
    exact broken

theorem readItem_fails (groups : GroupReading room group)
    (failing : GroupFailing room group) :
    Fails (readItem group) (ItemBroken room) := by
  apply Fails.bindNextOnly (readAtom_reads groups)
    (fun _ _ _ _ _ read => read) (readAtom_fails failing)
    (fun _ => QuantifierFault)
  · intro atom
    exact collect_quantifier_fails.map
  · intro error text rest broken
    exact broken.mono fun _ ⟨atom, written⟩ => ⟨atom, written.item⟩
  · intro atom text error tail rest _ fault
    obtain ⟨located, closed⟩ := fault.append text
    exact .of_located located closed

theorem readNextItem_fails (groups : GroupReading room group)
    (failing : GroupFailing room group) :
    Fails (readNextItem group) (ItemBroken room) := by
  apply Fails.afterPeek (fun _ => ItemBroken room)
  · intro shown
    split
    · exact .pure
    · exact .pure
    · exact .pure
    · exact (readItem_fails groups failing).map
  · intro error text rest broken
    exact broken

/-! ## Sequences -/

theorem itemsBroken_of_collected {error : Error} {items : List Expr}
    {text rest : List Char}
    (collected : Collected
      (fun item text rest => ItemText room item text ∧ NoQuantifier rest)
      (ItemBroken room error) items text rest) :
    ItemsBroken room error text rest := by
  induction collected with
  | nil broken =>
      exact broken.mono fun _ ⟨item, written⟩ => ⟨[item], written.items⟩
  | @cons item _ text _ _ piece _ ih =>
      apply ih.prepend text
      intro more ⟨items, others⟩
      exact ⟨item :: items, .cons piece.1 others⟩

theorem readSequence_fails (groups : GroupReading room group)
    (failing : GroupFailing room group) :
    Fails (readSequence group) (ItemsBroken room) := by
  have several := collect_fails (readNextItem_reads groups)
    (readNextItem_fails groups failing) (by
      intro item text error items more rest other piece _ same
      refine ⟨piece.1, fun c head => piece.2 c ?_⟩
      rwa [head?_append_congr same more] at head)
    fun written => written.1.ne_nil
  apply several.map.mono
  intro error text rest holds
  obtain ⟨items, collected⟩ := holds
  exact itemsBroken_of_collected collected

/-! ## Alternatives -/

theorem readNextAlternative_fails (groups : GroupReading room group)
    (failing : GroupFailing room group) :
    Fails (readNextAlternative group) (BranchesBroken room) := by
  apply Fails.afterPeek (fun _ => BranchesBroken room)
  · intro shown
    by_cases bar : (shown == some '|') = true
    · simp only [bar, if_true]
      apply (readSequence_fails groups failing).map.afterExpect
      · intro error text rest missing
        exact .of_expect missing
      · intro error tail rest broken
        apply broken.prepend ['|']
        intro text ⟨items, written⟩
        exact ⟨[.sequence items], written.branches⟩
    · simp only [bar]
      exact .pure
  · intro error text rest broken
    exact broken

theorem branchesBroken_of_collected {error : Error} {branches : List Expr}
    {text rest : List Char}
    (collected : Collected (BranchText room) (BranchesBroken room error)
      branches text rest) :
    BranchesBroken room error text rest := by
  induction collected with
  | nil broken => exact broken
  | @cons branch _ text _ _ piece _ ih =>
      obtain ⟨items, tail, rfl, rfl, written, -⟩ := piece
      apply ih.prepend ('|' :: tail)
      intro more ⟨branches, others⟩
      exact ⟨.sequence items :: branches, .cons written others⟩

theorem sequence_nextOnly :
    Grammar.NextOnly fun (expr : Expr) text rest =>
      ∃ items, expr = .sequence items ∧ ItemsText room items text ∧
        SequenceEnds rest := by
  intro expr text rest other same holds
  obtain ⟨items, shown, written, ends⟩ := holds
  refine ⟨items, shown, written, fun c head => ends c ?_⟩
  rwa [same] at head

theorem readAlternatives_fails (groups : GroupReading room group)
    (failing : GroupFailing room group) :
    Fails (readAlternatives group) (ExprBroken room) := by
  have others := collect_fails (readNextAlternative_reads groups)
    (readNextAlternative_fails groups failing) (by
      intro branch text error branches more rest other piece _ same
      obtain ⟨items, tail, shown, start, written, ends⟩ := piece
      refine ⟨items, tail, shown, start, written, fun c head => ends c ?_⟩
      rwa [head?_append_congr same more] at head)
    BranchText.ne_nil
  apply Fails.bindNextOnly (readSequence_reads groups) sequence_nextOnly
    (readSequence_fails groups failing) (fun _ => BranchesBroken room)
  · intro first
    apply others.map.mono
    intro error text rest holds
    obtain ⟨branches, collected⟩ := holds
    exact branchesBroken_of_collected collected
  · intro error text rest broken
    exact broken.mono fun _ ⟨items, written⟩ => ⟨_, written.expr⟩
  · intro first text error tail rest holds broken
    obtain ⟨items, rfl, written, -⟩ := holds
    apply broken.prepend text
    intro more ⟨branches, others⟩
    exact ⟨.alternatives (.sequence items :: branches),
      .alternatives written others⟩

end

/-! ## Expressions -/

theorem readGroupEnd_fails :
    Fails readGroupEnd fun error text rest =>
      error = .unclosedGroup ∧
        (text = [] ∧ rest = [] ∨ ∃ c, text = [c] ∧ c ≠ ')') := by
  apply Fails.afterNext (fun c error text _ =>
    error = .unclosedGroup ∧ text = [] ∧ c ≠ ')') rfl
  · intro c
    split
    next closes => exact .pure
    next other =>
      refine .throw fun _ => ⟨rfl, rfl, fun same => other ?_⟩
      rw [same]
  · exact ⟨rfl, .inl ⟨rfl, rfl⟩⟩
  · intro c error text rest holds
    obtain ⟨rfl, rfl, other⟩ := holds
    exact ⟨rfl, .inr ⟨c, rfl, other⟩⟩

theorem expr_nextOnly (room : Nat) :
    Grammar.NextOnly fun expr text rest =>
      ExprText room expr text ∧ ExprEnds rest := by
  intro expr text rest other same holds
  refine ⟨holds.1, fun c head => holds.2 c ?_⟩
  rwa [same] at head

/-- An expression ends only at a closing parenthesis or with the text, so a
group has no end only where the text has none. -/
theorem readGroup_fails {room : Nat} {read : Reading Expr}
    (reads : Reads read fun expr text rest =>
      ExprText room expr text ∧ ExprEnds rest)
    (fails : Fails read (ExprBroken room)) :
    GroupFailing (room + 1) (do
      let inner ← read
      readGroupEnd
      return inner) := by
  apply Fails.bindNextOnly reads (expr_nextOnly room) fails
    (fun _ error text rest => error = .unclosedGroup ∧
      (text = [] ∧ rest = [] ∨ ∃ c, text = [c] ∧ c ≠ ')'))
  · intro inner
    exact readGroupEnd_fails.map
  · intro error text rest broken
    refine ⟨broken.located.append ['('], fun unclosed => ?_⟩
    obtain ⟨more, operand, written⟩ := broken.completes unclosed
    refine ⟨more ++ [')'], operand, ?_⟩
    have group : AtomText (room + 1) (.group operand)
        ('(' :: ((text ++ more) ++ [')'])) := .group written
    rwa [List.append_assoc] at group
  · intro operand text error tail rest holds fault
    obtain ⟨written, ends⟩ := holds
    obtain ⟨rfl, ⟨rfl, rfl⟩ | ⟨c, rfl, other⟩⟩ := fault
    · rw [List.append_nil]
      exact ⟨rfl, fun _ => ⟨[')'], operand, .group written⟩⟩
    · exact absurd (ends c rfl) other

theorem readExpr_fails (room : Nat) :
    Fails (readExpr room) (ExprBroken room) := by
  induction room with
  | zero =>
      apply readAlternatives_fails throw_groupReading
      exact .throw fun _ => .of_located trivial id
  | succ room ih =>
      have reads := readExpr_reads room
      exact readAlternatives_fails (readGroup_reads reads)
        (readGroup_fails reads ih)

end Dialect

end TextPattern
