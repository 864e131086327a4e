import TextPattern.Proofs.Dialect.Limited
import TextPattern.Proofs.Dialect.Nesting
import TextPattern.Proofs.Dialect.OpenGroups
import TextPattern.Proofs.Dialect.SyntaxErrors

/-!
# The limit on open groups

Reading with room for fewer groups differs from reading with more room in one
way only: it gives up right after the first parenthesis for which there is no
room.  At this place as many groups are open as there may be, whatever else has
been read before it.
-/

namespace TextPattern

namespace Dialect

open Reading

/-! ## Where readings give up -/

/-- The text ends with a parenthesis for which there is no room, and there is
room for all parentheses before it. -/
def EndsTooDeep (room : Nat) (text : List Char) : Prop :=
  ∃ before, text = before ++ ['('] ∧ ∀ bound depth, depth + room ≤ bound →
    Walks bound ⟨.outside, depth⟩ before ⟨.outside, depth + room⟩

theorem EndsTooDeep.prepend {room : Nat} {head text : List Char}
    (neutral : Neutral room head) (deep : EndsTooDeep room text) :
    EndsTooDeep room (head ++ text) := by
  obtain ⟨before, rfl, walks⟩ := deep
  refine ⟨head ++ before, (List.append_assoc _ _ _).symm, ?_⟩
  intro bound depth inside
  exact (neutral bound depth inside).append (walks bound depth inside)

/-- A group takes up the room for one. -/
theorem EndsTooDeep.group {room : Nat} {text : List Char}
    (deep : EndsTooDeep room text) : EndsTooDeep (room + 1) ('(' :: text) := by
  obtain ⟨before, rfl, walks⟩ := deep
  refine ⟨'(' :: before, rfl, ?_⟩
  intro bound depth inside
  have inner : Walks bound ⟨.outside, depth + 1⟩ before
      ⟨.outside, depth + 1 + room⟩ := walks bound (depth + 1) (by omega)
  rw [Nat.add_assoc, Nat.add_comm 1 room] at inner
  exact .cons (by simp only; omega) inner

/-- The readings of a group, from after its opening parenthesis. -/
abbrev GroupAgrees (room : Nat) (group full : Reading Expr) : Prop :=
  Agrees group full fun text => EndsTooDeep room ('(' :: text)

section

variable {room : Nat} {group full : Reading Expr}

theorem readAtom_agrees (groups : GroupReading room group)
    (agrees : GroupAgrees room group full) :
    Agrees (readAtom group) (readAtom full) (EndsTooDeep room) := by
  apply Agrees.after next_reads next_steadfast
    fun shown text => EndsTooDeep room (shown.toList ++ text)
  · intro shown
    split
    · exact .refl (.throw id)
    · exact agrees.map groups
    · exact .refl readClass_steadfast.map
    · exact .refl .pure
    · exact .refl .pure
    · exact .refl readEscaped_steadfast.map
    · split
      · exact .refl (.throw id)
      · split
        · exact .refl (.throw id)
        · exact .refl .pure
  · intro shown head tail rest read deep
    rw [read.1]
    exact deep

theorem readNextItem_agrees (groups : GroupReading room group)
    (agrees : GroupAgrees room group full) :
    Agrees (readNextItem group) (readNextItem full) (EndsTooDeep room) := by
  have items : Agrees (readItem group) (readItem full)
      (EndsTooDeep room) := by
    apply (readAtom_agrees groups agrees).bind (readAtom_reads groups)
      fun _ _ => False
    · exact fun _ => .refl readQuantifier_steadfast.collect.map
    · exact fun _ deep => deep
    · exact fun _ _ _ _ _ none => none.elim
  apply Agrees.after peek_reads peek_steadfast fun _ => EndsTooDeep room
  · intro shown
    split
    · exact .refl .pure
    · exact .refl .pure
    · exact .refl .pure
    · exact items.map (readItem_reads groups)
  · intro shown head tail rest read deep
    rw [read.1]
    exact deep

theorem readSequence_agrees (groups : GroupReading room group)
    (agrees : GroupAgrees room group full) :
    Agrees (readSequence group) (readSequence full) (EndsTooDeep room) := by
  have items : Agrees (collect (readNextItem group))
      (collect (readNextItem full)) (EndsTooDeep room) := by
    apply (readNextItem_agrees groups agrees).collect
      (readNextItem_reads groups)
    intro item head tail rest piece deep
    exact deep.prepend piece.1.neutral
  exact items.map (collect_reads (readNextItem_reads groups)
    fun written => written.1.ne_nil)

theorem readNextAlternative_agrees (groups : GroupReading room group)
    (agrees : GroupAgrees room group full) :
    Agrees (readNextAlternative group) (readNextAlternative full)
      (EndsTooDeep room) := by
  apply Agrees.after peek_reads peek_steadfast fun _ => EndsTooDeep room
  · intro shown
    by_cases isBar : (shown == some '|') = true
    · simp only [isBar, if_true]
      apply Agrees.after (expect_reads '|') (expect_steadfast '|')
        fun _ => EndsTooDeep room
      · intro _
        exact (readSequence_agrees groups agrees).map
          (readSequence_reads groups)
      · intro _ head tail rest read deep
        rw [read]
        exact deep.prepend .bar
    · simp only [isBar]
      exact .refl .pure
  · intro shown head tail rest read deep
    rw [read.1]
    exact deep

theorem readAlternatives_agrees (groups : GroupReading room group)
    (agrees : GroupAgrees room group full) :
    Agrees (readAlternatives group) (readAlternatives full)
      (EndsTooDeep room) := by
  have others : Agrees (collect (readNextAlternative group))
      (collect (readNextAlternative full)) (EndsTooDeep room) := by
    apply (readNextAlternative_agrees groups agrees).collect
      (readNextAlternative_reads groups)
    intro branch head tail rest piece deep
    obtain ⟨items, more, -, rfl, written, -⟩ := piece
    exact deep.prepend (Neutral.bar.append written.neutral)
  apply (readSequence_agrees groups agrees).bind (readSequence_reads groups)
    fun _ => EndsTooDeep room
  · exact fun _ => others.map (collect_reads
      (readNextAlternative_reads groups) BranchText.ne_nil)
  · exact fun _ deep => deep
  · intro first head tail rest read deep
    obtain ⟨items, -, written, -⟩ := read
    exact deep.prepend written.neutral

end

/-! ## Expressions -/

theorem readGroup_agrees {room : Nat} {read full : Reading Expr}
    (reads : Reads read fun expr text rest =>
      ExprText room expr text ∧ ExprEnds rest)
    (agrees : Agrees read full (EndsTooDeep room)) :
    GroupAgrees (room + 1) (do
      let inner ← read
      readGroupEnd
      return inner) (do
      let inner ← full
      readGroupEnd
      return inner) := by
  apply agrees.bind reads fun _ _ => False
  · exact fun _ => .refl readGroupEnd_steadfast.map
  · exact fun _ deep => deep.group
  · exact fun _ _ _ _ _ none => none.elim

theorem throw_groupAgrees (full : Reading Expr) :
    GroupAgrees 0 (throw (.nestedTooDeep maxNesting)) full := by
  apply Agrees.throw
  refine ⟨[], rfl, ?_⟩
  intro bound depth inside
  exact .nil inside

/-- More room makes no difference to a reading that does not give up. -/
theorem readExpr_agrees {room more : Nat} (larger : room ≤ more) :
    Agrees (readExpr room) (readExpr more) (EndsTooDeep room) := by
  induction room generalizing more with
  | zero =>
      -- No room is left, so the other reading of a group does not matter.
      cases more with
      | zero =>
          exact readAlternatives_agrees throw_groupReading
            (throw_groupAgrees _)
      | succ more =>
          exact readAlternatives_agrees throw_groupReading
            (throw_groupAgrees _)
  | succ room ih =>
      cases more with
      | zero => cases larger
      | succ more =>
          have inner := ih (Nat.le_of_succ_le_succ larger)
          have reads := readExpr_reads room
          exact readAlternatives_agrees (readGroup_reads reads)
            (readGroup_agrees reads inner)

/-! ## The place of the error -/

/-- A parenthesis opens a group where as many groups are open as there may
be. -/
def TooDeepAt (text : List Char) (index : Nat) : Prop :=
  text[index]? = some '(' ∧
    nestingAfter (text.take index) = ⟨.outside, maxNesting⟩

def FirstTooDeepAt (text : List Char) (index : Nat) : Prop :=
  TooDeepAt text index ∧ ∀ earlier, earlier < index → ¬ TooDeepAt text earlier

theorem TooDeepAt.openGroups_eq {text : List Char} {index : Nat}
    (tooDeep : TooDeepAt text index) :
    openGroups (text.take (index + 1)) = maxNesting + 1 := by
  obtain ⟨shown, nesting⟩ := tooDeep
  rw [openGroups, nestingAfter, Nesting.run_take_succ shown]
  rw [nestingAfter] at nesting
  rw [nesting]
  rfl

/-- Before the place where a reading gives up there was room for every
group. -/
theorem EndsTooDeep.firstTooDeepAt {text rest : List Char}
    (deep : EndsTooDeep maxNesting text) :
    ∃ index, text.length = index + 1 ∧
      FirstTooDeepAt (text ++ rest) index := by
  obtain ⟨before, rfl, walks⟩ := deep
  have opened : Walks maxNesting ⟨.outside, 0⟩ before
      ⟨.outside, 0 + maxNesting⟩ :=
    walks maxNesting 0 (Nat.le_of_eq (Nat.zero_add _))
  rw [Nat.zero_add] at opened
  have taken : ∀ count, count ≤ before.length →
      (before ++ ['('] ++ rest).take count = before.take count := by
    intro count inside
    rw [List.append_assoc, List.take_append_of_le_length inside]
  refine ⟨before.length, by simp, ⟨by simp, ?_⟩, ?_⟩
  · rw [taken _ (Nat.le_refl _), List.take_length]
    exact opened.run_eq
  · -- A group too many before this place would leave the bound of the walk.
    intro earlier inside tooDeep
    have tooMany := tooDeep.openGroups_eq
    rw [taken _ inside] at tooMany
    have bounded : openGroups (before.take (earlier + 1)) ≤ maxNesting :=
      opened.depth_run_take_le (earlier + 1)
    rw [tooMany] at bounded
    exact Nat.not_succ_le_self _ bounded

/-- Reading gives up only right after the first parenthesis that opens a group
too many. -/
theorem firstTooDeepAt_of_parse {text : List Char} {position limit : Nat}
    (failed : parse text = .error ⟨position, .nestedTooDeep limit⟩) :
    limit = maxNesting ∧
      ∃ index, position = index + 1 ∧ FirstTooDeepAt text index := by
  unfold parse at failed
  split at failed
  · next error cursor ran =>
    cases failed
    rcases (readExpr_agrees (Nat.le_refl maxNesting)).error ran with
      ⟨-, other⟩ | ⟨tooDeep, front, spans, deep⟩
    · exact absurd trivial other
    · cases tooDeep
      obtain ⟨index, length, first⟩ := deep.firstTooDeepAt
      refine ⟨rfl, index, ?_, ?_⟩
      · rw [spans.position, Nat.zero_add, length]
      · have shown : text = front ++ cursor.rest := spans.rest
        rw [shown]
        exact first
  · next expr cursor ran =>
    split at failed
    · cases failed
    · cases failed

/-- An expression whose groups nest too deep is read up to the first group too
many. -/
theorem ExprText.parse_eq_error {room : Nat} {expr : Expr}
    {text : List Char} (written : ExprText room expr text)
    (tooDeep : maxNesting < expr.nesting) :
    ∃ position,
      parse text = .error ⟨position, .nestedTooDeep maxNesting⟩ := by
  have ended : ExprEnds [] := fun c head => nomatch head
  have full := (readExpr_reads room).run 0 expr ⟨written, ended⟩
  rw [List.append_nil] at full
  have larger : maxNesting ≤ room :=
    Nat.le_trans (Nat.le_of_lt tooDeep) written.nesting_le
  -- With enough room the text is read, so with less room the reading can only
  -- give up or read the same expression, which does not fit.
  have agrees := readExpr_agrees larger
  cases ran : readExpr maxNesting ⟨text, 0⟩ with
  | ok found after =>
      have same := agrees.ok ran
      rw [full] at same
      cases same
      obtain ⟨taken, -, fits, -⟩ := (readExpr_reads _ _ _ _).mp ran
      exact absurd fits.nesting_le (Nat.not_le_of_gt tooDeep)
  | error error after =>
      rcases agrees.error ran with ⟨same, -⟩ | ⟨rfl, -⟩
      · rw [full] at same
        cases same
      · exact ⟨after.position, by simp only [parse, ran]⟩

/-- Only groups that are open at the same time count.  If the groups of an
expression nest too deep, the error is right after the first parenthesis that
opens a group too many; an error of this kind is reported nowhere else; and any
number of items beside each other is accepted if each of them is. -/
theorem compile_nesting_limit (text : List Char) :
    (∀ room expr, ExprText room expr text → maxNesting < expr.nesting →
      ∃ index, FirstTooDeepAt text index ∧ compile text =
        .error (.malformed (index + 1) (.nestedTooDeep maxNesting))) ∧
    (∀ position limit,
      compile text = .error (.malformed position (.nestedTooDeep limit)) →
      limit = maxNesting ∧
        openGroups (text.take position) = maxNesting + 1) ∧
    ((∀ count, openGroups (text.take count) ≤ maxNesting) →
      ∀ position limit,
        compile text ≠ .error (.malformed position (.nestedTooDeep limit))) ∧
    (∀ room items, ItemsText room items text →
      (∀ item ∈ items, item.nesting ≤ maxNesting) →
      compile text = .ok (Expr.alternatives [.sequence items]).toPattern) := by
  have reported : ∀ position limit,
      compile text = .error (.malformed position (.nestedTooDeep limit)) →
      limit = maxNesting ∧
        openGroups (text.take position) = maxNesting + 1 := by
    intro position limit failed
    obtain ⟨same, index, rfl, first⟩ :=
      firstTooDeepAt_of_parse (parse_eq_error_of_compile failed)
    exact ⟨same, first.1.openGroups_eq⟩
  refine ⟨?_, reported, ?_, ?_⟩
  · intro room expr written tooDeep
    obtain ⟨position, failed⟩ := written.parse_eq_error tooDeep
    obtain ⟨-, index, rfl, first⟩ := firstTooDeepAt_of_parse failed
    exact ⟨index, first, by simp only [compile, failed]⟩
  · intro bounded position limit failed
    have tooMany := (reported position limit failed).2
    have few := bounded position
    omega
  · intro room items written fits
    have derived : ExprText maxNesting (.alternatives [.sequence items])
        text := (written.of_deepest_le (Expr.deepest_le_iff.mpr fits)).expr
    simp only [compile, parse_eq_ok_iff.mpr derived]

/-- One group too many around a character, and two groups beside each other
that nest as deep as groups may. -/
theorem compile_nesting_limit_siblings :
    (∃ index, FirstTooDeepAt (enclosedText ['a'] (maxNesting + 1)) index ∧
      compile (enclosedText ['a'] (maxNesting + 1)) =
        .error (.malformed (index + 1) (.nestedTooDeep maxNesting))) ∧
    ∃ pattern, compile (enclosedText ['a'] maxNesting ++
      enclosedText ['a'] maxNesting) = .ok pattern := by
  have char : AtomText 0 (.char 'a') ['a'] := .char (by decide)
  have written := char.item.items.expr
  refine ⟨?_, ?_⟩
  · apply (compile_nesting_limit _).1 _ _ (written.enclosed (maxNesting + 1))
    rw [Expr.nesting_enclosed]
    decide
  · have group : AtomText maxNesting (.group (.enclosed _ 127))
        (enclosedText ['a'] maxNesting) := .group (written.enclosed 127)
    have groups : ItemsText maxNesting [_, _] (enclosedText ['a'] maxNesting ++
        enclosedText ['a'] maxNesting) := .cons group.item group.item.items
    refine ⟨_, (compile_nesting_limit _).2.2.2 _ _ groups ?_⟩
    intro item member
    simp only [List.mem_cons, List.not_mem_nil, or_false, or_self] at member
    rw [member]
    exact group.nesting_le

end Dialect

end TextPattern
