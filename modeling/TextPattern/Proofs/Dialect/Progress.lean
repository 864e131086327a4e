import TextPattern.Proofs.Dialect.Calls
import TextPattern.Proofs.Dialect.ExprErrors

/-!
# Progress of the reader

Every routine that is called while a text is parsed ends, and its cursor
accounts for the text: what was read before it, what it has read and what it
leaves are the whole text, and its position is the number of characters before
it.  A routine that succeeds leaves as many groups open as it has found.
-/

namespace TextPattern

namespace Dialect

open Reading

/-! ## Loops -/

/-- One value more in front of the others. -/
def prepend {α : Type} (value : α) :
    EStateM.Result Error Cursor (List α) →
      EStateM.Result Error Cursor (List α)
  | .ok values last => .ok (value :: values) last
  | .error error last => .error error last

/-- The step is taken again and again from a cursor on, without any other
condition, and this ends with a result. -/
inductive Loops {α : Type} (step : Reading (Option α)) :
    Cursor → EStateM.Result Error Cursor (List α) → Prop where
  | stopped {before after : Cursor} :
      step before = .ok none after → Loops step before (.ok [] after)
  | failed {before after : Cursor} {error : Error} :
      step before = .error error after →
      Loops step before (.error error after)
  | again {before middle : Cursor} {value : α}
      {result : EStateM.Result Error Cursor (List α)} :
      step before = .ok (some value) middle → Loops step middle result →
      Loops step before (prepend value result)

/-- To collect the values of the step is to take it until it stops. -/
def Finishes {α : Type} (step : Reading (Option α)) : Prop :=
  ∀ before, Loops step before (collect step before)

/-- A step that costs a character for each value does not need to be kept from
going on forever. -/
theorem finishes_of_reads {α : Type} {step : Reading (Option α)}
    {piece : Grammar α} {stop : List Char → List Char → Prop}
    (reads : Reads step (piece.orStop stop))
    (consumes : ∀ {value text rest}, piece value text rest → text ≠ []) :
    Finishes step := by
  intro before
  fun_induction collect step before with
  | case1 before error after stopped => exact .failed stopped
  | case2 before after stopped => exact .stopped stopped
  | case3 before value middle read shorter error last failed ih =>
      rw [failed] at ih
      exact .again read ih
  | case4 before value middle read shorter others last more ih =>
      rw [more] at ih
      exact .again read ih
  | case5 before value middle read longer =>
      obtain ⟨text, spans, isPiece⟩ := (reads _ _ _).mp read
      exact absurd (spans.unread_shrinks (consumes isPiece)) longer

/-! ## What a routine has done -/

namespace Routine

/-- The routines that do not succeed without reading a character. -/
def Consumes : Routine → Prop
  | item | number | atom | escape | charClass => True
  | expression | sequence | braced => False

/-- What the routine leaves unread when it succeeds. -/
def Stops : Routine → List Char → Prop
  | expression => ExprEnds
  | sequence => SequenceEnds
  | item | braced | number | atom | escape | charClass => fun _ => True

end Routine

theorem groupFailing_readGroup (room : Nat) :
    GroupFailing room (readGroup room) := by
  cases room with
  | zero => exact .throw fun _ => .of_located trivial id
  | succ room =>
      exact readGroup_fails (readExpr_reads room) (readExpr_fails room)

/-- The call has succeeded at a cursor after the text. -/
structure Returned (call : Call) (text : List Char) (after : Cursor) :
    Prop where
  spans : Spans call.cursor text after
  consumed : call.routine.Consumes → text ≠ []
  stops : call.routine.Stops after.rest
  walks {place : Place} : call.depth ≤ maxNesting →
    call.routine.Starts place call.cursor.rest →
    ∃ next, Walks maxNesting ⟨place, call.depth⟩ text ⟨next, call.depth⟩

theorem Returned.of_neutral {routine : Routine} {depth : Nat}
    {before after : Cursor} {text : List Char}
    (spans : Spans before text after)
    (consumed : routine.Consumes → text ≠ [])
    (stops : routine.Stops after.rest)
    (neutral : ∀ place, routine.Starts place before.rest →
      place = .outside ∧ Neutral (maxNesting - depth) text) :
    Returned ⟨routine, depth, before⟩ text after where
  spans := spans
  consumed := consumed
  stops := stops
  walks {place} fits starts := by
    obtain ⟨rfl, neutral⟩ := neutral place starts
    exact ⟨.outside, neutral.walks fits⟩

theorem ClassText.ne_nil {cls : CharClass} {text : List Char}
    (written : ClassText cls text) : text ≠ [] := by
  cases written with
  | plain member _ _ =>
      obtain ⟨head, more, rfl⟩ := member.exists_cons
      exact List.cons_ne_nil head _
  | negated _ _ => exact List.cons_ne_nil '^' _

theorem AtomReading.ne_nil {room : Nat} {atom : Expr} {text : List Char}
    (read : AtomReading room atom text) : text ≠ [] := by
  cases read with
  | atom written =>
      obtain ⟨c, more, rfl, -⟩ := written.exists_cons
      exact List.cons_ne_nil c more
  | ending _ => exact List.cons_ne_nil _ []

namespace Routine

variable {routine : Routine} {depth : Nat} {before after : Cursor}

theorem exists_returned {value : routine.Value}
    (ran : routine.reading depth before = .ok value after) :
    ∃ text, Returned ⟨routine, depth, before⟩ text after := by
  cases routine with
  | expression =>
      obtain ⟨text, spans, written, ends⟩ := (readExpr_reads _ _ _ _).mp ran
      exact ⟨text, .of_neutral spans False.elim ends
        fun place starts => ⟨starts, written.neutral⟩⟩
  | sequence =>
      obtain ⟨text, spans, items, -, written, ends⟩ :=
        (readSequence_reads (groupReading_readGroup _) _ _ _).mp ran
      exact ⟨text, .of_neutral spans False.elim ends
        fun place starts => ⟨starts, written.neutral⟩⟩
  | item =>
      obtain ⟨text, spans, atom, first, quantifiers, -, rfl, read, -⟩ :=
        (readItem_reads (groupReading_readGroup _) _ _ _).mp ran
      refine ⟨_, .of_neutral spans (fun _ => ?_) trivial ?_⟩
      · exact fun none => read.ne_nil (List.append_eq_nil_iff.mp none).1
      · intro place starts
        obtain ⟨outside, starts⟩ := starts
        rw [spans.rest, List.append_assoc] at starts
        exact ⟨outside, (read.atomText starts).neutral.append
          (neutral_quantifiers quantifiers)⟩
  | braced =>
      obtain ⟨text, spans, written⟩ := (readBraced_reads _ _ _).mp ran
      have inert : ∀ c ∈ '\x7b' :: text, Inert c := by
        rw [← written]
        exact Quantifier.inert _
      exact ⟨text, .of_neutral spans False.elim trivial fun place starts =>
        ⟨starts, .of_inert (List.forall_mem_cons.mp inert).2⟩⟩
  | number =>
      obtain ⟨text, spans, rfl, -⟩ := (readNumber_reads _ _ _).mp ran
      exact ⟨_, .of_neutral spans (fun _ => Numeral.nonempty _) trivial
        fun place starts => ⟨starts, .of_inert (Numeral.inert _)⟩⟩
  | atom =>
      obtain ⟨text, spans, read⟩ :=
        (readAtom_reads (groupReading_readGroup _) _ _ _).mp ran
      refine ⟨text, .of_neutral spans (fun _ => read.ne_nil) trivial ?_⟩
      intro place starts
      obtain ⟨outside, starts⟩ := starts
      rw [spans.rest] at starts
      exact ⟨outside, (read.atomText starts).neutral⟩
  | escape =>
      obtain ⟨text, spans, rfl⟩ := (readEscaped_reads _ _ _).mp ran
      refine ⟨_, spans, fun _ => List.cons_ne_nil _ [], trivial, ?_⟩
      intro place fits starts
      rcases starts with rfl | rfl
      · exact ⟨.outside, .cons fits (.nil fits)⟩
      · exact ⟨.classLater, .cons fits (.nil fits)⟩
  | charClass =>
      obtain ⟨text, spans, written⟩ := (readClass_reads _ _ _).mp ran
      refine ⟨text, spans, fun _ => written.ne_nil, trivial, ?_⟩
      intro place fits starts
      cases starts
      exact ⟨.outside, written.walks fits⟩

theorem exists_spans_of_error {error : Error}
    (failed : routine.reading depth before = .error error after) :
    ∃ text, Spans before text after := by
  have groups := groupReading_readGroup (maxNesting - depth)
  have failing := groupFailing_readGroup (maxNesting - depth)
  cases routine with
  | expression => exact (readExpr_fails _ _ _ _ failed).imp fun _ => And.left
  | sequence =>
      exact (readSequence_fails groups failing _ _ _ failed).imp
        fun _ => And.left
  | item =>
      exact (readItem_fails groups failing _ _ _ failed).imp fun _ => And.left
  | braced => exact (readBraced_fails _ _ _ failed).imp fun _ => And.left
  | number => exact (readNumber_fails _ _ _ failed).imp fun _ => And.left
  | atom => exact (readAtom_fails failing _ _ _ failed).imp fun _ => And.left
  | escape => exact (readEscaped_fails _ _ _ failed).imp fun _ => And.left
  | charClass => exact (readClass_fails _ _ _ failed).imp fun _ => And.left

end Routine

/-! ## Calls while a text is parsed -/

/-- What is before the call accounts for its position and for the groups that
are open. -/
structure Placed (text before : List Char) (call : Call) : Prop where
  spans : Spans ⟨text, 0⟩ before call.cursor
  walks : ∃ place,
    Walks maxNesting ⟨.outside, 0⟩ before ⟨place, call.depth⟩ ∧
      call.routine.Starts place call.cursor.rest

theorem Calls.exists_placed {text before : List Char} {outer inner : Call}
    (calls : Calls outer inner) (placed : Placed text before outer) :
    ∃ longer, Placed text longer inner := by
  obtain ⟨spans, place, walks, starts⟩ := placed
  obtain ⟨more, leads⟩ := calls.exists_leads
  obtain ⟨next, further, begins⟩ := leads.walks walks.depth_le starts
  exact ⟨before ++ more, spans.trans leads.spans, next, walks.append further,
    begins⟩

theorem Called.exists_placed {text : List Char} {call : Call}
    (called : Called text call) : ∃ before, Placed text before call := by
  induction called with
  | refl =>
      exact ⟨[], Spans.empty_iff.mpr rfl, .outside, .nil (Nat.zero_le _), rfl⟩
  | tail _ calls ih =>
      obtain ⟨before, placed⟩ := ih
      exact calls.exists_placed placed

namespace Placed

variable {text before : List Char} {call : Call}

theorem depth_le (placed : Placed text before call) :
    call.depth ≤ maxNesting := by
  obtain ⟨place, walks, -⟩ := placed.walks
  exact walks.depth_le

theorem openGroups_eq (placed : Placed text before call) :
    openGroups before = call.depth := by
  obtain ⟨place, walks, -⟩ := placed.walks
  rw [openGroups, nestingAfter, walks.run_eq]

/-- Where the call succeeds, the groups it has opened are closed. -/
theorem openGroups_append {read : List Char} {after : Cursor}
    (placed : Placed text before call) (returned : Returned call read after) :
    openGroups (before ++ read) = call.depth ∧
      ∀ count, openGroups ((before ++ read).take count) ≤ maxNesting := by
  obtain ⟨place, walks, starts⟩ := placed.walks
  obtain ⟨next, further⟩ := returned.walks placed.depth_le starts
  have whole := walks.append further
  refine ⟨?_, whole.depth_run_take_le⟩
  rw [openGroups, nestingAfter, whole.run_eq]

/-- No character is lost: each is before the position or unread. -/
theorem position_add_length {read : List Char} {after : Cursor}
    (placed : Placed text before call)
    (spans : Spans call.cursor read after) :
    after.position + after.rest.length = text.length := by
  have whole := placed.spans.trans spans
  have shown : text = (before ++ read) ++ after.rest := whole.rest
  have position := whole.position
  rw [shown, List.length_append, position]
  simp

end Placed

/-- Every call that is made while a text is parsed ends, as no chain of calls
and no loop in a call goes on forever.  Where it ends, the characters that are
read and those that are not make up the text, and the position is the number of
those that are read.  If it succeeds, it leaves as many groups open as it has
found, with no more than the limit open on the way; it has read something if it
has to; and it has stopped where it has to. -/
theorem called_routines_progress (text : List Char) :
    (WellFounded fun inner outer => Calls outer inner) ∧
    (∀ depth before other,
      SameGroups depth other ⟨.expression, depth, before⟩ →
      readAlternatives other before = readExpr (maxNesting - depth) before) ∧
    (∀ depth, Finishes (readNextAlternative (groupAt depth))) ∧
    (∀ depth, Finishes (readNextItem (groupAt depth))) ∧
    Finishes readQuantifier ∧ Finishes readLaterMember ∧
    ∀ routine depth cursor, Called text ⟨routine, depth, cursor⟩ →
      ∃ before, Spans ⟨text, 0⟩ before cursor ∧
        openGroups before = depth ∧ depth ≤ maxNesting ∧
        ((∃ value after read,
          routine.reading depth cursor = .ok value after ∧
          Spans cursor read after ∧
          after.position + after.rest.length = text.length ∧
          openGroups (before ++ read) = depth ∧
          (∀ count, openGroups ((before ++ read).take count) ≤ maxNesting) ∧
          (routine.Consumes → read ≠ []) ∧ routine.Stops after.rest) ∨
        ∃ error after read,
          routine.reading depth cursor = .error error after ∧
          Spans cursor read after ∧
          after.position + after.rest.length = text.length) := by
  refine ⟨calls_wellFounded, fun _ _ _ => readAlternatives_congr,
    fun depth => ?_, fun depth => ?_, ?_, ?_, ?_⟩
  · exact finishes_of_reads
      (readNextAlternative_reads (groupReading_readGroup _)) BranchText.ne_nil
  · exact finishes_of_reads
      (readNextItem_reads (groupReading_readGroup _))
      fun written => written.1.ne_nil
  · refine finishes_of_reads readQuantifier_reads ?_
    intro quantifier text rest written
    rw [written]
    exact quantifier.text_ne_nil
  · exact finishes_of_reads readLaterMember_reads LaterText.ne_nil
  · intro routine depth cursor called
    obtain ⟨before, placed⟩ := called.exists_placed
    refine ⟨before, placed.spans, placed.openGroups_eq, placed.depth_le, ?_⟩
    cases ran : routine.reading depth cursor with
    | ok value after =>
        obtain ⟨read, returned⟩ := Routine.exists_returned ran
        obtain ⟨balanced, bounded⟩ := placed.openGroups_append returned
        exact .inl ⟨value, after, read, rfl, returned.spans,
          placed.position_add_length returned.spans, balanced, bounded,
          returned.consumed, returned.stops⟩
    | error error after =>
        obtain ⟨read, spans⟩ := Routine.exists_spans_of_error ran
        exact .inr ⟨error, after, read, rfl, spans,
          placed.position_add_length spans⟩

/-- In a group that is broken by a square bracket in the place of a brace, the
number in braces is read and the quantifier is not. -/
theorem called_routines_progress_open_group :
    Called ['(', 'a', '\x7b', '2', ']'] ⟨.number, 1, ⟨['2', ']'], 3⟩⟩ ∧
    (∃ numeral after read,
      readNumber ⟨['2', ']'], 3⟩ = .ok numeral after ∧
      Spans ⟨['2', ']'], 3⟩ read after ∧
      after.position + after.rest.length = 5 ∧ read ≠ []) ∧
    Called ['(', 'a', '\x7b', '2', ']'] ⟨.braced, 1, ⟨['2', ']'], 3⟩⟩ ∧
    ∃ error after read,
      readBraced ⟨['2', ']'], 3⟩ = .error error after ∧
      Spans ⟨['2', ']'], 3⟩ read after ∧
      after.position + after.rest.length = 5 := by
  have start : Called ['(', 'a', '\x7b', '2', ']']
      ⟨.expression, 0, ⟨['(', 'a', '\x7b', '2', ']'], 0⟩⟩ := .refl
  have group : Called ['(', 'a', '\x7b', '2', ']']
      ⟨.expression, 1, ⟨['a', '\x7b', '2', ']'], 1⟩⟩ := by
    have sequence := start.tail .firstSequence
    have item := sequence.tail (.item .refl (by simp [SequenceEnds]))
    exact (item.tail .atom).tail (.group (by decide) ⟨rfl, rfl⟩)
  have braced : Called ['(', 'a', '\x7b', '2', ']']
      ⟨.braced, 1, ⟨['2', ']'], 3⟩⟩ := by
    have sequence := group.tail .firstSequence
    have item := sequence.tail (.item .refl (by simp [SequenceEnds]))
    have read : readAtom (groupAt 1) ⟨['a', '\x7b', '2', ']'], 1⟩ =
        .ok (.char 'a') ⟨['\x7b', '2', ']'], 2⟩ := rfl
    exact item.tail (.braced read .refl ⟨rfl, rfl⟩)
  have number := braced.tail (.firstNumber (by decide))
  have accounts := (called_routines_progress
    ['(', 'a', '\x7b', '2', ']']).2.2.2.2.2.2
  refine ⟨number, ?_, braced, ?_⟩
  · obtain ⟨_, -, -, -, returned | ⟨_, _, _, failed, -⟩⟩ :=
      accounts _ _ _ number
    · obtain ⟨numeral, after, read, ran, spans, whole, -, -, consumed, -⟩ :=
        returned
      exact ⟨numeral, after, read, ran, spans, whole, consumed trivial⟩
    · cases failed
  · obtain ⟨_, -, -, -, ⟨_, _, _, ran, -⟩ | failed⟩ :=
      accounts _ _ _ braced
    · cases ran
    · exact failed

end Dialect

end TextPattern
