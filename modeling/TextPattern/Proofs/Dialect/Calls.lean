import Mathlib.Logic.Relation
import TextPattern.Proofs.Dialect.OpenGroups
import TextPattern.Proofs.Dialect.ExprReading

/-!
# The routines of the reader and their calls

An expression is read by eight routines that call each other.  A call is a
routine with the number of groups that are open and the cursor where it starts,
and `Calls` has one rule for each place in a routine where it calls another
one.  The text between the two starts opens as many groups as the calls count,
and where there is no such text the routine that is called is of a lower rank.
So a chain of calls cannot go on forever.  An expression depends on no group
but those that its atoms call.
-/

namespace TextPattern

namespace Dialect

open Reading

/-! ## Routines -/

/-- Reads a group from after its opening parenthesis, with room for so many
groups. -/
def readGroup : Nat → Reading Expr
  | 0 => throw (.nestedTooDeep maxNesting)
  | room + 1 => do
      let inner ← readExpr room
      readGroupEnd
      return inner

theorem readExpr_eq (room : Nat) :
    readExpr room = readAlternatives (readGroup room) := by
  cases room with
  | zero => rfl
  | succ room => rfl

theorem groupReading_readGroup (room : Nat) :
    GroupReading room (readGroup room) := by
  cases room with
  | zero => exact throw_groupReading
  | succ room => exact readGroup_reads (readExpr_reads room)

/-- Reads a group from after its opening parenthesis, where so many groups are
open before it. -/
abbrev groupAt (depth : Nat) : Reading Expr :=
  readGroup (maxNesting - depth)

inductive Routine where
  | expression
  | sequence
  | item
  /-- A quantifier in braces. -/
  | braced
  | number
  | atom
  /-- The character after a backslash. -/
  | escape
  | charClass
deriving DecidableEq, Repr

namespace Routine

def Value : Routine → Type
  | expression | sequence | item | atom => Expr
  | braced => Quantifier
  | number => Numeral
  | escape => Char
  | charClass => CharClass

/-- What the routine does where so many groups are open. -/
def reading (depth : Nat) : (routine : Routine) → Reading routine.Value
  | expression => readExpr (maxNesting - depth)
  | sequence => readSequence (groupAt depth)
  | item => readItem (groupAt depth)
  | braced => readBraced
  | number => readNumber
  | atom => readAtom (groupAt depth)
  | escape => readEscaped
  | charClass => readClass

/-- A routine calls none of a higher rank without reading something first. -/
def rank : Routine → Nat
  | expression => 3
  | sequence => 2
  | item | braced | charClass => 1
  | number | atom | escape => 0

theorem rank_lt (routine : Routine) : routine.rank < 4 := by
  cases routine <;> decide

/-- The places of a text where the routine may start, with the text that is
unread there. -/
def Starts : Routine → Place → List Char → Prop
  | expression, place, _ => place = .outside
  | sequence, place, _ => place = .outside
  | item, place, text => place = .outside ∧ ¬ SequenceEnds text
  | braced, place, _ => place = .outside
  | number, place, _ => place = .outside
  | atom, place, text => place = .outside ∧ ¬ SequenceEnds text
  | escape, place, _ => place = .escaped ∨ place = .classEscaped
  | charClass, place, _ => place = .classStart

end Routine

/-- A routine at the place where it starts. -/
structure Call where
  routine : Routine
  /-- The number of groups that are open. -/
  depth : Nat
  cursor : Cursor
deriving DecidableEq, Repr

/-! ## Calls -/

/-- The step gives any number of values between two cursors. -/
abbrev Steps {α : Type} (step : Reading (Option α)) :
    Cursor → Cursor → Prop :=
  Relation.ReflTransGen fun before after =>
    ∃ value, step before = .ok (some value) after

/-- Where the members of a class start that is read from the first cursor. -/
inductive AfterCaret (before : Cursor) : Cursor → Prop where
  | plain : before.rest.head? ≠ some '^' → AfterCaret before before
  | negated {after : Cursor} :
      Spans before ['^'] after → AfterCaret before after

/-- Where one of the members starts of a class that is read from the first
cursor. -/
inductive MemberAt (before : Cursor) : Cursor → Prop where
  | first {start : Cursor} :
      AfterCaret before start → MemberAt before start
  | later {start middle last : Cursor} {member : Member} :
      AfterCaret before start →
      readFirstMember start = .ok member middle →
      Steps readLaterMember middle last → last.rest.head? ≠ some ']' →
      MemberAt before last

/-- The first call makes the second one, whether or not it succeeds in the
end. -/
inductive Calls : Call → Call → Prop where
  | firstSequence {depth : Nat} {before : Cursor} :
      Calls ⟨.expression, depth, before⟩ ⟨.sequence, depth, before⟩
  | nextSequence {depth : Nat} {before middle last after : Cursor}
      {first : Expr} :
      readSequence (groupAt depth) before = .ok first middle →
      Steps (readNextAlternative (groupAt depth)) middle last →
      Spans last ['|'] after →
      Calls ⟨.expression, depth, before⟩ ⟨.sequence, depth, after⟩
  | item {depth : Nat} {before after : Cursor} :
      Steps (readNextItem (groupAt depth)) before after →
      ¬ SequenceEnds after.rest →
      Calls ⟨.sequence, depth, before⟩ ⟨.item, depth, after⟩
  | atom {depth : Nat} {before : Cursor} :
      Calls ⟨.item, depth, before⟩ ⟨.atom, depth, before⟩
  | braced {depth : Nat} {before middle last after : Cursor}
      {atom : Expr} :
      readAtom (groupAt depth) before = .ok atom middle →
      Steps readQuantifier middle last → Spans last ['\x7b'] after →
      Calls ⟨.item, depth, before⟩ ⟨.braced, depth, after⟩
  | firstNumber {depth : Nat} {before : Cursor} :
      ¬ before.rest.head?.any [',', '\x7d'].contains = true →
      Calls ⟨.braced, depth, before⟩ ⟨.number, depth, before⟩
  | secondNumber {depth : Nat} {before middle after : Cursor}
      {first : Option Numeral} :
      readBound [',', '\x7d'] before = .ok first middle →
      Spans middle [','] after → after.rest.head? ≠ some '\x7d' →
      Calls ⟨.braced, depth, before⟩ ⟨.number, depth, after⟩
  | group {depth : Nat} {before after : Cursor} :
      depth < maxNesting → Spans before ['('] after →
      Calls ⟨.atom, depth, before⟩ ⟨.expression, depth + 1, after⟩
  | charClass {depth : Nat} {before after : Cursor} :
      Spans before ['['] after →
      Calls ⟨.atom, depth, before⟩ ⟨.charClass, depth, after⟩
  | escape {depth : Nat} {before after : Cursor} :
      Spans before ['\\'] after →
      Calls ⟨.atom, depth, before⟩ ⟨.escape, depth, after⟩
  | memberEscape {depth : Nat} {before member after : Cursor} :
      MemberAt before member → Spans member ['\\'] after →
      Calls ⟨.charClass, depth, before⟩ ⟨.escape, depth, after⟩
  /-- After the first character of a range and the minus sign. -/
  | rangeEscape {depth : Nat} {before member after : Cursor} {lo : Char}
      {first : List Char} :
      MemberAt before member → CharText lo first →
      Spans member (first ++ ['-', '\\']) after →
      Calls ⟨.charClass, depth, before⟩ ⟨.escape, depth, after⟩

/-- The call is made while the text is parsed. -/
def Called (text : List Char) : Call → Prop :=
  Relation.ReflTransGen Calls ⟨.expression, 0, ⟨text, 0⟩⟩

/-! ## What is read between two calls -/

theorem exists_spans_of_steps {α : Type} {step : Reading (Option α)}
    {piece : Grammar α} {stop : List Char → List Char → Prop}
    {holds : List Char → Prop} {before after : Cursor}
    (reads : Reads step (piece.orStop stop)) (nil : holds [])
    (append : ∀ head value tail rest,
      holds head → piece value tail rest → holds (head ++ tail))
    (steps : Steps step before after) :
    ∃ text, Spans before text after ∧ holds text := by
  induction steps with
  | refl => exact ⟨[], Spans.empty_iff.mpr rfl, nil⟩
  | tail _ moved ih =>
      obtain ⟨head, spans, holds⟩ := ih
      obtain ⟨value, read⟩ := moved
      obtain ⟨tail, tailSpans, isPiece⟩ := (reads _ _ _).mp read
      exact ⟨head ++ tail, spans.trans tailSpans,
        append _ _ _ _ holds isPiece⟩

theorem exists_neutral_of_alternatives {depth : Nat}
    {before after : Cursor}
    (steps : Steps (readNextAlternative (groupAt depth)) before after) :
    ∃ text, Spans before text after ∧ Neutral (maxNesting - depth) text := by
  refine exists_spans_of_steps
    (readNextAlternative_reads (groupReading_readGroup _)) .nil ?_ steps
  intro head branch tail rest neutral written
  obtain ⟨items, more, -, rfl, written, -⟩ := written
  exact neutral.append (Neutral.bar.append written.neutral)

theorem exists_neutral_of_items {depth : Nat} {before after : Cursor}
    (steps : Steps (readNextItem (groupAt depth)) before after) :
    ∃ text, Spans before text after ∧ Neutral (maxNesting - depth) text := by
  refine exists_spans_of_steps
    (readNextItem_reads (groupReading_readGroup _)) .nil ?_ steps
  intro head item tail rest neutral written
  exact neutral.append written.1.neutral

theorem exists_neutral_of_quantifiers (room : Nat) {before after : Cursor}
    (steps : Steps readQuantifier before after) :
    ∃ text, Spans before text after ∧ Neutral room text := by
  refine exists_spans_of_steps readQuantifier_reads .nil ?_ steps
  intro head quantifier tail rest neutral written
  rw [written]
  exact neutral.append (.of_inert quantifier.inert)

/-- An atom that is read where an item may start is one of the grammar. -/
theorem AtomReading.atomText {room : Nat} {atom : Expr}
    {text rest : List Char} (read : AtomReading room atom text)
    (starts : ¬ SequenceEnds (text ++ rest)) : AtomText room atom text := by
  cases read with
  | atom written => exact written
  | ending ending =>
      refine absurd ?_ starts
      intro c head
      cases head
      exact ending

theorem Neutral.walks {depth : Nat} {text : List Char}
    (neutral : Neutral (maxNesting - depth) text)
    (fits : depth ≤ maxNesting) :
    Walks maxNesting ⟨.outside, depth⟩ text ⟨.outside, depth⟩ := by
  apply neutral
  omega

/-- The text between the starts of two calls. -/
structure Leads (outer inner : Call) (text : List Char) : Prop where
  spans : Spans outer.cursor text inner.cursor
  rank : text = [] → inner.routine.rank < outer.routine.rank
  walks {place : Place} : outer.depth ≤ maxNesting →
    outer.routine.Starts place outer.cursor.rest →
    ∃ next, Walks maxNesting ⟨place, outer.depth⟩ text ⟨next, inner.depth⟩ ∧
      inner.routine.Starts next inner.cursor.rest

/-- A routine is called outside of classes where as many groups are open. -/
theorem Leads.of_neutral {outer inner : Routine} {depth : Nat}
    {before after : Cursor} {text : List Char}
    (spans : Spans before text after)
    (rank : text = [] → inner.rank < outer.rank)
    (walks : ∀ place, outer.Starts place before.rest →
      place = .outside ∧ Neutral (maxNesting - depth) text ∧
        inner.Starts .outside after.rest) :
    Leads ⟨outer, depth, before⟩ ⟨inner, depth, after⟩ text where
  spans := spans
  rank := rank
  walks {place} fits starts := by
    obtain ⟨rfl, neutral, inside⟩ := walks place starts
    exact ⟨.outside, neutral.walks fits, inside⟩

/-- Nothing is read before the call. -/
theorem Leads.here {outer inner : Routine} {depth : Nat} {before : Cursor}
    (lower : inner.rank < outer.rank)
    (starts : ∀ place, outer.Starts place before.rest →
      place = .outside ∧ inner.Starts .outside before.rest) :
    Leads ⟨outer, depth, before⟩ ⟨inner, depth, before⟩ [] := by
  refine .of_neutral (Spans.empty_iff.mpr rfl) (fun _ => lower) ?_
  intro place isStart
  obtain ⟨outside, begins⟩ := starts place isStart
  exact ⟨outside, .nil, begins⟩

/-- An atom that calls a routine reads one character before. -/
theorem Leads.of_atom {inner : Routine} {depth innerDepth : Nat}
    {before after : Cursor} {c : Char} {next : Place}
    (spans : Spans before [c] after)
    (bounded : depth ≤ maxNesting → innerDepth ≤ maxNesting)
    (step : Nesting.step ⟨.outside, depth⟩ c = ⟨next, innerDepth⟩)
    (starts : inner.Starts next after.rest) :
    Leads ⟨.atom, depth, before⟩ ⟨inner, innerDepth, after⟩ [c] where
  spans := spans
  rank none := by cases none
  walks fits outside := by
    obtain ⟨rfl, -⟩ := outside
    refine ⟨next, .cons fits ?_, starts⟩
    rw [step]
    exact .nil (bounded fits)

/-! ## Calls in a class -/

section

variable {before after : Cursor}

theorem AfterCaret.exists_walks (caret : AfterCaret before after) :
    ∃ text place, Spans before text after ∧
      (∀ {bound depth}, depth ≤ bound →
        Walks bound ⟨.classStart, depth⟩ text ⟨place, depth⟩) ∧
      ∀ head ∈ after.rest.head?, place.Starts head := by
  cases caret with
  | plain other =>
      refine ⟨[], .classStart, Spans.empty_iff.mpr rfl,
        fun inside => .nil inside, ?_⟩
      intro head shown same
      rw [same] at shown
      exact other shown
  | negated spans =>
      refine ⟨['^'], .classFirst, spans, ?_, fun _ _ => trivial⟩
      intro bound depth inside
      exact .cons inside (.nil inside)

theorem exists_walks_of_laterMembers
    (steps : Steps readLaterMember before after) :
    ∃ text, Spans before text after ∧ ∀ {bound depth}, depth ≤ bound →
      Walks bound ⟨.classLater, depth⟩ text ⟨.classLater, depth⟩ := by
  refine exists_spans_of_steps readLaterMember_reads
    (fun inside => .nil inside) ?_ steps
  intro head member tail rest walks written bound depth inside
  refine (walks inside).append (written.1.walks inside ?_)
  intro c shown bracket
  rw [bracket] at shown
  exact written.2 shown

/-- What comes before a member of a class, and what it may start with. -/
theorem MemberAt.exists_walks (member : MemberAt before after) :
    ∃ text place, Spans before text after ∧
      (∀ {bound depth}, depth ≤ bound →
        Walks bound ⟨.classStart, depth⟩ text ⟨place, depth⟩) ∧
      ∀ head ∈ after.rest.head?, place.Starts head := by
  cases member with
  | first caret => exact caret.exists_walks
  | later caret read steps other =>
      obtain ⟨start, place, startSpans, startWalks, starts⟩ :=
        caret.exists_walks
      obtain ⟨first, spans, written⟩ := (readFirstMember_reads _ _ _).mp read
      obtain ⟨others, otherSpans, walks⟩ := exists_walks_of_laterMembers steps
      have begins : ∀ head ∈ first.head?, place.Starts head :=
        fun head shown => starts head (spans.mem_head? shown)
      refine ⟨start ++ (first ++ others), .classLater,
        startSpans.trans (spans.trans otherSpans), ?_, ?_⟩
      · intro bound depth inside
        exact (startWalks inside).append
          ((written.walks inside begins).append (walks inside))
      · intro head shown bracket
        rw [bracket] at shown
        exact other shown

end

/-- An escape in a class comes after the text of a member's beginning. -/
theorem Leads.of_member {depth : Nat} {before member after : Cursor}
    {text : List Char} (isMember : MemberAt before member)
    (spans : Spans member text after) (consumed : text ≠ [])
    (walks : ∀ place, depth ≤ maxNesting →
      (∀ head ∈ member.rest.head?, place.Starts head) →
      Walks maxNesting ⟨place, depth⟩ text ⟨.classEscaped, depth⟩) :
    ∃ whole, Leads ⟨.charClass, depth, before⟩ ⟨.escape, depth, after⟩
      whole := by
  obtain ⟨head, place, headSpans, headWalks, starts⟩ :=
    isMember.exists_walks
  refine ⟨head ++ text, headSpans.trans spans, ?_, ?_⟩
  · intro none
    exact absurd (List.append_eq_nil_iff.mp none).2 consumed
  · intro start fits isStart
    cases isStart
    exact ⟨.classEscaped, (headWalks fits).append (walks place fits starts),
      .inr rfl⟩

theorem exists_leads_of_memberEscape {depth : Nat}
    {before member after : Cursor} (isMember : MemberAt before member)
    (backslash : Spans member ['\\'] after) :
    ∃ text, Leads ⟨.charClass, depth, before⟩ ⟨.escape, depth, after⟩
      text := by
  refine Leads.of_member isMember backslash (by simp) ?_
  intro place fits starts
  refine .cons fits ?_
  rw [step_backslash_of_starts (starts '\\' (backslash.mem_head? rfl))]
  exact .nil fits

theorem exists_leads_of_rangeEscape {depth : Nat}
    {before member after : Cursor} {lo : Char} {first : List Char}
    (isMember : MemberAt before member) (written : CharText lo first)
    (spans : Spans member (first ++ ['-', '\\']) after) :
    ∃ text, Leads ⟨.charClass, depth, before⟩ ⟨.escape, depth, after⟩
      text := by
  refine Leads.of_member isMember spans (by simp) ?_
  intro place fits starts
  obtain ⟨minus, firstSpans, -, -⟩ := spans.split
  have escaped : Walks maxNesting ⟨.classLater, depth⟩ ['-', '\\']
      ⟨.classEscaped, depth⟩ := .cons fits (.cons fits (.nil fits))
  exact (written.walks fits fun head shown =>
    starts head (firstSpans.mem_head? shown)).append escaped

/-! ## Chains of calls -/

theorem Calls.exists_leads {outer inner : Call}
    (calls : Calls outer inner) : ∃ text, Leads outer inner text := by
  cases calls with
  | firstSequence =>
      exact ⟨[], .here (by decide) fun place starts => ⟨starts, rfl⟩⟩
  | nextSequence read steps bar =>
      obtain ⟨first, firstSpans, items, -, written, -⟩ :=
        (readSequence_reads (groupReading_readGroup _) _ _ _).mp read
      obtain ⟨others, otherSpans, neutral⟩ :=
        exists_neutral_of_alternatives steps
      refine ⟨first ++ (others ++ ['|']), .of_neutral
        (firstSpans.trans (otherSpans.trans bar)) (by simp) ?_⟩
      exact fun place starts =>
        ⟨starts, written.neutral.append (neutral.append .bar), rfl⟩
  | item steps other =>
      obtain ⟨text, spans, neutral⟩ := exists_neutral_of_items steps
      refine ⟨text, .of_neutral spans ?_ ?_⟩
      · intro _
        decide
      · exact fun place starts => ⟨starts, neutral, rfl, other⟩
  | atom =>
      exact ⟨[], .here (by decide) fun place starts =>
        ⟨starts.1, rfl, starts.2⟩⟩
  | @braced depth before middle last after atom read steps brace =>
      obtain ⟨first, firstSpans, isAtom⟩ :=
        (readAtom_reads (groupReading_readGroup _) _ _ _).mp read
      obtain ⟨others, otherSpans, neutral⟩ :=
        exists_neutral_of_quantifiers (maxNesting - depth) steps
      have opening : Neutral (maxNesting - depth) ['\x7b'] :=
        .of_inert (by simp [Inert])
      refine ⟨first ++ (others ++ ['\x7b']), .of_neutral
        (firstSpans.trans (otherSpans.trans brace)) (by simp) ?_⟩
      -- A parenthesis that is read as an atom would close a group, but no
      -- item starts with one.
      intro place starts
      obtain ⟨outside, starts⟩ := starts
      rw [firstSpans.rest] at starts
      exact ⟨outside,
        (isAtom.atomText starts).neutral.append (neutral.append opening), rfl⟩
  | firstNumber _ =>
      exact ⟨[], .here (by decide) fun place starts => ⟨starts, rfl⟩⟩
  | @secondNumber depth before middle after bound read comma other =>
      obtain ⟨first, firstSpans, written, -⟩ :=
        (readBound_reads (by simp) _ _ _).mp read
      have separator : Neutral (maxNesting - depth) [','] :=
        .of_inert (by simp [Inert])
      have digits : Neutral (maxNesting - depth) first := by
        rw [written]
        cases bound with
        | none => exact .nil
        | some numeral => exact .of_inert numeral.inert
      refine ⟨first ++ [','], .of_neutral (firstSpans.trans comma)
        (by simp) ?_⟩
      exact fun place starts => ⟨starts, digits.append separator, rfl⟩
  | group room opening =>
      exact ⟨['('], .of_atom opening (fun _ => room) rfl rfl⟩
  | charClass opening => exact ⟨['['], .of_atom opening id rfl rfl⟩
  | escape backslash =>
      exact ⟨['\\'], .of_atom backslash id rfl (Or.inl rfl)⟩
  | memberEscape member backslash =>
      exact exists_leads_of_memberEscape member backslash
  | rangeEscape member written spans =>
      exact exists_leads_of_rangeEscape member written spans

/-- A character that is read counts for more than any rank. -/
def Call.weight (call : Call) : Nat :=
  4 * call.cursor.rest.length + call.routine.rank

theorem Calls.weight_lt {outer inner : Call} (calls : Calls outer inner) :
    inner.weight < outer.weight := by
  obtain ⟨text, leads⟩ := calls.exists_leads
  have unread : outer.cursor.rest.length =
      text.length + inner.cursor.rest.length := by
    rw [leads.spans.rest, List.length_append]
  have low := inner.routine.rank_lt
  unfold Call.weight
  by_cases same : text = []
  · have lower := leads.rank same
    rw [same, List.length_nil] at unread
    omega
  · have positive := List.length_pos_iff.mpr same
    omega

/-- No chain of calls goes on forever. -/
theorem calls_wellFounded :
    WellFounded fun inner outer => Calls outer inner :=
  Subrelation.wf Calls.weight_lt (measure Call.weight).wf

/-! ## No other groups -/

/-- The reading is the one of a group wherever an atom opens one that is called
from this call on. -/
def SameGroups (depth : Nat) (other : Reading Expr) (call : Call) : Prop :=
  ∀ before after, Relation.ReflTransGen Calls call ⟨.atom, depth, before⟩ →
    Spans before ['('] after → other after = groupAt depth after

theorem bind_congr_left {α β : Type} {reading other : Reading α}
    {next : α → Reading β} {before : Cursor}
    (same : other before = reading before) :
    (other >>= next) before = (reading >>= next) before := by
  simp only [Bind.bind, EStateM.bind, same]

theorem bind_congr_right {α β : Type} {reading : Reading α}
    {next other : α → Reading β} {before : Cursor}
    (same : ∀ value after, reading before = .ok value after →
      other value after = next value after) :
    (reading >>= other) before = (reading >>= next) before := by
  simp only [Bind.bind, EStateM.bind]
  cases ran : reading before with
  | ok value after => exact same value after ran
  | error error after => rfl

theorem collect_congr {α : Type} {step other : Reading (Option α)}
    {before : Cursor}
    (same : ∀ after, Steps step before after → other after = step after) :
    collect other before = collect step before := by
  fun_induction collect step before with
  | case1 before error after failed => rw [collect, same _ .refl, failed]
  | case2 before after stopped => rw [collect, same _ .refl, stopped]
  | case3 before value middle read shorter error last failed ih =>
      have others := ih fun after steps => same after (.head ⟨_, read⟩ steps)
      rw [collect, same _ .refl, read]
      simp only [shorter, if_true, others, failed]
  | case4 before value middle read shorter values last more ih =>
      have others := ih fun after steps => same after (.head ⟨_, read⟩ steps)
      rw [collect, same _ .refl, read]
      simp only [shorter, if_true, others, more]
  | case5 before value middle read longer =>
      rw [collect, same _ .refl, read]
      simp only [longer, if_false]

section

variable {depth : Nat} {other : Reading Expr} {before : Cursor}

theorem SameGroups.of_calls {outer inner : Call}
    (same : SameGroups depth other outer) (calls : Calls outer inner) :
    SameGroups depth other inner :=
  fun before after called => same before after (.head calls called)

theorem readAtom_congr (same : SameGroups depth other ⟨.atom, depth, before⟩) :
    readAtom other before = readAtom (groupAt depth) before := by
  apply bind_congr_right
  intro shown after ran
  obtain ⟨text, spans, rfl, -⟩ := (next_reads _ _ _).mp ran
  split
  · rfl
  · exact bind_congr_left (same _ _ .refl spans)
  all_goals rfl

theorem readItem_congr (same : SameGroups depth other ⟨.item, depth, before⟩) :
    readItem other before = readItem (groupAt depth) before :=
  bind_congr_left (readAtom_congr (same.of_calls .atom))

theorem readSequence_congr
    (same : SameGroups depth other ⟨.sequence, depth, before⟩) :
    readSequence other before = readSequence (groupAt depth) before := by
  refine bind_congr_left (collect_congr fun last steps => ?_)
  apply bind_congr_right
  intro shown after ran
  obtain ⟨text, spans, rfl, head⟩ := (peek_reads _ _ _).mp ran
  have here := Spans.empty_iff.mp spans
  subst here
  split
  · rfl
  · rfl
  · rfl
  next c noBar noClosing =>
    refine bind_congr_left (readItem_congr (same.of_calls (.item steps ?_)))
    intro ends
    rcases ends c head with bar | closing
    · exact noBar bar
    · exact noClosing closing

theorem readAlternatives_congr
    (same : SameGroups depth other ⟨.expression, depth, before⟩) :
    readAlternatives other before = readExpr (maxNesting - depth) before := by
  rw [readExpr_eq]
  have first := readSequence_congr (same.of_calls .firstSequence)
  refine (bind_congr_left first).trans (bind_congr_right ?_)
  intro expr middle ran
  refine bind_congr_left (collect_congr fun last steps => ?_)
  apply bind_congr_right
  intro shown after read
  by_cases bar : (shown == some '|') = true
  · simp only [bar, if_true]
    apply bind_congr_right
    intro _ start expected
    obtain ⟨text, spans, rfl⟩ := (expect_reads '|' _ _ _).mp expected
    obtain ⟨_, here, rfl, -⟩ := (peek_reads _ _ _).mp read
    rw [← Spans.empty_iff.mp here] at spans
    exact bind_congr_left
      (readSequence_congr (same.of_calls (.nextSequence ran steps spans)))
  · simp only [bar]
    rfl

end

end Dialect

end TextPattern
