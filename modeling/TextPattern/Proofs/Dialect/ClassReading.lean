import TextPattern.Dialect.Class
import TextPattern.Proofs.Dialect.Grammar
import TextPattern.Proofs.Dialect.Reads

/-!
# Reading a class follows the grammar

A class is read if and only if it is written as the grammar says, whatever
comes after its closing bracket.
-/

namespace TextPattern

namespace Dialect

open Reading

theorem readEscaped_reads :
    Reads readEscaped fun c text _ => text = [c] := by
  apply Reads.afterNext (fun actual c text _ =>
    c = actual ∧ text = []) rfl
  · exact fun actual => .pure fun _ _ _ => Iff.rfl
  · intro c text rest
    constructor
    · rintro rfl
      exact ⟨c, [], rfl, rfl, rfl⟩
    · intro holds
      obtain ⟨_, _, rfl, rfl, rfl⟩ := holds
      rfl

/-! ## Members -/

theorem atRange_eq_true_iff {text : List Char} :
    atRange text = true ↔ ∃ c more, text = '-' :: c :: more ∧ c ≠ ']' := by
  unfold atRange
  split
  next c more => simp
  next other =>
    constructor
    · intro impossible
      cases impossible
    · intro holds
      obtain ⟨c, more, same, -⟩ := holds
      exact absurd same (other c more)

theorem not_atRange_iff {text : List Char} :
    ¬ atRange text = true ↔ NoRange text := by
  rw [atRange_eq_true_iff]
  constructor
  · intro none c more same
    apply Decidable.byContradiction
    intro other
    exact none ⟨c, more, same, other⟩
  · rintro noRange ⟨c, more, same, other⟩
    exact other (noRange c more same)

theorem CharText.head_ne_bracket {c : Char} {text : List Char}
    (written : CharText c text) (other : text ≠ [']']) :
    ∃ head more, text = head :: more ∧ head ≠ ']' := by
  cases written with
  | plain _ =>
      refine ⟨c, [], rfl, fun same => other ?_⟩
      rw [same]
  | escaped _ => exact ⟨'\\', _, rfl, by decide⟩

theorem readRangeEnd_reads (lo : Char) :
    Reads (readRangeEnd lo) fun member text _ =>
      ∃ hi, member = .range lo hi ∧ CharText hi text := by
  apply Reads.afterNext (fun actual member text _ =>
    ∃ hi, member = .range lo hi ∧ CharText hi (actual :: text)) rfl
  · intro actual
    by_cases escape : actual = '\\'
    · simp only [escape, if_true]
      apply readEscaped_reads.bind
        (fun written member text _ => text = [] ∧
          ∃ hi, member = .range lo hi ∧ Escape.ofChar written = .char hi)
      · intro written
        cases Escape.ofChar written with
        | shorthand members => exact .throw (by simp)
        | char hi =>
            refine .pure fun member text _ => ?_
            simp [and_comm]
      · intro member text rest
        constructor
        · intro holds
          obtain ⟨hi, rfl, written⟩ := holds
          cases written with
          | plain other => exact absurd rfl other
          | escaped escaped =>
              exact ⟨_, [_], [], rfl, rfl, rfl, hi, rfl, escaped⟩
        · intro holds
          obtain ⟨_, _, _, rfl, rfl, rfl, hi, rfl, escaped⟩ := holds
          exact ⟨hi, rfl, .escaped escaped⟩
    · simp only [if_neg escape]
      refine .pure fun member text _ => ?_
      constructor
      · intro holds
        obtain ⟨hi, rfl, written⟩ := holds
        cases written with
        | plain _ => exact ⟨rfl, rfl⟩
        | escaped _ => exact absurd rfl escape
      · intro holds
        obtain ⟨rfl, rfl⟩ := holds
        exact ⟨actual, rfl, .plain escape⟩
  · intro member text rest
    constructor
    · intro holds
      obtain ⟨hi, rfl, written⟩ := holds
      cases written with
      | plain other => exact ⟨hi, [], rfl, hi, rfl, .plain other⟩
      | escaped escaped =>
          exact ⟨'\\', [_], rfl, hi, rfl, .escaped escaped⟩
    · intro holds
      obtain ⟨_, _, rfl, hi, rfl, written⟩ := holds
      exact ⟨hi, rfl, written⟩

/-- What comes after the first character of a member. -/
inductive RangeText (lo : Char) : Grammar Member where
  | single {rest : List Char} :
      NoRange rest → RangeText lo (.single lo) [] rest
  | range {hi : Char} {last rest : List Char} :
      CharText hi last → last ≠ [']'] →
      RangeText lo (.range lo hi) ('-' :: last) rest

theorem readRangeFrom_reads (lo : Char) :
    Reads (readRangeFrom lo) (RangeText lo) := by
  apply Reads.afterUnread (fun shown member text _ =>
    if atRange shown = true then
      ∃ last, text = '-' :: last ∧
        ∃ hi, member = .range lo hi ∧ CharText hi last
    else member = .single lo ∧ text = [])
  · intro shown
    by_cases range : atRange shown = true
    · simp only [range, if_true]
      exact (readRangeEnd_reads lo).afterExpect fun _ _ _ => Iff.rfl
    · simp only [range]
      exact .pure fun _ _ _ => Iff.rfl
  · intro member text rest
    constructor
    · intro written
      cases written with
      | single noRange =>
          rw [List.nil_append, if_neg (not_atRange_iff.mpr noRange)]
          exact ⟨rfl, rfl⟩
      | @range hi last _ written other =>
          obtain ⟨head, more, rfl, inside⟩ := written.head_ne_bracket other
          have range : atRange ('-' :: head :: more ++ rest) = true :=
            atRange_eq_true_iff.mpr ⟨head, more ++ rest, rfl, inside⟩
          rw [if_pos range]
          exact ⟨_, rfl, hi, rfl, written⟩
    · split
      next range =>
        intro holds
        obtain ⟨last, rfl, hi, rfl, written⟩ := holds
        refine .range written fun bracket => ?_
        obtain ⟨c, more, same, other⟩ := atRange_eq_true_iff.mp range
        rw [bracket] at same
        cases same
        exact other rfl
      next none =>
        intro holds
        obtain ⟨rfl, rfl⟩ := holds
        exact .single (not_atRange_iff.mp none)

/-- A member is a character and what follows it, or a shorthand. -/
theorem memberText_iff {member : Member} {text rest : List Char} :
    MemberText member text rest ↔
      (∃ lo first tail, text = first ++ tail ∧ CharText lo first ∧
        RangeText lo member tail rest) ∨
      ∃ written members, text = ['\\', written] ∧
        member = .shorthand members ∧
        Escape.ofChar written = .shorthand members := by
  constructor
  · intro written
    cases written with
    | @single c _ _ written noRange =>
        exact .inl ⟨c, text, [], (List.append_nil text).symm, written,
          .single noRange⟩
    | range first last other =>
        exact .inl ⟨_, _, _, rfl, first, .range last other⟩
    | shorthand escaped => exact .inr ⟨_, _, rfl, rfl, escaped⟩
  · intro holds
    rcases holds with ⟨lo, first, tail, rfl, written, follows⟩ | ⟨written,
      members, rfl, rfl, escaped⟩
    · cases follows with
      | single noRange =>
          rw [List.append_nil]
          exact .single written noRange
      | range last other => exact .range written last other
    · exact .shorthand escaped

theorem readMemberFrom_reads (c : Char) :
    Reads (readMemberFrom c) fun member text rest =>
      MemberText member (c :: text) rest := by
  unfold readMemberFrom
  by_cases escape : c = '\\'
  · simp only [escape, if_true]
    apply readEscaped_reads.bind
      (fun written member text rest =>
        (∃ lo, Escape.ofChar written = .char lo ∧
          RangeText lo member text rest) ∨
        ∃ members, text = [] ∧ member = .shorthand members ∧
          Escape.ofChar written = .shorthand members)
    · intro written
      cases Escape.ofChar written with
      | char lo =>
          refine (readRangeFrom_reads lo).congr ?_
          simp
      | shorthand members =>
          refine .pure ?_
          simp [and_comm]
    · intro member text rest
      rw [memberText_iff]
      constructor
      · intro holds
        rcases holds with ⟨lo, first, tail, shown, written, follows⟩ |
          ⟨written, members, shown, rfl, escaped⟩
        · cases written with
          | plain other =>
              cases shown
              exact absurd rfl other
          | @escaped written _ escaped =>
              cases shown
              exact ⟨written, [written], tail, rfl, rfl,
                .inl ⟨lo, escaped, follows⟩⟩
        · cases shown
          exact ⟨written, [written], [], rfl, rfl,
            .inr ⟨members, rfl, rfl, escaped⟩⟩
      · intro holds
        rcases holds with ⟨written, _, tail, rfl, rfl, ⟨lo, escaped,
          follows⟩ | ⟨members, rfl, rfl, escaped⟩⟩
        · exact .inl ⟨lo, ['\\', written], tail, rfl, .escaped escaped,
            follows⟩
        · exact .inr ⟨written, members, rfl, rfl, escaped⟩
  · simp only [if_neg escape]
    refine (readRangeFrom_reads c).congr fun member text rest => ?_
    rw [memberText_iff]
    constructor
    · intro follows
      exact .inl ⟨c, [c], text, rfl, .plain escape, follows⟩
    · intro holds
      rcases holds with ⟨lo, first, tail, shown, written, follows⟩ |
        ⟨written, members, shown, rfl, escaped⟩
      · cases written with
        | plain _ =>
            cases shown
            exact follows
        | escaped _ =>
            cases shown
            exact absurd rfl escape
      · cases shown
        exact absurd rfl escape

/-- A member starts with a character. -/
theorem MemberText.exists_cons {member : Member} {text rest : List Char}
    (written : MemberText member text rest) :
    ∃ head more, text = head :: more := by
  cases written with
  | single written _ => cases written <;> exact ⟨_, _, rfl⟩
  | range first _ _ => cases first <;> exact ⟨_, _, rfl⟩
  | shorthand _ => exact ⟨_, _, rfl⟩

theorem readFirstMember_reads : Reads readFirstMember MemberText := by
  refine .afterNext _ rfl readMemberFrom_reads fun member text rest => ?_
  constructor
  · intro written
    obtain ⟨head, more, rfl⟩ := written.exists_cons
    exact ⟨head, more, rfl, written⟩
  · intro holds
    obtain ⟨head, more, rfl, written⟩ := holds
    exact written

/-- A later member does not start with the closing bracket. -/
def LaterText : Grammar Member := fun member text rest =>
  MemberText member text rest ∧ text.head? ≠ some ']'

theorem LaterText.ne_nil {member : Member} {text rest : List Char}
    (written : LaterText member text rest) : text ≠ [] := by
  obtain ⟨head, more, rfl⟩ := written.1.exists_cons
  exact List.cons_ne_nil head more

theorem readLaterMember_reads :
    Reads readLaterMember
      (LaterText.orStop fun text _ => text = [']']) := by
  apply Reads.afterNext (fun c found text rest =>
    (c = ']' ∧ found = none ∧ text = []) ∨
    c ≠ ']' ∧ ∃ member, found = some member ∧
      MemberText member (c :: text) rest) rfl
  · intro c
    split
    next none => cases none
    next closes =>
      cases closes
      exact .pure (by simp)
    next shown other same =>
      cases same
      refine Reads.map (readMemberFrom_reads c) fun found text rest => ?_
      simp [show c ≠ ']' from other]
  · intro found text rest
    cases found with
    | none => simp [Grammar.orStop]
    | some member =>
        simp only [Grammar.orStop, LaterText]
        constructor
        · intro holds
          obtain ⟨written, other⟩ := holds
          obtain ⟨head, more, rfl⟩ := written.exists_cons
          refine ⟨head, more, rfl, .inr ⟨fun same => other ?_, _, rfl,
            written⟩⟩
          rw [same]
          rfl
        · intro holds
          rcases holds with ⟨head, more, rfl, ⟨_, none, _⟩ | ⟨other, _,
            same, written⟩⟩
          · cases none
          · cases same
            exact ⟨written, by simpa using other⟩

/-! ## Classes -/

theorem MemberText.congr {member : Member} {text left right : List Char}
    (same : NoRange left ↔ NoRange right) :
    MemberText member text left ↔ MemberText member text right := by
  constructor
  · intro written
    cases written with
    | single written noRange => exact .single written (same.mp noRange)
    | range first last other => exact .range first last other
    | shorthand escaped => exact .shorthand escaped
  · intro written
    cases written with
    | single written noRange => exact .single written (same.mpr noRange)
    | range first last other => exact .range first last other
    | shorthand escaped => exact .shorthand escaped

/-- Whether a range goes on is settled before the class ends. -/
theorem MembersText.noRange_append {members : List Member}
    {more : List Char} (written : MembersText members more)
    (rest : List Char) : NoRange (more ++ rest) ↔ NoRange more := by
  have settled : more = [']'] ∨ ∃ a b tail, more = a :: b :: tail := by
    cases written with
    | close => exact .inl rfl
    | cons first _ later =>
        obtain ⟨a, text, rfl⟩ := first.exists_cons
        cases text with
        | cons b text => exact .inr ⟨a, b, _, rfl⟩
        | nil =>
            cases later with
            | close => exact .inr ⟨a, _, _, rfl⟩
            | cons second _ _ =>
                obtain ⟨b, tail, rfl⟩ := second.exists_cons
                exact .inr ⟨a, b, _, rfl⟩
  rcases settled with rfl | ⟨a, b, tail, rfl⟩
  · simp [NoRange]
  · simp [NoRange]

theorem collected_later_iff {members : List Member}
    {text rest : List Char} :
    Collected LaterText (fun text _ => text = [']']) members text rest ↔
      MembersText members text := by
  constructor
  · intro collected
    induction collected with
    | nil closed =>
        rw [closed]
        exact .close
    | cons piece _ ih =>
        have inside := (MemberText.congr (ih.noRange_append _)).mp piece.1
        exact .cons inside piece.2 ih
  · intro written
    induction written with
    | close => exact .nil rfl
    | cons member other later ih =>
        exact .cons ⟨(MemberText.congr (later.noRange_append rest)).mpr
          member, other⟩ ih

theorem readMembers_reads (negated : Bool) :
    Reads (readMembers negated) fun cls text _ =>
      ∃ member members first more,
        cls = ⟨negated, member :: members⟩ ∧ text = first ++ more ∧
        MemberText member first more ∧ MembersText members more := by
  have later : Reads (collect readLaterMember) fun members text _ =>
      MembersText members text :=
    (collect_reads readLaterMember_reads LaterText.ne_nil).congr
      fun _ _ _ => collected_later_iff
  apply readFirstMember_reads.bind
    (fun member cls text _ => ∃ members,
      cls = ⟨negated, member :: members⟩ ∧ MembersText members text)
  · exact fun member => later.map fun _ _ _ => Iff.rfl
  · intro cls text rest
    constructor
    · intro holds
      obtain ⟨member, members, first, more, rfl, rfl, written,
        others⟩ := holds
      exact ⟨member, first, more, rfl,
        (MemberText.congr (others.noRange_append rest)).mpr written,
        members, rfl, others⟩
    · intro holds
      obtain ⟨member, first, more, rfl, written, members, rfl,
        others⟩ := holds
      exact ⟨member, members, first, more, rfl, rfl,
        (MemberText.congr (others.noRange_append rest)).mp written, others⟩

/-- A class is read where it is written, whatever follows. -/
theorem readClass_reads :
    Reads readClass fun cls text _ => ClassText cls text := by
  apply Reads.afterPeek (fun shown cls text _ =>
    if (shown == some '^') = true then
      ∃ tail, text = '^' :: tail ∧ ∃ member members first more,
        cls = ⟨true, member :: members⟩ ∧ tail = first ++ more ∧
        MemberText member first more ∧ MembersText members more
    else ∃ member members first more,
        cls = ⟨false, member :: members⟩ ∧ text = first ++ more ∧
        MemberText member first more ∧ MembersText members more)
  · intro shown
    by_cases caret : (shown == some '^') = true
    · simp only [caret, if_true]
      exact (readMembers_reads true).afterExpect fun _ _ _ => Iff.rfl
    · simp only [caret]
      exact readMembers_reads false
  · intro cls text rest
    constructor
    · intro written
      cases written with
      | plain member other members =>
          obtain ⟨head, tail, rfl⟩ := member.exists_cons
          rw [if_neg (by simpa using other)]
          exact ⟨_, _, _, _, rfl, rfl, member, members⟩
      | negated member members =>
          rw [if_pos (by simp)]
          exact ⟨_, rfl, _, _, _, _, rfl, rfl, member, members⟩
    · split
      next caret =>
        intro holds
        obtain ⟨_, rfl, member, members, first, more, rfl, rfl, written,
          others⟩ := holds
        exact .negated written others
      next plain =>
        intro holds
        obtain ⟨member, members, first, more, rfl, rfl, written,
          others⟩ := holds
        refine .plain written (fun caret => plain ?_) others
        obtain ⟨head, tail, rfl⟩ := written.exists_cons
        simpa using caret

end Dialect

end TextPattern
