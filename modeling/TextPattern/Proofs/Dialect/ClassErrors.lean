import TextPattern.Proofs.Dialect.ClassReading
import TextPattern.Proofs.Dialect.Fails

/-!
# How classes fail

A class fails at a backslash that ends the text, at a shorthand that stands as
the last character of a range, or at the end of the text, and in the last case
a closing bracket completes it.
-/

namespace TextPattern

namespace Dialect

open Reading

/-! ## Members -/

theorem readEscaped_fails :
    Fails readEscaped fun error text rest =>
      error = .unexpectedEnd ∧ text = [] ∧ rest = [] := by
  apply Fails.afterNext (fun _ _ _ _ => False) rfl
  · intro c
    exact .pure
  · exact ⟨rfl, rfl, rfl⟩
  · intro c error tail rest impossible
    exact impossible.elim

/-- The fault of a member: the text ends after a backslash, or the last
character of a range is a shorthand. -/
inductive MemberFault : Fault where
  | ended {text : List Char} : MemberFault .unexpectedEnd text []
  | shorthand {text rest : List Char} {letter : Char} :
      MemberFault (.unexpectedChar '\\') (text ++ ['\\', letter]) rest

namespace MemberFault

variable {error : Error} {text rest : List Char}

theorem append (fault : MemberFault error text rest) (head : List Char) :
    MemberFault error (head ++ text) rest := by
  cases fault with
  | ended => exact .ended
  | shorthand =>
      rw [← List.append_assoc]
      exact .shorthand

theorem located (fault : MemberFault error text rest) :
    Located error text rest := by
  cases fault with
  | ended => exact rfl
  | @shorthand before _ letter =>
      exact .inr ⟨rfl, letter, List.suffix_append before _⟩

theorem not_unclosed (fault : MemberFault error text rest) :
    ¬ error.Unclosed := by
  cases fault <;> exact id

end MemberFault

/-- The fault of the last character of a range.  A range is only read where
there is such a character, so the first case does not arise there. -/
def RangeEndFault : Fault := fun error text rest =>
  text ++ rest = [] ∨
    ∃ more, text = '\\' :: more ∧ MemberFault error text rest

theorem readRangeEnd_fails (lo : Char) :
    Fails (readRangeEnd lo) RangeEndFault := by
  apply Fails.afterNext (fun c error text rest =>
    c = '\\' ∧ MemberFault error (c :: text) rest) rfl
  · intro c
    by_cases escape : c = '\\'
    · simp only [escape, if_true]
      apply Fails.bindNextOnly readEscaped_reads (fun _ _ _ _ _ same => same)
        readEscaped_fails (fun _ error text _ =>
          error = .unexpectedChar '\\' ∧ text = [])
      · intro written
        cases Escape.ofChar written with
        | char hi => exact .pure
        | shorthand members => exact .throw fun _ => ⟨rfl, rfl⟩
      · intro error text rest holds
        obtain ⟨rfl, rfl, rfl⟩ := holds
        exact ⟨trivial, .ended⟩
      · intro written text error tail rest shown holds
        obtain ⟨rfl, rfl⟩ := holds
        rw [shown]
        exact ⟨trivial, @MemberFault.shorthand [] rest written⟩
    · simp only [if_neg escape]
      exact .pure
  · exact .inl rfl
  · intro c error tail rest holds
    obtain ⟨rfl, fault⟩ := holds
    exact .inr ⟨tail, rfl, fault⟩

/-- Where a range goes on, the minus sign and the character after it are
there. -/
theorem exists_range_fault {error : Error} {text rest : List Char}
    (range : atRange (text ++ rest) = true)
    (fault : ExpectFault '-' error text rest ∨
      ∃ tail, text = '-' :: tail ∧ RangeEndFault error tail rest) :
    ∃ more, text = '-' :: '\\' :: more ∧ MemberFault error text rest := by
  obtain ⟨c, more, shown, -⟩ := atRange_eq_true_iff.mp range
  rcases fault with missing | ⟨tail, rfl, absent | ⟨more, rfl, fault⟩⟩
  · cases missing with
    | ended => cases shown
    | different other =>
        cases shown
        exact absurd rfl other
  · rw [List.cons_append, absent] at shown
    cases shown
  · exact ⟨more, rfl, fault.append ['-']⟩

theorem readRangeFrom_fails (lo : Char) :
    Fails (readRangeFrom lo) MemberFault := by
  apply Fails.afterUnread (fun shown error text rest =>
    atRange shown = true ∧ (ExpectFault '-' error text rest ∨
      ∃ tail, text = '-' :: tail ∧ RangeEndFault error tail rest))
  · intro shown
    by_cases range : atRange shown = true
    · simp only [range, if_true, true_and]
      apply (readRangeEnd_fails lo).afterExpect
      · intro error text rest missing
        exact .inl missing
      · intro error tail rest fault
        exact .inr ⟨tail, rfl, fault⟩
    · simp only [range]
      exact .pure
  · intro error text rest other holds _
    obtain ⟨range, fault⟩ := holds
    obtain ⟨more, rfl, -⟩ := exists_range_fault range fault
    -- The fault shows both characters that decide about the range.
    rfl
  · intro error text rest holds
    obtain ⟨range, fault⟩ := holds
    obtain ⟨-, -, found⟩ := exists_range_fault range fault
    exact found

theorem readMemberFrom_fails (c : Char) :
    Fails (readMemberFrom c) MemberFault := by
  unfold readMemberFrom
  by_cases escape : c = '\\'
  · simp only [escape, if_true]
    apply Fails.bindNextOnly readEscaped_reads (fun _ _ _ _ _ same => same)
      readEscaped_fails (fun _ => MemberFault)
    · intro written
      cases Escape.ofChar written with
      | char lo => exact readRangeFrom_fails lo
      | shorthand members => exact .pure
    · intro error text rest holds
      obtain ⟨rfl, rfl, rfl⟩ := holds
      exact .ended
    · intro written text error tail rest _ fault
      exact fault.append text
  · simp only [if_neg escape]
    exact readRangeFrom_fails c

/-- The fault where a member has to come: the text ends there, or it is the
fault of the member. -/
inductive NextMemberFault : Fault where
  | ended : NextMemberFault .unclosedClass [] []
  | member {error : Error} {c : Char} {text rest : List Char} :
      MemberFault error text rest → NextMemberFault error (c :: text) rest

theorem readFirstMember_fails :
    Fails readFirstMember NextMemberFault := by
  apply Fails.afterNext (fun _ => MemberFault) rfl readMemberFrom_fails
  · exact .ended
  · intro c error tail rest fault
    exact .member fault

theorem readLaterMember_fails :
    Fails readLaterMember NextMemberFault := by
  apply Fails.afterNext (fun _ => MemberFault) rfl
  · intro c
    split
    next none => cases none
    next closes => exact .pure
    next shown other same =>
      cases same
      exact (readMemberFrom_fails c).map
  · exact .ended
  · intro c error tail rest fault
    exact .member fault

namespace NextMemberFault

variable {error : Error} {text rest : List Char}

theorem located (fault : NextMemberFault error text rest) :
    Located error text rest := by
  cases fault with
  | ended => exact rfl
  | @member _ c _ _ fault => exact (fault.append [c]).located

theorem rest_eq_nil (fault : NextMemberFault error [] rest) : rest = [] := by
  cases fault
  rfl

theorem eq_nil_of_unclosed (fault : NextMemberFault error text rest)
    (unclosed : error.Unclosed) : text = [] := by
  cases fault with
  | ended => rfl
  | member fault => exact absurd unclosed fault.not_unclosed

end NextMemberFault

/-! ## Several members -/

/-- Two characters settle whether a range goes on.  One of them may be the next
one after the text. -/
theorem NoRange.append_iff {text rest other : List Char}
    (ended : text = [] → rest = []) (same : other.head? = rest.head?) :
    NoRange (text ++ other) ↔ NoRange (text ++ rest) := by
  match text with
  | [] =>
      rw [ended rfl] at same ⊢
      rw [List.head?_eq_none_iff.mp same]
  | [c] =>
      cases rest with
      | nil => rw [List.head?_eq_none_iff.mp same]
      | cons d rest =>
          obtain ⟨more, rfl⟩ := List.head?_eq_some_iff.mp same
          simp [NoRange]
  | c :: d :: text => simp [NoRange]

theorem NoRange.append_bracket {text : List Char} (noRange : NoRange text) :
    NoRange (text ++ [']']) := by
  match text with
  | [] => simp [NoRange]
  | [c] =>
      intro d more shown
      cases shown
      rfl
  | c :: d :: text => simpa [NoRange] using noRange

section

variable {error : Error} {members : List Member} {text rest : List Char}

theorem rest_eq_nil_of_collected
    (collected : Collected LaterText (NextMemberFault error) members text
      rest)
    (empty : text = []) : rest = [] := by
  cases collected with
  | nil fault =>
      rw [empty] at fault
      exact fault.rest_eq_nil
  | cons piece _ =>
      obtain ⟨head, more, rfl⟩ := piece.1.exists_cons
      cases empty

/-- The members before a fault are read whatever comes after it. -/
theorem MemberText.steady {member : Member} {more other : List Char}
    (written : MemberText member text (more ++ rest))
    (collected : Collected LaterText (NextMemberFault error) members more
      rest)
    (same : other.head? = rest.head?) :
    MemberText member text (more ++ other) := by
  have settled : NoRange (more ++ other) ↔ NoRange (more ++ rest) :=
    NoRange.append_iff (rest_eq_nil_of_collected collected) same
  exact (MemberText.congr settled).mpr written

/-- Members are followed by a closing bracket if nothing follows them. -/
theorem MemberText.close {member : Member}
    (written : MemberText member text rest) :
    MemberText member text (rest ++ [']']) := by
  cases written with
  | single written noRange => exact .single written noRange.append_bracket
  | range first last other => exact .range first last other
  | shorthand escaped => exact .shorthand escaped

theorem membersText_of_collected
    (collected : Collected LaterText (NextMemberFault error) members text
      rest)
    (ended : rest = []) (unclosed : error.Unclosed) :
    MembersText members (text ++ [']']) := by
  induction collected with
  | nil fault =>
      rw [fault.eq_nil_of_unclosed unclosed]
      exact .close
  | cons piece _ ih =>
      obtain ⟨written, other⟩ := piece
      rw [ended, List.append_nil] at written
      rw [List.append_assoc]
      exact .cons written.close other (ih ended)

end

/-- A first member, the others and the closing bracket. -/
def MemberListText (text : List Char) : Prop :=
  ∃ member members first more, text = first ++ more ∧
    MemberText member first more ∧ MembersText members more

theorem memberListText_single : MemberListText ['a', ']'] :=
  ⟨.single 'a', [], ['a'], [']'], rfl,
    .single (.plain (by decide)) (by simp [NoRange]), .close⟩

theorem MemberListText.plain {text : List Char} (members : MemberListText text)
    (other : text.head? ≠ some '^') : ∃ cls, ClassText cls text := by
  obtain ⟨member, members, first, more, rfl, written, others⟩ := members
  refine ⟨_, .plain written (fun caret => other ?_) others⟩
  rw [List.head?_append, caret]
  rfl

theorem MemberListText.negated {text : List Char}
    (members : MemberListText text) : ∃ cls, ClassText cls ('^' :: text) := by
  obtain ⟨member, members, first, more, rfl, written, others⟩ := members
  exact ⟨_, .negated written others⟩

/-- The fault of a list of members: the text ends before the first one, or
something is read and the list is broken. -/
def MemberListFault : Fault := fun error text rest =>
  (error = .unclosedClass ∧ text = [] ∧ rest = []) ∨
    text ≠ [] ∧ Broken MemberListText error text rest

theorem readMembers_fails (negated : Bool) :
    Fails (readMembers negated) MemberListFault := by
  apply Fails.bind readFirstMember_reads readFirstMember_fails
    (fun _ error text rest => ∃ members,
      Collected LaterText (NextMemberFault error) members text rest)
  · intro member
    refine (collect_fails readLaterMember_reads readLaterMember_fails ?_
      LaterText.ne_nil).map
    intro later text error members more rest other piece collected same
    exact ⟨piece.1.steady collected same, piece.2⟩
  · intro member text error tail rest other written collected same
    obtain ⟨members, collected⟩ := collected
    exact written.steady collected same
  · intro error text rest fault
    cases fault with
    | ended => exact .inl ⟨rfl, rfl, rfl⟩
    | @member _ c _ _ fault =>
        exact .inr ⟨List.cons_ne_nil _ _,
          .of_located (fault.append [c]).located fault.not_unclosed⟩
  · intro member text error tail rest written collected
    obtain ⟨members, collected⟩ := collected
    obtain ⟨head, more, rfl⟩ := written.exists_cons
    have located : Located error tail rest :=
      collected.of_stop (fun head _ _ located => located.append head)
        fun _ _ fault => fault.located
    refine .inr ⟨List.cons_ne_nil _ _, located.append _, fun unclosed => ?_⟩
    have ended : rest = [] := by
      cases error with
      | unclosedGroup | unclosedClass => exact located
      | _ => exact unclosed.elim
    rw [ended, List.append_nil] at written
    refine ⟨[']'], member, members, head :: more, tail ++ [']'],
      List.append_assoc _ _ _, written.close, ?_⟩
    exact membersText_of_collected collected ended unclosed

/-! ## Classes -/

theorem readClass_fails :
    Fails readClass (Broken fun text => ∃ cls, ClassText cls text) := by
  apply Fails.afterPeek (fun shown error text rest =>
    if (shown == some '^') = true then
      Broken (fun text => ∃ cls, ClassText cls text) error text rest
    else MemberListFault error text rest)
  · intro shown
    by_cases caret : (shown == some '^') = true
    · simp only [caret, if_true]
      apply (readMembers_fails true).afterExpect
      · intro error text rest missing
        exact .of_expect missing
      · intro error tail rest fault
        rcases fault with ⟨rfl, rfl, rfl⟩ | ⟨-, broken⟩
        · exact ⟨rfl, fun _ => ⟨_, memberListText_single.negated⟩⟩
        · apply broken.prepend ['^']
          intro text members
          exact members.negated
    · simp only [caret]
      exact readMembers_fails false
  · intro error text rest holds
    split at holds
    next caret => exact holds
    next plain =>
      rcases holds with ⟨rfl, rfl, rfl⟩ | ⟨read, broken⟩
      · refine ⟨rfl, fun _ => ⟨_, memberListText_single.plain ?_⟩⟩
        simp
      · refine ⟨broken.located, fun unclosed => ?_⟩
        obtain ⟨more, members⟩ := broken.completes unclosed
        obtain ⟨c, tail, rfl⟩ := List.exists_cons_of_ne_nil read
        exact ⟨more, members.plain (by simpa using plain)⟩

end Dialect

end TextPattern
