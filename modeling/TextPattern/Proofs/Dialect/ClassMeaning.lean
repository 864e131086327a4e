import TextPattern.Proofs.Dialect.GreedyMatching

/-!
# Which characters a class accepts

After an opening bracket a class is read if and only if the text starts with
one that the grammar writes, and no text starts with two.  The predicate of the
class accepts the characters of its members, or all the other ones.
-/

namespace TextPattern

namespace Dialect

/-- No text starts with two classes. -/
theorem ClassText.unique {left right : CharClass}
    {leftText rightText leftRest rightRest : List Char}
    (same : leftText ++ leftRest = rightText ++ rightRest)
    (first : ClassText left leftText) (second : ClassText right rightText) :
    left = right ∧ leftText = rightText :=
  readClass_reads.eq_of_append_eq same first second

/-- Negation decides which of the characters are meant. -/
theorem CharClass.test_predicate_iff_of_negated (cls : CharClass)
    (c : Char) :
    cls.predicate.test c = true ↔
      ((∃ member ∈ cls.members, member.Accepts c) ↔
        cls.negated = false) := by
  rw [cls.test_predicate_iff, Accepts]
  cases cls.negated with
  | false => simp
  | true => simp

/-- After an opening bracket, the reading takes the class that the text starts
with and nothing more.  There is at most one such class, and the reading fails
if there is none.  The predicate of a class accepts a character if and only if
a member accepts it, or if the class is negated and none does. -/
theorem readClass_eq_ok_iff_classText (text : List Char) (position : Nat) :
    (∀ cls after, readClass ⟨text, position⟩ = .ok cls after ↔
      ∃ written, ClassText cls written ∧ text = written ++ after.rest ∧
        after.position = position + written.length) ∧
    (∀ left right leftText rightText, ClassText left leftText →
      ClassText right rightText → leftText <+: text → rightText <+: text →
      left = right ∧ leftText = rightText) ∧
    ((∃ error after, readClass ⟨text, position⟩ = .error error after) ↔
      ∀ cls written, ClassText cls written → ¬ written <+: text) ∧
    ∀ (cls : CharClass) (c : Char), cls.predicate.test c = true ↔
      ((∃ member ∈ cls.members, member.Accepts c) ↔
        cls.negated = false) := by
  refine ⟨?_, ?_, ?_, CharClass.test_predicate_iff_of_negated⟩
  · intro cls after
    rw [readClass_reads]
    constructor
    · intro holds
      obtain ⟨written, spans, isClass⟩ := holds
      exact ⟨written, isClass, spans.rest, spans.position⟩
    · intro holds
      obtain ⟨written, isClass, shown, moved⟩ := holds
      exact ⟨written, ⟨shown, moved⟩, isClass⟩
  · intro left right leftText rightText first second leftStart rightStart
    obtain ⟨leftRest, leftShown⟩ := leftStart
    obtain ⟨rightRest, rightShown⟩ := rightStart
    exact ClassText.unique (leftShown.trans rightShown.symm) first second
  · rw [readClass_reads.exists_error_iff]
    constructor
    · intro none cls written holds starts
      obtain ⟨rest, shown⟩ := starts
      exact none cls written rest shown.symm holds
    · intro none cls written rest shown holds
      exact none cls written holds ⟨rest, shown.symm⟩

/-- A closing bracket as the first member, a range, and a minus sign after a
shorthand, which starts no range.  With the shorthand at the end of the range
there is no class. -/
theorem readClass_eq_ok_iff_classText_shorthand :
    let cls : CharClass := ⟨false,
      [.single ']', .range 'a' 'c', .shorthand .digit, .single '-']⟩
    readClass ⟨[']', 'a', '-', 'c', '\\', 'd', '-', ']', 'x'], 3⟩ =
        .ok cls ⟨['x'], 11⟩ ∧
      cls.predicate.test 'b' = true ∧ ¬ cls.predicate.test 'd' = true ∧
      ∀ other written, ClassText other written →
        ¬ written <+: ['a', '-', '\\', 'd', ']'] := by
  intro cls
  have accepts := (readClass_eq_ok_iff_classText [] 0).2.2.2 cls
  refine ⟨?_, ?_, ?_, ?_⟩
  · have minus : MembersText [.single '-'] ['-', ']'] :=
      .cons (.single (.plain (by decide)) (by simp [NoRange])) (by decide)
        .close
    have digit : MembersText [.shorthand .digit, .single '-']
        ['\\', 'd', '-', ']'] := .cons (.shorthand rfl) (by decide) minus
    have range : MembersText
        [.range 'a' 'c', .shorthand .digit, .single '-']
        ['a', '-', 'c', '\\', 'd', '-', ']'] :=
      .cons (.range (.plain (by decide)) (.plain (by decide)) (by decide))
        (by decide) digit
    have bracket : ClassText cls
        [']', 'a', '-', 'c', '\\', 'd', '-', ']'] :=
      .plain (.single (.plain (by decide)) (by simp [NoRange])) (by decide)
        range
    exact ((readClass_eq_ok_iff_classText _ _).1 _ _).mpr
      ⟨_, bracket, rfl, rfl⟩
  · have member : (Member.range 'a' 'c').Accepts 'b' := by
      unfold Member.Accepts
      decide
    rw [accepts]
    exact ⟨fun _ => rfl, fun _ => ⟨_, by simp [cls], member⟩⟩
  · rw [accepts]
    simp [cls, Member.Accepts, Shorthand.Accepts]
  · have failed : readClass ⟨['a', '-', '\\', 'd', ']'], 0⟩ =
        .error (.unexpectedChar '\\') ⟨[']'], 4⟩ := by
      rfl
    exact (readClass_eq_ok_iff_classText _ 0).2.2.1.mp ⟨_, _, failed⟩

end Dialect

end TextPattern
