import TextPattern.Proofs.Equivalence
import TextPattern.Proofs.Extent.Characters

/-!
# Literals character by character

A literal looks at the width of the window once and then compares.  A sequence
of tests of one character looks at the window before each of them, and finds the
same.  A literal that must not start is a negation with a character after it,
also where the text is empty and so starts everywhere.  What agrees character by
character agrees ignoring case.
-/

namespace TextPattern

/-- The test of the characters whose lowercase form is that of the given
one. -/
def Predicate.sameLowercase (c : Char) : Predicate :=
  .custom "same lowercase form" fun other =>
    Unicode.toLowercase other == Unicode.toLowercase c

namespace CaseRule

theorem agree_insensitive (actual expected : Char) :
    insensitive.agree actual expected =
      (Unicode.toLowercase actual == Unicode.toLowercase expected) := by
  rw [agree]
  cases same : actual == expected with
  | true =>
      rw [eq_of_beq same, beq_self_eq_true, Bool.true_or]
  | false => exact Bool.false_or _

theorem agree_insensitive_of_sensitive {actual expected : Char}
    (agrees : sensitive.agree actual expected = true) :
    insensitive.agree actual expected = true := by
  rw [agree] at agrees
  rw [agree, agrees, Bool.true_or]

end CaseRule

namespace Extent

theorem startsWith_insensitive_of_sensitive {contents text : List Char}
    (starts : startsWith .sensitive contents text = true) :
    startsWith .insensitive contents text = true := by
  induction contents generalizing text with
  | nil => rfl
  | cons expected contents ih =>
      cases text with
      | nil => cases starts
      | cons actual text =>
          rw [startsWith, Bool.and_eq_true] at starts ⊢
          obtain ⟨head, tail⟩ := starts
          exact ⟨CaseRule.agree_insensitive_of_sensitive head, ih tail⟩

theorem literal_insensitive_of_sensitive {contents text : List Char}
    {length : Nat} (found : literal .sensitive contents text = some length) :
    literal .insensitive contents text = some length := by
  rw [literal, Option.ite_none_right_eq_some] at found ⊢
  obtain ⟨starts, same⟩ := found
  exact ⟨startsWith_insensitive_of_sensitive starts, same⟩

theorem notLiteral_sensitive_of_insensitive {contents text : List Char}
    {length : Nat}
    (found : notLiteral .insensitive contents text = some length) :
    notLiteral .sensitive contents text = some length := by
  cases text with
  | nil => cases found
  | cons c text =>
      rw [notLiteral, Option.ite_none_left_eq_some] at found ⊢
      obtain ⟨differs, same⟩ := found
      refine ⟨fun starts => ?_, same⟩
      exact differs (startsWith_insensitive_of_sensitive starts)

/-- Where the literal does not start there is a character, or the window is
closed and neither side matches. -/
theorem notLiteral_eq_sequence (rule : CaseRule) (contents : List Char) :
    notLiteral rule contents =
      sequence [negation (literal rule contents), hasAtLeast 1] := by
  funext text
  cases starts : startsWith rule contents text with
  | true =>
      have refused : negation (literal rule contents) text = none := by
        simp only [negation, literal, starts, if_true]
      rw [sequence, refused]
      cases text with
      | nil => rfl
      | cons c text => exact if_pos starts
  | false =>
      have passed : negation (literal rule contents) text = some 0 := by
        simp [negation, literal, starts]
      rw [sequence, passed]
      cases text with
      | nil => rfl
      | cons c text =>
          simp [notLiteral, starts, sequence_singleton, hasAtLeast]

end Extent

namespace Pattern

/-- The tests of one character after the other find what the literal finds. -/
theorem extent_seqOf_ofPredicate {rule : CaseRule} {tests : Char → Predicate}
    (agree : ∀ expected actual,
      (tests expected).test actual = rule.agree actual expected)
    (contents : List Char) :
    (seqOf (contents.map fun c => ofPredicate (tests c))).extent =
      (ofText rule contents).extent := by
  rw [extent_seqOf, extent_ofText, ← Extent.sequence_map_char agree,
    List.map_map]
  congr 1
  apply List.map_congr_left
  intro c _
  exact extent_ofPredicate (tests c)

theorem ofText_alike_characters {rule : CaseRule} {tests : Char → Predicate}
    (agree : ∀ expected actual,
      (tests expected).test actual = rule.agree actual expected)
    (contents : List Char) :
    (ofText rule contents).Alike
      (seqOf (contents.map fun c => ofPredicate (tests c))) := by
  apply (Built.ofText rule contents).alike (.seqOf fun operand member => ?_)
    (extent_seqOf_ofPredicate agree contents).symm
  obtain ⟨c, -, rfl⟩ := List.mem_map.mp member
  exact .ofPredicate (tests c)

theorem notText_alike_negation (rule : CaseRule) (contents : List Char) :
    (notText rule contents).Alike
      (seqOf [(ofText rule contents).negate, anyChar]) := by
  have literal := Built.ofText rule contents
  apply (Built.notText rule contents).alike
    (literal.negate.andThen (.take 1))
  rw [andThen, extent_seqOf, List.map_cons, List.map_singleton,
    extent_negate, extent_ofText, extent_take]
  exact Extent.notLiteral_eq_sequence rule contents

/-- A literal matches like its characters one after the other, compared as they
are or by their lowercase forms.  A literal that must not start is its negation
and then any character.  Ignoring case, more texts match a literal and fewer
are let through. -/
theorem literals_alike_characters (contents : List Char) :
    (ofText .sensitive contents).Alike (seqOf (contents.map ofChar)) ∧
    (ofText .insensitive contents).Alike
      (seqOf (contents.map fun c => ofPredicate (.sameLowercase c))) ∧
    (∀ rule, (notText rule contents).Alike
      (seqOf [(ofText rule contents).negate, anyChar])) ∧
    ∀ (source : Source) (window : Window), source.Countable →
      window.Within source → ∀ length,
      ((ofText .sensitive contents).matchIn source window =
          .ok (some length) →
        (ofText .insensitive contents).matchIn source window =
          .ok (some length)) ∧
      ((notText .insensitive contents).matchIn source window =
          .ok (some length) →
        (notText .sensitive contents).matchIn source window =
          .ok (some length)) := by
  refine ⟨?_, ?_, fun rule => notText_alike_negation rule contents, ?_⟩
  · apply ofText_alike_characters
    intro expected actual
    rw [Predicate.test, CaseRule.agree, Bool.beq_comm]
  · apply ofText_alike_characters
    intro expected actual
    rw [CaseRule.agree_insensitive, Predicate.sameLowercase, Predicate.test]
  · intro source window countable within length
    constructor
    · intro found
      rw [(Built.ofText _ _).matchIn_eq_ok_iff countable within,
        extent_ofText] at found ⊢
      exact Extent.literal_insensitive_of_sensitive found
    · intro found
      rw [(Built.notText _ _).matchIn_eq_ok_iff countable within] at found ⊢
      exact Extent.notLiteral_sensitive_of_insensitive found

/-- A capital with a dot, whose lowercase form has two characters, alone in a
window: it is not the small letter without the dot. -/
theorem literals_alike_characters_expanding :
    Source.Countable (.buffer #['x', '\u0130', 'y']) ∧
      Window.Within ⟨1, 2⟩ (.buffer #['x', '\u0130', 'y']) ∧
      (ofText .sensitive ['\u0130']).matchIn
        (.buffer #['x', '\u0130', 'y']) ⟨1, 2⟩ = .ok (some 1) ∧
      (ofText .insensitive ['\u0130']).matchIn
        (.buffer #['x', '\u0130', 'y']) ⟨1, 2⟩ = .ok (some 1) ∧
      (notText .insensitive ['i']).matchIn
        (.buffer #['x', '\u0130', 'y']) ⟨1, 2⟩ = .ok (some 1) ∧
      (notText .sensitive ['i']).matchIn
        (.buffer #['x', '\u0130', 'y']) ⟨1, 2⟩ = .ok (some 1) := by
  have countable : Source.Countable (.buffer #['x', '\u0130', 'y']) := by
    decide
  have within : Window.Within ⟨1, 2⟩ (.buffer #['x', '\u0130', 'y']) := by
    decide
  obtain ⟨-, -, -, capital⟩ := literals_alike_characters ['\u0130']
  obtain ⟨-, -, -, small⟩ := literals_alike_characters ['i']
  refine ⟨countable, within, rfl, ?_, rfl, ?_⟩
  · exact (capital _ _ countable within 1).1 rfl
  · exact (small _ _ countable within 1).2 rfl

end Pattern

end TextPattern
