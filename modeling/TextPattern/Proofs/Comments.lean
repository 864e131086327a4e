import TextPattern.Proofs.Extent.Characters
import TextPattern.Proofs.Extent.Operations
import TextPattern.Proofs.FaultFreedom

/-!
# Comments

A block comment is a search without a search: it goes on character by character
while the closing text does not start, and then asks for the closing text.  It
ends with the first closing text that stands after the opening text, so one that
overlaps the opening text does not count, and one that overlaps itself ends
where it is complete for the first time.  A line comment ends before the first
line break.
-/

namespace TextPattern

namespace Text

variable {part text : List Char} {offset : Nat}

/-- The whole part stands in the text, from the offset on. -/
def OccursAt (part text : List Char) (offset : Nat) : Prop :=
  ∃ before after, text = before ++ part ++ after ∧ before.length = offset

theorem occursAt_iff :
    OccursAt part text offset ↔
      offset ≤ text.length ∧ part <+: text.drop offset := by
  constructor
  · rintro ⟨before, after, rfl, rfl⟩
    rw [List.append_assoc, List.drop_left, List.length_append]
    exact ⟨Nat.le_add_right _ _, List.prefix_append part after⟩
  · rintro ⟨inside, after, shown⟩
    refine ⟨text.take offset, after, ?_, List.length_take_of_le inside⟩
    rw [List.append_assoc, shown, List.take_append_drop]

theorem occursAt_zero_iff : OccursAt part text 0 ↔ part <+: text := by
  simp [occursAt_iff]

/-- What stands in the rest of a text stands in the text, further on. -/
theorem occursAt_drop_iff {count : Nat} (inside : count ≤ text.length) :
    OccursAt part (text.drop count) offset ↔
      OccursAt part text (count + offset) := by
  rw [occursAt_iff, occursAt_iff, List.drop_drop, List.length_drop]
  exact and_congr_left' ⟨fun _ => by omega, fun _ => by omega⟩

end Text

namespace Extent

open Text (OccursAt)

theorem notLiteral_eq_none_iff {contents text : List Char} :
    notLiteral .sensitive contents text = none ↔
      text = [] ∨ contents <+: text := by
  cases text with
  | nil => simp [notLiteral]
  | cons c rest =>
      simp [notLiteral, startsWith_sensitive_iff]

/-- A repetition that goes on while a literal does not start stops where the
literal stands for the first time, if it stands anywhere. -/
theorem many_notLiteral_isLeast {contents text : List Char} {offset : Nat}
    (occurs : OccursAt contents text offset) :
    IsLeast {offset | OccursAt contents text offset}
      (many (notLiteral .sensitive contents) text) := by
  have single := notLiteral_single .sensitive contents
  have inside := notLiteral_inside .sensitive contents
  have first : ∀ ⦃place⦄, OccursAt contents text place →
      many (notLiteral .sensitive contents) text ≤ place := by
    intro place here
    by_contra passed
    have goesOn := single.many_passes inside (Nat.lt_of_not_le passed)
    rw [notLiteral_eq_none_iff.mpr (.inr (Text.occursAt_iff.mp here).2)]
      at goesOn
    cases goesOn
  refine ⟨?_, first⟩
  have bound := (Text.occursAt_iff.mp occurs).1
  rcases notLiteral_eq_none_iff.mp (single.many_stops inside text)
    with exhausted | starts
  · -- The repetition cannot pass the place where the literal stands.
    have reached := List.drop_eq_nil_iff.mp exhausted
    have same := Nat.le_antisymm (first occurs) (Nat.le_trans bound reached)
    rw [same]
    exact occurs
  · exact Text.occursAt_iff.mpr ⟨Nat.le_trans (first occurs) bound, starts⟩

end Extent

namespace Library

open Text (OccursAt)
open Pattern (extent_seqOf extent_ofText extent_ofPredicate extent_many)

variable {opening closing text : List Char} {length : Nat}

theorem extent_blockComment (opening closing : List Char) :
    (blockComment opening closing).extent =
      Extent.sequence [Extent.literal .sensitive opening,
        Extent.repeated 0 none (Extent.notLiteral .sensitive closing),
        Extent.literal .sensitive closing] := by
  rw [blockComment, extent_seqOf]
  simp only [List.map_cons, List.map_nil, extent_ofText, extent_many]
  rfl

theorem extent_lineComment (opening : List Char) :
    (lineComment opening).extent =
      Extent.sequence [Extent.literal .sensitive opening,
        Extent.repeated 0 none
          (Extent.char (.notAmong ['\r', '\n']))] := by
  rw [lineComment, Pattern.andThen, extent_seqOf]
  simp only [List.map_cons, List.map_nil, extent_ofText, extent_many,
    extent_ofPredicate]

theorem extent_blockComment_eq_some_iff :
    (blockComment opening closing).extent text = some length ↔
      OccursAt opening text 0 ∧
      ∃ skipped, IsLeast
          {skipped | OccursAt closing text (opening.length + skipped)}
          skipped ∧
        length = opening.length + skipped + closing.length := by
  rw [extent_blockComment, Extent.sequence_cons]
  simp only [Extent.sequence_pair, Extent.repeated_zero, Option.bind_some,
    Option.map_map, Option.bind_eq_some_iff, Option.map_eq_some_iff,
    Extent.literal_eq_some_iff, Text.occursAt_zero_iff]
  constructor
  · rintro ⟨_, ⟨starts, rfl⟩, _, ⟨ends, rfl⟩, rfl⟩
    have inside : opening.length ≤ text.length := starts.length_le
    have occurs := Text.occursAt_iff.mpr
      ⟨Extent.atMost_le (Extent.notLiteral_inside .sensitive closing) _ _,
        ends⟩
    have least := Extent.many_notLiteral_isLeast occurs
    simp only [Text.occursAt_drop_iff inside] at least
    exact ⟨starts, _, least, (Nat.add_assoc _ _ _).symm⟩
  · rintro ⟨starts, skipped, least, rfl⟩
    have inside : opening.length ≤ text.length := starts.length_le
    simp only [← Text.occursAt_drop_iff inside] at least
    have same := least.unique (Extent.many_notLiteral_isLeast least.1)
    subst same
    exact ⟨_, ⟨starts, rfl⟩, _, ⟨(Text.occursAt_iff.mp least.1).2, rfl⟩,
      (Nat.add_assoc _ _ _).symm⟩

theorem exists_extent_blockComment_iff :
    (blockComment opening closing).extent text ≠ none ↔
      OccursAt opening text 0 ∧
      ∃ offset, opening.length ≤ offset ∧ OccursAt closing text offset := by
  rw [Option.ne_none_iff_exists']
  constructor
  · rintro ⟨length, found⟩
    obtain ⟨starts, skipped, least, -⟩ :=
      extent_blockComment_eq_some_iff.mp found
    exact ⟨starts, _, Nat.le_add_right _ _, least.1⟩
  · rintro ⟨starts, offset, later, occurs⟩
    obtain ⟨skipped, rfl⟩ := Nat.exists_eq_add_of_le later
    have inside := (Text.occursAt_zero_iff.mp starts).length_le
    have least := Extent.many_notLiteral_isLeast
      ((Text.occursAt_drop_iff inside).mpr occurs)
    simp only [Text.occursAt_drop_iff inside] at least
    exact ⟨_, extent_blockComment_eq_some_iff.mpr ⟨starts, _, least, rfl⟩⟩

theorem notAmong_lineBreaks_test :
    (Predicate.notAmong ['\r', '\n']).test =
      fun c => c != '\r' && c != '\n' := by
  funext c
  simp [Predicate.test, bne, beq_eq_decide]

theorem extent_lineComment_eq_some_iff :
    (lineComment opening).extent text = some length ↔
      OccursAt opening text 0 ∧
      length = opening.length + ((text.drop opening.length).takeWhile
        fun c => c != '\r' && c != '\n').length := by
  rw [extent_lineComment, Extent.sequence_pair]
  simp only [Extent.repeated_zero, Extent.more, Extent.many_char,
    notAmong_lineBreaks_test, Option.map_some, Option.bind_eq_some_iff,
    Extent.literal_eq_some_iff, Text.occursAt_zero_iff, Option.some.injEq]
  constructor
  · rintro ⟨_, ⟨starts, rfl⟩, rfl⟩
    exact ⟨starts, rfl⟩
  · rintro ⟨starts, rfl⟩
    exact ⟨_, ⟨starts, rfl⟩, rfl⟩

/-- A block comment matches if the window starts with the opening text and the
closing text stands after it, and ends with the first closing text that does.
A line comment matches if the window starts with the opening text, and ends
before the first line break or with the window. -/
theorem comments_end_where_first_closed {source : Source} {window : Window}
    (countable : source.Countable) (within : window.Within source) :
    (∀ opening closing : List Char, ∃ result,
      (blockComment opening closing).matchIn source window = .ok result ∧
      (result ≠ none ↔
        OccursAt opening (window.text source) 0 ∧
        ∃ offset, opening.length ≤ offset ∧
          OccursAt closing (window.text source) offset) ∧
      ∀ length, result = some length → ∃ skipped,
        IsLeast {skipped | OccursAt closing (window.text source)
          (opening.length + skipped)} skipped ∧
        length = opening.length + skipped + closing.length) ∧
    ∀ opening : List Char, ∃ result,
      (lineComment opening).matchIn source window = .ok result ∧
      (result ≠ none ↔ OccursAt opening (window.text source) 0) ∧
      ∀ length, result = some length →
        length = opening.length +
          (((window.text source).drop opening.length).takeWhile
            fun c => c != '\r' && c != '\n').length := by
  constructor
  · intro opening closing
    refine ⟨_, (blockComment_built opening closing).matchIn_eq_extent
      countable within, exists_extent_blockComment_iff, ?_⟩
    intro length found
    exact (extent_blockComment_eq_some_iff.mp found).2
  · intro opening
    refine ⟨_, (lineComment_built opening).matchIn_eq_extent countable within,
      ?_, ?_⟩
    · rw [Option.ne_none_iff_exists']
      simp only [extent_lineComment_eq_some_iff, exists_and_left,
        exists_eq, and_true]
    · intro length found
      exact (extent_lineComment_eq_some_iff.mp found).2

/-- A closing text that overlaps the opening text and itself. -/
theorem comments_end_where_first_closed_overlapping :
    Source.Countable (.buffer #['/', '*', '*', '/', '*', '*', '*', '/']) ∧
      Window.Within ⟨0, 8⟩
        (.buffer #['/', '*', '*', '/', '*', '*', '*', '/']) ∧
      (blockComment ['/', '*', '*'] ['*', '*', '/']).matchIn
          (.buffer #['/', '*', '*', '/', '*', '*', '*', '/']) ⟨0, 8⟩ =
        .ok (some 8) ∧
      IsLeast {skipped | OccursAt ['*', '*', '/']
        ['/', '*', '*', '/', '*', '*', '*', '/'] (3 + skipped)} 2 := by
  have countable : Source.Countable
      (.buffer #['/', '*', '*', '/', '*', '*', '*', '/']) := by decide
  have within : Window.Within ⟨0, 8⟩
      (.buffer #['/', '*', '*', '/', '*', '*', '*', '/']) := by decide
  have found : (blockComment ['/', '*', '*'] ['*', '*', '/']).matchIn
      (.buffer #['/', '*', '*', '/', '*', '*', '*', '/']) ⟨0, 8⟩ =
        .ok (some 8) :=
    (blockComment_built _ _).matchIn_eq_extent countable within
  obtain ⟨result, run, -, ends⟩ :=
    (comments_end_where_first_closed countable within).1
      ['/', '*', '*'] ['*', '*', '/']
  obtain ⟨skipped, least, total⟩ := ends 8 (Except.ok.inj (run.symm.trans found))
  have two : skipped = 2 := by
    simp only [List.length_cons, List.length_nil] at total
    omega
  subst two
  exact ⟨countable, within, found, least⟩

end Library

end TextPattern
