import TextPattern.Proofs.FaultFreedom

/-!
# Matching depends on the text of the window

Two windows that show the same text give the same result, whatever sources
they belong to and wherever they lie in them.
-/

namespace TextPattern

namespace Window

/-- The text between two others. -/
theorem text_between (before inside after : List Char) :
    text ⟨before.length, before.length + inside.length⟩
      (.buffer (before ++ inside ++ after).toArray) = inside := by
  simp only [text, Source.toList, List.append_assoc]
  rw [List.drop_take, List.drop_left, Nat.add_sub_cancel_left,
    List.take_left]

theorem within_between (before inside after : List Char) :
    Within ⟨before.length, before.length + inside.length⟩
      (.buffer (before ++ inside ++ after).toArray) := by
  simp only [Within, Source.size, List.size_toArray, List.length_append]
  omega

/-- A window of a segment is a window of the buffer behind it. -/
theorem text_segment (part : Segment) {window : Window}
    (within : window.Within (.segment part)) :
    window.text (.segment part) =
      text ⟨part.start + window.first, part.start + window.stop⟩
        (.buffer part.chars) := by
  have bound : window.stop ≤ part.stop - part.start := within.2
  have ordered := part.ordered
  have shown : min (part.start + window.stop)
      (part.start + (part.stop - part.start)) = part.start + window.stop :=
    Nat.min_eq_left (by omega)
  simp only [text, Source.toList, Array.toList_extract, List.take_take,
    List.take_drop, List.drop_drop, shown]

theorem within_segment (part : Segment) {window : Window}
    (within : window.Within (.segment part)) :
    Within ⟨part.start + window.first, part.start + window.stop⟩
      (.buffer part.chars) := by
  have ordered := within.1
  have bound : window.stop ≤ part.stop - part.start := within.2
  have partOrdered := part.ordered
  have partInside := part.inside
  simp only [Within, Source.size]
  omega

end Window

namespace Pattern

theorem Built.matchIn_eq_of_text_eq {pattern : Pattern}
    (built : pattern.Built) {source target : Source} {window image : Window}
    (countable : source.Countable) (targetCountable : target.Countable)
    (within : window.Within source) (imageWithin : image.Within target)
    (same : window.text source = image.text target) :
    pattern.matchIn source window = pattern.matchIn target image := by
  rw [built.matchIn_eq_extent countable within,
    built.matchIn_eq_extent targetCountable imageWithin, same]

/-- Only the text of the window matters: not the source it belongs to, not the
place, and not the characters around it.  So a window may be copied out, and a
window of a segment may be taken in the whole buffer. -/
theorem matchIn_depends_on_text {pattern : Pattern} (built : pattern.Built) :
    (∀ (source target : Source) (window image : Window),
      source.Countable → target.Countable → window.Within source →
      image.Within target → window.text source = image.text target →
      pattern.matchIn source window = pattern.matchIn target image) ∧
    (∀ (source : Source) (window : Window), source.Countable →
      window.Within source →
      ∃ copied, source.copy window.first window.stop = .ok copied ∧
        pattern.matchIn source window =
          pattern.matchAll (.buffer copied.toArray)) ∧
    (∀ before inside after otherBefore otherAfter : List Char,
      Source.Countable (.buffer (before ++ inside ++ after).toArray) →
      Source.Countable
        (.buffer (otherBefore ++ inside ++ otherAfter).toArray) →
      pattern.matchIn (.buffer (before ++ inside ++ after).toArray)
          ⟨before.length, before.length + inside.length⟩ =
        pattern.matchIn
          (.buffer (otherBefore ++ inside ++ otherAfter).toArray)
          ⟨otherBefore.length, otherBefore.length + inside.length⟩) ∧
    (∀ (part : Segment) (window : Window),
      Source.Countable (.buffer part.chars) →
      window.Within (.segment part) →
      pattern.matchIn (.segment part) window =
        pattern.matchIn (.buffer part.chars)
          ⟨part.start + window.first, part.start + window.stop⟩) := by
  refine ⟨?_, ?_, ?_, ?_⟩
  · intro source target window image countable targetCountable within
      imageWithin same
    exact built.matchIn_eq_of_text_eq countable targetCountable within
      imageWithin same
  · intro source window countable within
    refine ⟨window.text source, Window.copy_eq_text within, ?_⟩
    have shorter : (window.text source).length ≤ source.size := by
      rw [Window.length_text within]
      exact Nat.le_trans (Nat.sub_le _ _) within.2
    apply built.matchIn_eq_of_text_eq countable _ within
    · exact ⟨Nat.zero_le _, Nat.le_refl _⟩
    · rw [Window.text_whole]
      rfl
    · exact Nat.lt_of_le_of_lt (by simpa [Source.size] using shorter)
        countable
  · intro before inside after otherBefore otherAfter countable
      otherCountable
    apply built.matchIn_eq_of_text_eq countable otherCountable
      (Window.within_between _ _ _) (Window.within_between _ _ _)
    rw [Window.text_between, Window.text_between]
  · intro part window countable within
    have partCountable : Source.Countable (.segment part) := by
      have inside := part.inside
      simp only [Source.Countable, Source.size] at countable ⊢
      omega
    exact built.matchIn_eq_of_text_eq partCountable countable within
      (Window.within_segment part within) (Window.text_segment part within)

/-- A repetition in the middle of a reader and of a segment. -/
theorem matchIn_depends_on_text_digits :
    Built (ofPredicate .digit).many ∧
      Source.Countable (.reader #['a', '1', '2', 'b']) ∧
      Source.Countable (.segment ⟨#['1', '2', '3'], 0, 2, by decide,
        by decide⟩) ∧
      (ofPredicate .digit).many.matchIn (.reader #['a', '1', '2', 'b'])
          ⟨1, 3⟩ =
        (ofPredicate .digit).many.matchIn
          (.segment ⟨#['1', '2', '3'], 0, 2, by decide, by decide⟩)
          ⟨0, 2⟩ := by
  have built : Built (ofPredicate .digit).many :=
    (Built.ofPredicate _).many
  refine ⟨built, by decide, by decide, ?_⟩
  apply (matchIn_depends_on_text built).1
  · decide
  · decide
  · decide
  · decide
  · decide

end Pattern

end TextPattern
