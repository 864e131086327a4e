import TextPattern.Proofs.Dialect.Acceptance
import TextPattern.Proofs.Dialect.ExprErrors

/-!
# Where a malformed expression is malformed

The place of an error splits the text.  What is before it and the next
character after it decide that the text is rejected, and the error says what is
found or missing at this place.
-/

namespace TextPattern

namespace Dialect

/-- What is wrong where reading stopped: some part is broken there, or a
parenthesis closes a group that was never opened. -/
def Stopped (error : Error) (text rest : List Char) : Prop :=
  ExprBroken maxNesting error text rest ∨
    error = .unexpectedChar ')' ∧ ∃ more, rest = ')' :: more

/-- A rejected text splits at the place of its error, and every text that
starts with the first part and goes on with the same character is rejected in
the same way. -/
theorem exists_stopped_of_parse {text : List Char} {failure : Failure}
    (failed : parse text = .error failure) :
    ∃ before rest, text = before ++ rest ∧
      failure.position = before.length ∧
      Stopped failure.error before rest ∧
      ∀ other, other.head? = rest.head? →
        parse (before ++ other) = .error failure := by
  unfold parse at failed
  split at failed
  · next error cursor ran =>
    cases failed
    obtain ⟨before, spans, broken, final⟩ :=
      readExpr_fails maxNesting _ _ _ ran
    have position : cursor.position = before.length := by
      simpa using spans.position
    refine ⟨before, cursor.rest, spans.rest, position, .inl broken,
      fun other same => ?_⟩
    simp only [parse, final other same]
  · next expr cursor ran =>
    split at failed
    · cases failed
    · next c more shown =>
      cases failed
      obtain ⟨before, spans, written, ends⟩ :=
        (readExpr_reads maxNesting _ _ _).mp ran
      rw [shown] at ends
      have closing : c = ')' := ends c rfl
      have position : cursor.position = before.length := by
        simpa using spans.position
      have split : text = before ++ c :: more := by
        rw [← shown]
        exact spans.rest
      refine ⟨before, c :: more, split, position, .inr ⟨by rw [closing],
        more, by rw [closing]⟩, fun other same => ?_⟩
      obtain ⟨others, rfl⟩ := List.head?_eq_some_iff.mp same
      have goesOn : ExprText maxNesting expr before ∧ ExprEnds (c :: others) :=
        expr_nextOnly maxNesting _ _ _ _ rfl ⟨written, ends⟩
      have again := (readExpr_reads maxNesting).run 0 expr goesOn
      simp only [parse, again, position, Nat.zero_add]

/-- A failure is decided by its error alone. -/
instance decidableEqError {ε α : Type} [DecidableEq ε] (error : ε) :
    (result : Except ε α) → Decidable (result = .error error)
  | .error found => decidable_of_iff (found = error) (by simp)
  | .ok _ => isFalse (by simp)

theorem parse_eq_error_of_compile {text : List Char} {position : Nat}
    {error : Error}
    (failed : compile text = .error (.malformed position error)) :
    parse text = .error ⟨position, error⟩ := by
  unfold compile at failed
  split at failed
  · cases failed
  · next failure rejected =>
    cases failed
    exact rejected

/-- A text with the same beginning and the same next character. -/
theorem exists_eq_append_cons {before more other : List Char} {c : Char}
    (same : other.take (before.length + 1) =
      (before ++ c :: more).take (before.length + 1)) :
    ∃ others, other = before ++ c :: others := by
  have shown : (before ++ c :: more).take (before.length + 1) =
      before ++ [c] := by
    rw [List.take_append, List.take_of_length_le (Nat.le_succ _)]
    simp
  refine ⟨other.drop (before.length + 1), ?_⟩
  calc
    other = other.take (before.length + 1) ++
        other.drop (before.length + 1) := (List.take_append_drop _ _).symm
    _ = before ++ c :: other.drop (before.length + 1) := by
        rw [same, shown, List.append_assoc]
        rfl

/-- The character that is not expected closes a group that was never opened,
or it stands right before the place of the error, or it is the backslash of a
shorthand that ends there. -/
def UnexpectedAt (text : List Char) (position : Nat) (c : Char) : Prop :=
  (c = ')' ∧ text[position]? = some c) ∨
    (∃ index, position = index + 1 ∧ text[index]? = some c) ∨
    (c = '\\' ∧ ∃ index, position = index + 2 ∧ text[index]? = some c)

theorem Located.unexpectedAt {c : Char} {before rest : List Char}
    (located : Located (.unexpectedChar c) before rest) :
    UnexpectedAt (before ++ rest) before.length c := by
  rcases located with ⟨start, rfl⟩ | ⟨backslash, letter, start, rfl⟩
  · refine .inr (.inl ⟨start.length, by simp, ?_⟩)
    simp
  · refine .inr (.inr ⟨backslash, start.length, by simp, ?_⟩)
    simp [backslash]

theorem Stopped.unexpectedAt {c : Char} {before rest : List Char}
    (stopped : Stopped (.unexpectedChar c) before rest) :
    UnexpectedAt (before ++ rest) before.length c := by
  rcases stopped with broken | ⟨closing, more, rfl⟩
  · exact broken.located.unexpectedAt
  · cases closing
    exact .inl ⟨rfl, by simp⟩

/-- Something is missing only where the text ends. -/
theorem Stopped.rest_eq_nil {error : Error} {before rest : List Char}
    (stopped : Stopped error before rest)
    (missing : error = .unclosedGroup ∨ error = .unclosedClass ∨
      error = .unexpectedEnd) : rest = [] := by
  rcases stopped with broken | ⟨closing, -⟩
  · have located := broken.located
    rcases missing with rfl | rfl | rfl
    · exact located
    · exact located
    · exact located
  · rw [closing] at missing
    simp at missing

theorem Stopped.completes {error : Error} {text rest : List Char}
    (stopped : Stopped error text rest)
    (unclosed : error = .unclosedGroup ∨ error = .unclosedClass) :
    ∃ more pattern, compile (text ++ more) = .ok pattern := by
  rcases stopped with broken | ⟨closing, -⟩
  · have noEnd : error.Unclosed := by
      rcases unclosed with rfl | rfl
      · exact trivial
      · exact trivial
    obtain ⟨more, expr, written⟩ := broken.completes noEnd
    refine ⟨more, expr.toPattern, ?_⟩
    simp only [compile, parse_eq_ok_iff.mpr written]
  · rw [closing] at unclosed
    simp at unclosed

/-- The place of an error lies in the text, and the characters up to and
including the one at this place settle the error.  Only at the end of the text
is something missing there; a group or a class without an end can be given
one; and an unexpected character stands where the error is. -/
theorem compile_error_located {text : List Char} {position : Nat}
    {error : Error}
    (failed : compile text = .error (.malformed position error)) :
    position ≤ text.length ∧
    (position < text.length → ∀ other : List Char,
      other.take (position + 1) = text.take (position + 1) →
      compile other = .error (.malformed position error)) ∧
    (error = .unclosedGroup ∨ error = .unclosedClass ∨
      error = .unexpectedEnd → position = text.length) ∧
    (error = .unclosedGroup ∨ error = .unclosedClass →
      ∃ more pattern, compile (text ++ more) = .ok pattern) ∧
    ∀ c, error = .unexpectedChar c → UnexpectedAt text position c := by
  have rejected := parse_eq_error_of_compile failed
  obtain ⟨before, rest, rfl, place, stopped, final⟩ :=
    exists_stopped_of_parse rejected
  simp only at place stopped
  subst place
  refine ⟨by simp, fun inside other same => ?_, fun missing => ?_,
    fun unclosed => ?_, fun c unexpected => ?_⟩
  · cases rest with
    | nil => simp at inside
    | cons c more =>
        obtain ⟨others, rfl⟩ := exists_eq_append_cons same
        simp only [compile, final (c :: others) rfl]
  · rw [stopped.rest_eq_nil missing, List.append_nil]
  · have ended : rest = [] := stopped.rest_eq_nil <| by
      rcases unclosed with group | cls
      · exact .inl group
      · exact .inr (.inl cls)
    rw [ended, List.append_nil]
    exact stopped.completes unclosed
  · rw [unexpected] at stopped
    exact stopped.unexpectedAt

/-- A shorthand as the last character of a range is rejected whatever comes
after it, and a class without an end inside a group can still be completed. -/
theorem compile_error_located_class :
    compile ['[', 'a', '-', '\\', 'd', 'x'] =
        .error (.malformed 5 (.unexpectedChar '\\')) ∧
      compile ['[', 'a', '-', '\\', 'd', 'x', ']', '*'] =
        .error (.malformed 5 (.unexpectedChar '\\')) ∧
      compile ['(', 'a', '|', '[', 'b', '-'] =
        .error (.malformed 6 .unclosedClass) ∧
      ∃ more pattern,
        compile (['(', 'a', '|', '[', 'b', '-'] ++ more) = .ok pattern := by
  have range : compile ['[', 'a', '-', '\\', 'd', 'x'] =
      .error (.malformed 5 (.unexpectedChar '\\')) := by
    decide +kernel
  have noEnd : compile ['(', 'a', '|', '[', 'b', '-'] =
      .error (.malformed 6 .unclosedClass) := by
    decide +kernel
  refine ⟨range, ?_, noEnd, ?_⟩
  · exact (compile_error_located range).2.1 (by decide) _ rfl
  · exact (compile_error_located noEnd).2.2.2.1 (.inr rfl)

end Dialect

end TextPattern
