import TextPattern.Proofs.Dialect.ExprReading

/-!
# Which expressions are accepted

A text is accepted if and only if the grammar derives it, the derivation is
unique, and the pattern is the one that the derived expression stands for.
-/

namespace TextPattern

namespace Dialect

theorem ExprText.unique {room : Nat} {left right : Expr} {text : List Char}
    (first : ExprText room left text) (second : ExprText room right text) :
    left = right := by
  have ended : ExprEnds [] := by
    intro c head
    cases head
  exact (readExpr_reads room).unique ⟨first, ended⟩ ⟨second, ended⟩

theorem ClassText.iff_readClass {members : CharClass} {text : List Char} :
    ClassText members text ↔
      readClass ⟨text, 0⟩ = .ok members ⟨[], text.length⟩ := by
  rw [readClass_reads]
  constructor
  · intro written
    exact ⟨text, ⟨(List.append_nil text).symm, (Nat.zero_add _).symm⟩,
      written⟩
  · intro holds
    obtain ⟨taken, spans, written⟩ := holds
    have same : text = taken := by
      rw [← List.append_nil taken]
      exact spans.rest
    rw [same]
    exact written

/-- A whole text is read as an expression if and only if it writes it. -/
theorem parse_eq_ok_iff {text : List Char} {expr : Expr} :
    parse text = .ok expr ↔ ExprText maxNesting expr text := by
  constructor
  · intro parsed
    unfold parse at parsed
    split at parsed
    · cases parsed
    · next found cursor ran =>
      split at parsed
      · next ended =>
        cases parsed
        obtain ⟨taken, spans, written, -⟩ :=
          (readExpr_reads maxNesting _ _ _).mp ran
        have same : text = taken := by
          have shown : text = taken ++ cursor.rest := spans.rest
          rw [shown, ended, List.append_nil]
        rw [same]
        exact written
      · cases parsed
  · intro written
    have ended : ExprEnds [] := fun c head => nomatch head
    have ran := (readExpr_reads maxNesting).run 0 expr ⟨written, ended⟩
    rw [List.append_nil] at ran
    simp only [parse, ran]

theorem exists_exprText_of_compile {expression : List Char}
    {pattern : Pattern} (compiled : compile expression = .ok pattern) :
    ∃ expr, ExprText maxNesting expr expression ∧
      expr.toPattern = pattern := by
  unfold compile at compiled
  split at compiled
  · next expr parsed =>
    cases compiled
    exact ⟨expr, parse_eq_ok_iff.mp parsed, rfl⟩
  · cases compiled

/-- What is accepted is what the grammar derives, with at most so many groups
inside each other; nothing is derived in two ways; and a class of the grammar
is a class as it is read. -/
theorem compile_eq_ok_iff_derives (text : List Char) :
    (∀ pattern, compile text = .ok pattern ↔
      ∃ expr, ExprText maxNesting expr text ∧ expr.toPattern = pattern) ∧
    (∀ left right, ExprText maxNesting left text →
      ExprText maxNesting right text → left = right) ∧
    (∀ members, ClassText members text ↔
      readClass ⟨text, 0⟩ = .ok members ⟨[], text.length⟩) := by
  refine ⟨?_, fun _ _ => ExprText.unique, fun _ => ClassText.iff_readClass⟩
  intro pattern
  constructor
  · intro compiled
    unfold compile at compiled
    split at compiled
    · next expr parsed =>
      cases compiled
      exact ⟨expr, parse_eq_ok_iff.mp parsed, rfl⟩
    · cases compiled
  · intro holds
    obtain ⟨expr, written, rfl⟩ := holds
    simp only [compile, parse_eq_ok_iff.mpr written]

/-- Two quantifiers after a group, of which the first one applies first, and
an empty second alternative. -/
theorem compile_eq_ok_iff_derives_group :
    compile ['(', 'a', ')', '+', '?', '|'] =
      .ok (((Pattern.ofChar 'a').many1.opt).orElse .always) := by
  have group : AtomText maxNesting
      (.group (.alternatives [.sequence [.char 'a']])) ['(', 'a', ')'] := by
    have item : ItemText 127 (.char 'a') ['a'] :=
      .quantified [] (.char (by decide))
    exact .group (.alternatives (.cons item .nil) .nil)
  have first : ItemText maxNesting
      (.quantified (.quantified
        (.group (.alternatives [.sequence [.char 'a']])) .some) .optional)
      ['(', 'a', ')', '+', '?'] :=
    .quantified [.some, .optional] group
  have derived : ExprText maxNesting
      (.alternatives [.sequence [.quantified (.quantified
        (.group (.alternatives [.sequence [.char 'a']])) .some) .optional],
        .sequence []])
      ['(', 'a', ')', '+', '?', '|'] :=
    .alternatives (.cons first .nil) (.cons .nil .nil)
  exact ((compile_eq_ok_iff_derives _).1 _).mpr ⟨_, derived, rfl⟩

end Dialect

end TextPattern
