import TextPattern.Proofs.Dialect.Fails
import TextPattern.Proofs.Dialect.QuantifierReading

/-!
# How quantifiers fail

A quantifier fails at a number that is missing or too large, at bounds that are
out of order or missing, and at a character that is not expected.
-/

namespace TextPattern

namespace Dialect

open Reading

/-- An error of a quantifier, which does not come from something that has no
end. -/
def QuantifierFault : Fault := fun error text rest =>
  Located error text rest ∧ ¬ error.Unclosed

namespace QuantifierFault

variable {error : Error} {text rest : List Char}

theorem append (fault : QuantifierFault error text rest)
    (head : List Char) : QuantifierFault error (head ++ text) rest :=
  ⟨fault.1.append head, fault.2⟩

theorem of_expect {c : Char} (missing : ExpectFault c error text rest) :
    QuantifierFault error text rest := by
  cases missing with
  | ended => exact ⟨rfl, id⟩
  | different _ => exact ⟨.inl (List.suffix_refl _), id⟩

end QuantifierFault

/-- A quantifier may break at a character that has to come next or after
it. -/
theorem afterExpect_quantifier_fails {β : Type} {c : Char}
    {next : Unit → Reading β} (second : Fails (next ()) QuantifierFault) :
    Fails (expect c >>= next) QuantifierFault := by
  apply second.afterExpect
  · intro error text rest missing
    exact .of_expect missing
  · intro error tail rest fault
    exact fault.append [c]

/-! ## Numbers and bounds -/

theorem takeWhile_nextOnly (test : Char → Bool) :
    Grammar.NextOnly fun (taken : List Char) text rest =>
      text = taken ∧ (∀ c ∈ taken, test c = true) ∧
        ∀ c ∈ rest.head?, test c = false := by
  intro taken text rest other same holds
  rw [same]
  exact holds

theorem readNumber_fails : Fails readNumber QuantifierFault := by
  have total : Fails (takeWhile Char.isDigit) fun _ _ _ => False :=
    takeWhile_fails
  apply Fails.bindNextOnly (takeWhile_reads Char.isDigit)
    (takeWhile_nextOnly _) total (fun _ => QuantifierFault)
  · intro digits
    cases Numeral.ofDigits? digits with
    | none => exact .throw fun _ => ⟨trivial, id⟩
    | some numeral => exact .pure
  · intro error text rest impossible
    exact impossible.elim
  · intro digits text error tail rest _ fault
    exact fault.append text

theorem boundEnds_nextOnly (ends : List Char) :
    Grammar.NextOnly fun bound text rest =>
      text = boundText bound ∧ BoundEnds ends bound rest := by
  intro bound text rest other same holds
  cases bound with
  | none =>
      simp only [BoundEnds, same]
      exact holds
  | some numeral =>
      simp only [BoundEnds, NoDigit, same]
      exact holds

theorem readBound_fails (ends : List Char) :
    Fails (readBound ends) QuantifierFault := by
  apply Fails.afterPeek (fun _ => QuantifierFault)
  · intro shown
    by_cases ended : shown.any ends.contains = true
    · simp only [ended, if_true]
      exact .pure
    · simp only [ended]
      exact readNumber_fails.map
  · intro error text rest fault
    exact fault

/-- A bound and then more. -/
theorem afterBound_fails {β : Type} {ends : List Char}
    {next : Option Numeral → Reading β}
    (noDigits : ∀ c ∈ ends, c.isDigit = false)
    (second : ∀ bound, Fails (next bound) QuantifierFault) :
    Fails (readBound ends >>= next) QuantifierFault := by
  apply Fails.bindNextOnly (readBound_reads noDigits)
    (boundEnds_nextOnly ends) (readBound_fails ends)
    (fun _ => QuantifierFault) second
  · intro error text rest fault
    exact fault
  · intro bound text error tail rest _ fault
    exact fault.append text

/-! ## Quantifiers -/

theorem quantifierOf_fails (first second : Option Numeral) :
    Fails (quantifierOf first second) QuantifierFault := by
  unfold quantifierOf
  split
  · exact .pure
  · exact .pure
  · exact .pure
  · next min max =>
    by_cases ordered : min.value ≤ max.value
    · rw [dif_pos ordered]
      exact .pure
    · rw [dif_neg ordered]
      exact .throw fun _ => ⟨trivial, id⟩

theorem readBracedFrom_fails (first : Option Numeral) :
    Fails (readBracedFrom first) QuantifierFault := by
  apply Fails.afterPeek (fun _ => QuantifierFault)
  · intro shown
    by_cases closes : (shown == some '\x7d') = true
    · simp only [closes, if_true]
      apply afterExpect_quantifier_fails
      cases first with
      | none => exact .throw fun _ => ⟨trivial, id⟩
      | some count => exact .pure
    · simp only [closes]
      apply afterExpect_quantifier_fails
      apply afterBound_fails (by simp)
      intro second
      apply afterExpect_quantifier_fails
      exact quantifierOf_fails first second
  · intro error text rest fault
    exact fault

theorem readBraced_fails : Fails readBraced QuantifierFault :=
  afterBound_fails (by simp) readBracedFrom_fails

theorem readQuantifier_fails : Fails readQuantifier QuantifierFault := by
  apply Fails.afterPeek (fun _ => QuantifierFault)
  · intro shown
    split
    · exact afterExpect_quantifier_fails .pure
    · exact afterExpect_quantifier_fails .pure
    · exact afterExpect_quantifier_fails .pure
    · exact afterExpect_quantifier_fails readBraced_fails.map
    · exact .pure
  · intro error text rest fault
    exact fault

theorem collect_quantifier_fails :
    Fails (collect readQuantifier) QuantifierFault := by
  have several := collect_fails readQuantifier_reads readQuantifier_fails
    (fun _ _ _ _ _ _ _ written _ _ => written)
    (fun written => by rw [written]; exact Quantifier.text_ne_nil _)
  apply several.mono
  intro error text rest holds
  obtain ⟨quantifiers, collected⟩ := holds
  exact collected.of_stop (fun head _ _ fault => fault.append head)
    fun _ _ fault => fault

end Dialect

end TextPattern
