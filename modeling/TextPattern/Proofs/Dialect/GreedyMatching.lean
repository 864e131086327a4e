import TextPattern.Proofs.Dialect.Acceptance
import TextPattern.Proofs.Dialect.Derivation
import TextPattern.Proofs.Extent.Building
import TextPattern.Proofs.FaultFreedom
import TextPattern.Proofs.PredicateAlgebra

/-!
# Greedy matching stays within what is derived

The pattern of an expression tries alternatives in order, repeats greedily and
never gives back, so it may miss what the expression derives.  What it does
match is derived.  A repetition that stops early at an empty match has made
fewer iterations than it may have to; the missing ones are empty too.
-/

namespace TextPattern

namespace Dialect

/-! ## Characters -/

theorem Shorthand.test_predicate_iff (members : Shorthand) (c : Char) :
    members.predicate.test c = true ↔ members.Accepts c := by
  cases members with
  | digit | notDigit | space | notSpace =>
      simp [predicate, Accepts, Predicate.test_negate, Predicate.test]
  | word => simp [predicate, Accepts, Predicate.test, or_comm]
  | notWord =>
      simp [predicate, Accepts, Predicate.test_negate, Predicate.test,
        and_comm]

/-- The test for one character. -/
theorem test_is_iff (meant c : Char) :
    (Predicate.is meant).test c = true ↔ c = meant := by
  rw [Predicate.test, beq_iff_eq]
  exact eq_comm

theorem Escape.test_predicate_iff (escape : Escape) (c : Char) :
    escape.predicate.test c = true ↔ escape.Accepts c := by
  cases escape with
  | shorthand members => exact members.test_predicate_iff c
  | char meant => exact test_is_iff meant c

theorem Member.test_predicate_iff (member : Member) (c : Char) :
    member.predicate.test c = true ↔ member.Accepts c := by
  cases member with
  | single meant => exact test_is_iff meant c
  | range lo hi => simp [predicate, Accepts, Predicate.test]
  | shorthand members => exact members.test_predicate_iff c

theorem CharClass.test_predicate_iff (cls : CharClass) (c : Char) :
    cls.predicate.test c = true ↔ cls.Accepts c := by
  have union :
      (Predicate.anyOf (cls.members.map Member.predicate)).test c = true ↔
        ∃ member ∈ cls.members, member.Accepts c := by
    rw [Predicate.test_anyOf_iff]
    constructor
    · intro holds
      obtain ⟨operand, operandMember, passes⟩ := holds
      obtain ⟨member, inside, rfl⟩ := List.mem_map.mp operandMember
      exact ⟨member, inside, (member.test_predicate_iff c).mp passes⟩
    · intro holds
      obtain ⟨member, inside, accepts⟩ := holds
      exact ⟨member.predicate, List.mem_map_of_mem inside,
        (member.test_predicate_iff c).mpr accepts⟩
  unfold predicate Accepts
  cases cls.negated with
  | false => exact union
  | true =>
      simp only [if_true, Predicate.test_negate, Bool.not_eq_true',
        ← union, Bool.not_eq_true]

section

variable {text : List Char} {first length : Nat}

/-- A match of one character is a character of the text that passes the
test. -/
theorem exists_char_of_extent {predicate : Predicate}
    (found : (Pattern.ofPredicate predicate).extent (text.drop first) =
      some length) :
    ∃ c, text[first]? = some c ∧ predicate.test c = true ∧ length = 1 := by
  rw [Pattern.extent_ofPredicate] at found
  cases shown : text.drop first with
  | nil =>
      rw [shown] at found
      cases found
  | cons c rest =>
      rw [shown] at found
      have head : text[first]? = some c := by
        rw [← List.head?_drop, shown]
        rfl
      simp only [Extent.char, Option.ite_none_right_eq_some,
        Option.some.injEq] at found
      exact ⟨c, head, found.1, found.2.symm⟩

/-! ## Iterations -/

/-- What the pattern of an expression matches in the text, the expression
derives there. -/
def Sound (text : List Char) (expr : Expr) : Prop :=
  ∀ ⦃first length : Nat⦄, first ≤ text.length →
    expr.toPattern.extent (text.drop first) = some length →
    Derives text expr first (first + length)

variable {operand : Expr}

/-- A match ends at a position of the text. -/
theorem add_le_of_extent (pattern : Pattern) (inside : first ≤ text.length)
    (found : pattern.extent (text.drop first) = some length) :
    first + length ≤ text.length := by
  have bound := pattern.extent_inside found
  rw [List.length_drop] at bound
  omega

/-- The mandatory iterations.  After an empty match the remaining ones are
taken to be empty as well. -/
theorem Sound.exactly (sound : Sound text operand) {count : Nat}
    (inside : first ≤ text.length)
    (found : Extent.exactly operand.toPattern.extent count
      (text.drop first) = some length) :
    DerivesTimes text operand count first (first + length) := by
  induction count generalizing first length with
  | zero =>
      cases found
      exact .zero
  | succ count ih =>
      simp only [Extent.exactly] at found
      split at found
      next => cases found
      next empty =>
        cases found
        exact .of_empty (sound inside empty) (count + 1)
      next head headFound =>
        obtain ⟨tail, tailFound, rfl⟩ := Option.map_eq_some_iff.mp found
        rw [List.drop_drop] at tailFound
        have iteration := sound inside headFound
        have others := ih (add_le_of_extent _ inside headFound) tailFound
        rw [Nat.add_assoc] at others
        exact .succ iteration others

/-- The greedy iterations, of which there are at most so many. -/
theorem Sound.atMost (sound : Sound text operand) (count : Nat)
    (inside : first ≤ text.length) :
    ∃ done ≤ count, DerivesTimes text operand done first
      (first + Extent.atMost operand.toPattern.extent count
        (text.drop first)) := by
  induction count generalizing first with
  | zero => exact ⟨0, Nat.le_refl 0, .zero⟩
  | succ count ih =>
      simp only [Extent.atMost]
      split
      next => exact ⟨0, Nat.zero_le _, .zero⟩
      next => exact ⟨0, Nat.zero_le _, .zero⟩
      next head headFound =>
        obtain ⟨done, bound, others⟩ :=
          ih (add_le_of_extent _ inside headFound)
        rw [List.drop_drop, ← Nat.add_assoc]
        exact ⟨done + 1, Nat.succ_le_succ bound,
          .succ (sound inside headFound) others⟩

theorem Sound.more (sound : Sound text operand) (min : Nat)
    (max : Option Nat) (inside : first ≤ text.length) :
    ∃ done, (∀ bound ∈ max, done ≤ bound - min) ∧
      DerivesTimes text operand done first
        (first + Extent.more min max operand.toPattern.extent
          (text.drop first)) := by
  cases max with
  | none =>
      obtain ⟨done, -, iterations⟩ := sound.atMost _ inside
      exact ⟨done, by simp, iterations⟩
  | some max =>
      obtain ⟨done, bound, iterations⟩ := sound.atMost (max - min) inside
      exact ⟨done, by simpa using bound, iterations⟩

theorem Sound.repeated (sound : Sound text operand) {min : Nat}
    {max : Option Nat} (ordered : ∀ bound ∈ max, min ≤ bound)
    (inside : first ≤ text.length)
    (found : Extent.repeated min max operand.toPattern.extent
      (text.drop first) = some length) :
    ∃ count, min ≤ count ∧ (∀ bound ∈ max, count ≤ bound) ∧
      DerivesTimes text operand count first (first + length) := by
  simp only [Extent.repeated] at found
  split at found
  next => cases found
  next head headFound =>
    cases found
    have reached : first + head ≤ text.length := by
      have bound := Extent.exactly_inside
        operand.toPattern.extent_inside min headFound
      rw [List.length_drop] at bound
      omega
    obtain ⟨done, bounds, greedy⟩ := sound.more min max reached
    rw [List.drop_drop, ← Nat.add_assoc]
    refine ⟨min + done, Nat.le_add_right _ _, fun bound member => ?_,
      (sound.exactly inside headFound).append greedy⟩
    have inOrder := ordered bound member
    have few := bounds bound member
    omega

/-- A quantifier makes a number of iterations that it allows. -/
theorem Sound.quantified (sound : Sound text operand)
    (quantifier : Quantifier) :
    Sound text (.quantified operand quantifier) := by
  intro first length inside found
  cases quantifier with
  | any | unbounded =>
      obtain ⟨count, -, -, iterations⟩ := sound.repeated (by simp) inside
        ((congrFun (Pattern.extent_atLeast 0 _) _).symm.trans found)
      exact .quantified trivial iterations
  | some =>
      obtain ⟨count, least, -, iterations⟩ := sound.repeated (by simp) inside
        ((congrFun (Pattern.extent_atLeast 1 _) _).symm.trans found)
      exact .quantified least iterations
  | atLeast min =>
      obtain ⟨count, least, -, iterations⟩ := sound.repeated (by simp) inside
        ((congrFun (Pattern.extent_atLeast min.value _) _).symm.trans found)
      exact .quantified least iterations
  | atMost max =>
      obtain ⟨count, -, most, iterations⟩ := sound.repeated (by simp) inside
        ((congrFun (Pattern.extent_atMost max.value _) _).symm.trans found)
      exact .quantified (most _ rfl) iterations
  | between min max ordered =>
      obtain ⟨count, least, most, iterations⟩ :=
        sound.repeated (by simpa using ordered) inside
          ((congrFun (Pattern.extent_between ordered _) _).symm.trans found)
      exact .quantified ⟨least, most _ rfl⟩ iterations
  | exactly bound =>
      have iterations := sound.exactly inside
        ((congrFun (Pattern.extent_rep bound.value _) _).symm.trans found)
      exact .quantified rfl iterations
  | optional =>
      have value : Extent.optional operand.toPattern.extent
          (text.drop first) = .some length :=
        (congrFun (Pattern.extent_opt _) _).symm.trans found
      simp only [Extent.optional, Option.some.injEq] at value
      cases result : operand.toPattern.extent (text.drop first) with
      | none =>
          rw [result] at value
          cases value
          exact .quantified (Nat.zero_le 1) .zero
      | some head =>
          rw [result] at value
          cases value
          exact .quantified (Nat.le_refl 1)
            (.succ (sound inside result) .zero)

/-! ## Expressions -/

theorem derivesAll_of_extent {items : List Expr}
    (sound : ∀ item ∈ items, Sound text item) (inside : first ≤ text.length)
    (found : Extent.sequence (items.map fun item => item.toPattern.extent)
      (text.drop first) = some length) :
    DerivesAll text items first (first + length) := by
  induction items generalizing first length with
  | nil =>
      cases found
      exact .nil
  | cons item items ih =>
      simp only [List.map_cons, Extent.sequence] at found
      split at found
      next => cases found
      next head headFound =>
        obtain ⟨tail, tailFound, rfl⟩ := Option.map_eq_some_iff.mp found
        rw [List.drop_drop] at tailFound
        have others := ih (fun other member =>
            sound other (List.mem_cons_of_mem _ member))
          (add_le_of_extent _ inside headFound) tailFound
        rw [Nat.add_assoc] at others
        exact .cons (sound item List.mem_cons_self inside headFound) others

mutual

theorem Expr.sound (text : List Char) (expr : Expr) : Sound text expr := by
  intro first length inside found
  cases expr with
  | anyChar =>
      obtain ⟨c, head, -, rfl⟩ := exists_char_of_extent found
      exact .anyChar (List.getElem?_eq_some_iff.mp head).1
  | windowEnd =>
      have ended : (text.drop first).length = 0 ∧ 0 = length := by
        simpa [Expr.toPattern, Pattern.windowEnd, Pattern.extent,
          Extent.hasExact] using found
      rw [List.length_drop] at ended
      have last : first = text.length := by omega
      rw [last, ← ended.2]
      exact .windowEnd
  | char meant =>
      obtain ⟨c, head, passes, rfl⟩ := exists_char_of_extent found
      have same : meant = c := by simpa [Predicate.test] using passes
      rw [same]
      exact .char head
  | escape written =>
      obtain ⟨c, head, passes, rfl⟩ := exists_char_of_extent found
      exact .escape head ((Escape.test_predicate_iff _ c).mp passes)
  | charClass members =>
      obtain ⟨c, head, passes, rfl⟩ := exists_char_of_extent found
      exact .charClass head ((members.test_predicate_iff c).mp passes)
  | group operand => exact .group (Expr.sound text operand inside found)
  | quantified operand quantifier =>
      exact (Expr.sound text operand).quantified quantifier inside found
  | sequence items =>
      rw [Expr.toPattern, Pattern.extent_seqOf, Expr.toPatterns_eq_map,
        List.map_map] at found
      exact .sequence
        (derivesAll_of_extent (Expr.all_sound text items) inside found)
  | alternatives branches =>
      rw [Expr.toPattern, Pattern.extent_anyOf, Expr.toPatterns_eq_map,
        List.map_map] at found
      obtain ⟨extent, member, branchFound⟩ :=
        List.exists_of_findSome?_eq_some found
      obtain ⟨branch, branchMember, rfl⟩ := List.mem_map.mp member
      exact .alternatives branchMember
        (Expr.all_sound text branches branch branchMember inside branchFound)

theorem Expr.all_sound (text : List Char) (exprs : List Expr) :
    ∀ expr ∈ exprs, Sound text expr := by
  intro expr member
  cases exprs with
  | nil => cases member
  | cons head tail =>
      rcases List.mem_cons.mp member with here | later
      · rw [here]
        exact Expr.sound text head
      · exact Expr.all_sound text tail expr later

end

end

/-- In every window, what a compiled expression matches belongs to the
expression: the tree that the expression writes derives it, from the first
position of the window's text on. -/
theorem compile_match_derives {expression : List Char} {pattern : Pattern}
    (compiled : compile expression = .ok pattern) :
    ∃ expr, ExprText maxNesting expr expression ∧
      ∀ (source : Source) (window : Window), source.Countable →
        window.Within source →
        ∃ result, pattern.matchIn source window = .ok result ∧
          ∀ length, result = some length →
            Derives (window.text source) expr 0 length := by
  obtain ⟨expr, written, rfl⟩ := exists_exprText_of_compile compiled
  refine ⟨expr, written, fun source window countable within => ?_⟩
  refine ⟨expr.toPattern.extent (window.text source),
    expr.toPattern_built.matchIn_eq_extent countable within, ?_⟩
  intro length found
  have derived := expr.sound (window.text source) (Nat.zero_le _) found
  rwa [Nat.zero_add] at derived

/-- Three iterations are asked for, but the loop stops at the first empty
one. -/
theorem compile_match_derives_early_stop :
    compile ['(', 'a', '?', ')', '\x7b', '3', '\x7d', '$'] =
        .ok (((Pattern.ofChar 'a').opt.rep 3).andThen Pattern.windowEnd) ∧
      ∃ expr, ExprText maxNesting expr
          ['(', 'a', '?', ')', '\x7b', '3', '\x7d', '$'] ∧
        ∀ (source : Source) (window : Window), source.Countable →
          window.Within source →
          ∃ result,
            (((Pattern.ofChar 'a').opt.rep 3).andThen
              Pattern.windowEnd).matchIn source window = .ok result ∧
            ∀ length, result = some length →
              Derives (window.text source) expr 0 length := by
  have inner : ExprText 127
      (.alternatives [.sequence [.quantified (.char 'a') .optional]])
      ['a', '?'] :=
    .alternatives (.cons (.quantified [.optional] (.char (by decide))) .nil)
      .nil
  have compiled :
      compile ['(', 'a', '?', ')', '\x7b', '3', '\x7d', '$'] =
        .ok (((Pattern.ofChar 'a').opt.rep 3).andThen
          Pattern.windowEnd) := by
    have derived : ExprText maxNesting _
        ['(', 'a', '?', ')', '\x7b', '3', '\x7d', '$'] :=
      .alternatives
        (.cons (.quantified
            [.exactly ⟨['3'], by decide, by decide, by decide⟩]
            (.group inner))
          (.cons (.quantified [] .windowEnd) .nil))
        .nil
    simp only [compile, parse_eq_ok_iff.mpr derived]
    rfl
  exact ⟨compiled, compile_match_derives compiled⟩

end Dialect

end TextPattern
