import TextPattern.Proofs.Dialect.Acceptance
import TextPattern.Proofs.Equivalence
import TextPattern.Proofs.Extent.Characters

/-!
# Quoting a text

A text can be written as an expression with a backslash before each character
that has no other meaning after one.  The expression is read back as one escape
or letter for each character, and the pattern matches that text, character by
character.  The digit zero is the exception: after a backslash it stands for the
null character, so a text in which it occurs is not read back as it was.
-/

namespace TextPattern

namespace Dialect

/-- The letters that stand for something else after a backslash. -/
def escapeLetters : List Char :=
  ['d', 'D', 'w', 'W', 's', 'S', 'n', 'r', 't']

/-- A character as it is quoted: with a backslash, unless it would lose its
meaning by it. -/
def quoteChar (c : Char) : List Char :=
  if c ∈ escapeLetters then [c] else ['\\', c]

def quote (text : List Char) : List Char :=
  text.flatMap quoteChar

/-- The character that a quoted character stands for. -/
def readBack (c : Char) : Char :=
  if c = '0' then '\x00' else c

def quotedExpr (c : Char) : Expr :=
  if c ∈ escapeLetters then .char c else .escape c

theorem escape_ofChar {c : Char} (other : c ∉ escapeLetters) :
    Escape.ofChar c = .char (readBack c) := by
  unfold Escape.ofChar
  split <;> simp_all [escapeLetters, readBack]

theorem quotedExpr_toPattern (c : Char) :
    (quotedExpr c).toPattern = Pattern.ofChar (readBack c) := by
  unfold quotedExpr
  split
  next letter =>
    have kept : readBack c = c := by
      apply if_neg
      rintro rfl
      exact absurd letter (by decide)
    rw [kept]
    rfl
  next other =>
    rw [Expr.toPattern, escape_ofChar other]
    rfl

theorem quotedExpr_written {room : Nat} (c : Char) :
    ItemText room (quotedExpr c) (quoteChar c) := by
  unfold quotedExpr quoteChar
  split
  next letter =>
    have plain : c ∉ reserved := by
      simp only [escapeLetters, List.mem_cons, List.not_mem_nil, or_false]
        at letter
      rcases letter with rfl | rfl | rfl | rfl | rfl | rfl | rfl | rfl | rfl
        <;> decide
    exact .quantified [] (.char plain)
  next => exact .quantified [] (.escape c)

theorem quotedExprs_written {room : Nat} (text : List Char) :
    ItemsText room (text.map quotedExpr) (quote text) := by
  induction text with
  | nil => exact .nil
  | cons c text ih => exact .cons (quotedExpr_written c) ih

/-- The expression that a quoted text writes. -/
theorem quote_written {room : Nat} (text : List Char) :
    ExprText room (.alternatives [.sequence (text.map quotedExpr)])
      (quote text) := by
  rw [← List.append_nil (quote text)]
  exact .alternatives (quotedExprs_written text) .nil

theorem quoted_extent (text : List Char) :
    (Expr.alternatives [.sequence (text.map quotedExpr)]).toPattern.extent =
      Extent.literal .sensitive (text.map readBack) := by
  have chars : (Expr.toPatterns (text.map quotedExpr)).map Pattern.extent =
      (text.map readBack).map fun c => Extent.char (.is c) := by
    rw [Expr.toPatterns_eq_map]
    simp only [List.map_map]
    congr 1
    funext c
    simp only [Function.comp_apply, quotedExpr_toPattern]
    exact Pattern.extent_ofPredicate _
  simp only [Expr.toPattern, Expr.toPatterns]
  rw [Pattern.extent_anyOf, List.map_singleton, Extent.choice_singleton,
    Pattern.extent_seqOf, chars]
  refine Extent.sequence_map_char (fun expected actual => ?_) _
  rw [Predicate.test, CaseRule.agree, Bool.beq_comm]

theorem map_readBack_eq_iff {text : List Char} :
    text.map readBack = text ↔ '0' ∉ text := by
  have kept : ∀ c, readBack c = c ↔ c ≠ '0' := by
    intro c
    unfold readBack
    split
    next zero => simp [zero]
    next other => simp [other]
  calc text.map readBack = text
      ↔ text.map readBack = text.map id := by rw [List.map_id]
    _ ↔ ∀ c ∈ text, c ≠ '0' := by
      simp only [List.map_inj_left, id, kept]
    _ ↔ '0' ∉ text := List.forall_mem_ne'

end Dialect

namespace Pattern

/-- A pattern of the extent of a text matches like another text only if the
texts are the same. -/
theorem Built.alike_ofText_iff {pattern : Pattern} {contents text : List Char}
    (built : pattern.Built)
    (same : pattern.extent = Extent.literal .sensitive contents)
    (counted : text.length < Count.limit) :
    pattern.Alike (Pattern.ofText .sensitive text) ↔ contents = text := by
  have textBuilt := Built.ofText .sensitive text
  constructor
  · intro alike
    -- The text itself is what the other pattern matches as a whole.
    have countable : Source.Countable (.buffer text.toArray) := counted
    have within : (Window.whole (.buffer text.toArray)).Within
        (.buffer text.toArray) := ⟨Nat.zero_le _, Nat.le_refl _⟩
    have shown : (Window.whole (.buffer text.toArray)).text
        (.buffer text.toArray) = text := Window.text_whole _
    obtain ⟨result, run, textRun⟩ := alike countable within
    rw [built.matchIn_eq_ok_iff countable within, shown, same] at run
    rw [textBuilt.matchIn_eq_ok_iff countable within, shown, extent_ofText,
      Extent.literal_eq_some_iff.mpr ⟨List.prefix_rfl, rfl⟩] at textRun
    rw [← textRun, Extent.literal_eq_some_iff] at run
    exact run.1.eq_of_length run.2
  · rintro rfl
    exact built.alike textBuilt (same.trans (extent_ofText _ _).symm)

end Pattern

namespace Dialect

/-- Every quoted text is accepted, and matches like the text with null
characters for its zeros.  So it matches like the text itself if and only if no
zero is in it. -/
theorem compile_quote (text : List Char) :
    ∃ pattern, compile (quote text) = .ok pattern ∧
      pattern.Alike (Pattern.ofText .sensitive (text.map readBack)) ∧
      (text.length < Count.limit →
        (pattern.Alike (Pattern.ofText .sensitive text) ↔ '0' ∉ text)) := by
  have built := Expr.toPattern_built
    (.alternatives [.sequence (text.map quotedExpr)])
  refine ⟨(Expr.alternatives [.sequence (text.map quotedExpr)]).toPattern,
    ?_, ?_, fun counted => ?_⟩
  · simp only [compile, parse_eq_ok_iff.mpr (quote_written text)]
  · exact built.alike (.ofText _ _)
      ((quoted_extent text).trans (Pattern.extent_ofText _ _).symm)
  · rw [built.alike_ofText_iff (quoted_extent text) counted,
      map_readBack_eq_iff]

/-- A letter that stays without a backslash, an operator, a backslash and a
line break. -/
theorem compile_quote_operator :
    ∃ pattern,
      compile ['d', '\\', '*', '\\', '\\', '\\', '\n'] = .ok pattern ∧
      pattern.Alike (Pattern.ofText .sensitive ['d', '*', '\\', '\n']) := by
  obtain ⟨pattern, compiled, -, alike_iff⟩ :=
    compile_quote ['d', '*', '\\', '\n']
  exact ⟨pattern, compiled, (alike_iff (by decide)).mpr (by decide)⟩

/-- A zero after a backslash is not taken as it stands. -/
theorem compile_quote_zero :
    compile (quote ['0']) = .ok (Pattern.ofChar '\x00') ∧
      ¬ (Pattern.ofChar '\x00').Alike (Pattern.ofText .sensitive ['0']) := by
  constructor
  · simp only [compile, parse_eq_ok_iff.mpr (quote_written ['0'])]
    rfl
  · have built : (Pattern.ofChar '\x00').Built := .ofPredicate _
    have null : (Pattern.ofChar '\x00').extent =
        Extent.literal .sensitive ['\x00'] := quoted_extent ['0']
    rw [built.alike_ofText_iff null (by decide)]
    decide

end Dialect

end TextPattern
