import TextPattern.Dialect.Reader
import TextPattern.Proofs.Dialect.Fails

/-!
# Readings with a limit

A reading with room for fewer groups gives what a reading with more room gives,
unless it gives up at a group for which there is no room.  `Agrees` states this
with the text that is read before the reading gives up.  Most readings open no
groups and never give up.
-/

namespace TextPattern

namespace Dialect

open Reading

/-! ## Readings that never give up -/

/-- The error says that too many groups are open. -/
def Error.TooDeep : Error → Prop
  | nestedTooDeep _ => True
  | _ => False

/-- The reading never gives up because too many groups are open. -/
def Steadfast {α : Type} (reading : Reading α) : Prop :=
  ∀ before error after, reading before = .error error after → ¬ error.TooDeep

namespace Steadfast

variable {α β : Type} {reading : Reading α} {next : α → Reading β}

theorem of_total (total : ∀ before, ∃ value after,
    reading before = .ok value after) : Steadfast reading := by
  intro before error after failed
  obtain ⟨value, last, ran⟩ := total before
  rw [ran] at failed
  cases failed

theorem pure {value : α} : Steadfast (pure value) :=
  of_total fun before => ⟨value, before, rfl⟩

theorem throw {error : Error} (other : ¬ error.TooDeep) :
    Steadfast (throw error : Reading α) := by
  intro before found after failed
  cases failed
  exact other

theorem bind (first : Steadfast reading)
    (second : ∀ value, Steadfast (next value)) :
    Steadfast (reading >>= next) := by
  intro before error last failed
  rcases bind_eq_error_iff.mp failed with stopped | ⟨value, middle, -,
    continued⟩
  · exact first before error last stopped
  · exact second value middle error last continued

theorem map {f : α → β} (first : Steadfast reading) :
    Steadfast (reading >>= fun value => Pure.pure (f value)) :=
  first.bind fun _ => pure

theorem collect {step : Reading (Option α)} (steps : Steadfast step) :
    Steadfast (collect step) := by
  intro before error last failed
  fun_induction Reading.collect step before with
  | case1 before found after stopped =>
      cases failed
      exact steps before error _ stopped
  | case2 before after stopped => cases failed
  | case3 before value middle read shorter found after stopped ih =>
      cases failed
      exact ih stopped
  | case4 before value middle read shorter others after more ih =>
      cases failed
  | case5 before value middle read longer => cases failed

end Steadfast

theorem peek_steadfast : Steadfast peek :=
  .of_total fun before => ⟨_, before, rfl⟩

theorem unread_steadfast : Steadfast unread :=
  .of_total fun before => ⟨_, before, rfl⟩

theorem takeWhile_steadfast (test : Char → Bool) :
    Steadfast (takeWhile test) :=
  .of_total fun _ => ⟨_, _, rfl⟩

theorem next_steadfast : Steadfast next := by
  apply Steadfast.of_total
  intro before
  unfold next
  cases before.rest with
  | nil => exact ⟨_, _, rfl⟩
  | cons c rest => exact ⟨_, _, rfl⟩

theorem expect_steadfast (c : Char) : Steadfast (expect c) := by
  apply next_steadfast.bind
  intro shown
  cases shown with
  | none => exact .throw id
  | some actual =>
      by_cases same : actual = c
      · simp only [same, if_true]
        exact .pure
      · simp only [if_neg same]
        exact .throw id

/-! ## Classes -/

theorem readEscaped_steadfast : Steadfast readEscaped := by
  apply next_steadfast.bind
  intro shown
  cases shown with
  | none => exact .throw id
  | some c => exact .pure

theorem readRangeFrom_steadfast (lo : Char) :
    Steadfast (readRangeFrom lo) := by
  apply unread_steadfast.bind
  intro rest
  by_cases range : atRange rest = true
  · simp only [range, if_true]
    apply (expect_steadfast '-').bind
    intro _
    apply next_steadfast.bind
    intro shown
    cases shown with
    | none => exact .throw id
    | some c =>
        by_cases escape : c = '\\'
        · simp only [escape, if_true]
          apply readEscaped_steadfast.bind
          intro written
          cases Escape.ofChar written with
          | char hi => exact .pure
          | shorthand members => exact .throw id
        · simp only [if_neg escape]
          exact .pure
  · simp only [range]
    exact .pure

theorem readMemberFrom_steadfast (c : Char) :
    Steadfast (readMemberFrom c) := by
  unfold readMemberFrom
  by_cases escape : c = '\\'
  · simp only [escape, if_true]
    apply readEscaped_steadfast.bind
    intro written
    cases Escape.ofChar written with
    | char lo => exact readRangeFrom_steadfast lo
    | shorthand members => exact .pure
  · simp only [if_neg escape]
    exact readRangeFrom_steadfast c

theorem readMembers_steadfast (negated : Bool) :
    Steadfast (readMembers negated) := by
  have first : Steadfast readFirstMember := by
    apply next_steadfast.bind
    intro shown
    cases shown with
    | none => exact .throw id
    | some c => exact readMemberFrom_steadfast c
  have later : Steadfast readLaterMember := by
    apply next_steadfast.bind
    intro shown
    split
    · exact .throw id
    · exact .pure
    · exact (readMemberFrom_steadfast _).map
  exact first.bind fun _ => later.collect.map

theorem readClass_steadfast : Steadfast readClass := by
  apply peek_steadfast.bind
  intro shown
  by_cases caret : (shown == some '^') = true
  · simp only [caret, if_true]
    exact (expect_steadfast '^').bind fun _ => readMembers_steadfast true
  · simp only [caret]
    exact readMembers_steadfast false

/-! ## Quantifiers -/

theorem readBound_steadfast (ends : List Char) :
    Steadfast (readBound ends) := by
  apply peek_steadfast.bind
  intro shown
  by_cases ended : shown.any ends.contains = true
  · simp only [ended, if_true]
    exact .pure
  · simp only [ended]
    apply Steadfast.map
    apply (takeWhile_steadfast _).bind
    intro digits
    cases Numeral.ofDigits? digits with
    | none => exact .throw id
    | some numeral => exact .pure

theorem quantifierOf_steadfast (first second : Option Numeral) :
    Steadfast (quantifierOf first second) := by
  cases first with
  | none =>
      cases second with
      | none => exact .pure
      | some max => exact .pure
  | some min =>
      cases second with
      | none => exact .pure
      | some max =>
          unfold quantifierOf
          by_cases ordered : min.value ≤ max.value
          · simp only [dif_pos ordered]
            exact .pure
          · simp only [dif_neg ordered]
            exact .throw id

theorem readBraced_steadfast : Steadfast readBraced := by
  apply (readBound_steadfast _).bind
  intro first
  apply peek_steadfast.bind
  intro shown
  by_cases closes : (shown == some '\x7d') = true
  · simp only [closes, if_true]
    apply (expect_steadfast _).bind
    intro _
    cases first with
    | none => exact .throw id
    | some count => exact .pure
  · simp only [closes]
    apply (expect_steadfast _).bind
    intro _
    apply (readBound_steadfast _).bind
    intro second
    exact (expect_steadfast _).bind fun _ => quantifierOf_steadfast _ _

theorem readQuantifier_steadfast : Steadfast readQuantifier := by
  apply peek_steadfast.bind
  intro shown
  split
  · exact (expect_steadfast _).map
  · exact (expect_steadfast _).map
  · exact (expect_steadfast _).map
  · exact (expect_steadfast _).bind fun _ => readBraced_steadfast.map
  · exact .pure

theorem readGroupEnd_steadfast : Steadfast readGroupEnd := by
  apply next_steadfast.bind
  intro shown
  split
  · exact .pure
  · exact .throw id

/-! ## Readings that agree -/

/-- The limited reading gives what the full one gives, or it gives up after a
deep text. -/
structure Agrees {α : Type} (limited full : Reading α)
    (deep : List Char → Prop) : Prop where
  ok {before after : Cursor} {value : α} :
    limited before = .ok value after → full before = .ok value after
  error {before after : Cursor} {error : Error} :
    limited before = .error error after →
    (full before = .error error after ∧ ¬ error.TooDeep) ∨
      error = .nestedTooDeep maxNesting ∧
        ∃ text, Spans before text after ∧ deep text

namespace Agrees

variable {α β : Type} {limited full : Reading α}
  {next nextFull : α → Reading β} {deep whole : List Char → Prop}

theorem refl {reading : Reading α} (steadfast : Steadfast reading) :
    Agrees reading reading deep where
  ok ran := ran
  error failed := .inl ⟨failed, steadfast _ _ _ failed⟩

theorem throw (holds : deep []) :
    Agrees (throw (.nestedTooDeep maxNesting)) full deep where
  ok ran := by cases ran
  error failed := by
    cases failed
    exact .inr ⟨rfl, [], ⟨rfl, rfl⟩, holds⟩

/-- The second readings start at the same place unless the first one gives
up. -/
theorem bind {grammar : Grammar α} (reads : Reads limited grammar)
    (first : Agrees limited full deep) (late : α → List Char → Prop)
    (second : ∀ value, Agrees (next value) (nextFull value) (late value))
    (early : ∀ text, deep text → whole text)
    (append : ∀ value head tail rest, grammar value head (tail ++ rest) →
      late value tail → whole (head ++ tail)) :
    Agrees (limited >>= next) (full >>= nextFull) whole where
  ok {before after result} ran := by
    obtain ⟨value, middle, head, tail⟩ := bind_eq_ok_iff.mp ran
    exact bind_eq_ok_iff.mpr
      ⟨value, middle, first.ok head, (second value).ok tail⟩
  error {before after error} failed := by
    rcases bind_eq_error_iff.mp failed with stopped | ⟨value, middle, ran,
      continued⟩
    · rcases first.error stopped with ⟨same, other⟩ | ⟨tooDeep, text, spans,
        holds⟩
      · exact .inl ⟨bind_eq_error_iff.mpr (.inl same), other⟩
      · exact .inr ⟨tooDeep, text, spans, early text holds⟩
    · rcases (second value).error continued with ⟨same, other⟩ | ⟨tooDeep,
        tail, spans, holds⟩
      · exact .inl ⟨bind_eq_error_iff.mpr
          (.inr ⟨value, middle, first.ok ran, same⟩), other⟩
      · -- What the first reading has read comes before the deep text.
        obtain ⟨head, headSpans, headHolds⟩ := (reads _ _ _).mp ran
        rw [spans.rest] at headHolds
        exact .inr ⟨tooDeep, head ++ tail, headSpans.trans spans,
          append _ _ _ _ headHolds holds⟩

/-- Both readings start in the same way. -/
theorem after {first : Reading α} {grammar : Grammar α}
    (reads : Reads first grammar) (steadfast : Steadfast first)
    (late : α → List Char → Prop)
    (second : ∀ value, Agrees (next value) (nextFull value) (late value))
    (append : ∀ value head tail rest, grammar value head (tail ++ rest) →
      late value tail → whole (head ++ tail)) :
    Agrees (first >>= next) (first >>= nextFull) whole := by
  have same : Agrees first first fun _ => False := refl steadfast
  exact same.bind reads late second (fun _ none => none.elim) append

/-- Putting a value into another one changes nothing. -/
theorem map {f : α → β} {grammar : Grammar α}
    (reads : Reads limited grammar) (agrees : Agrees limited full deep) :
    Agrees (limited >>= fun value => Pure.pure (f value))
      (full >>= fun value => Pure.pure (f value)) deep := by
  apply agrees.bind reads (fun _ _ => False)
  · exact fun _ => refl .pure
  · exact fun _ holds => holds
  · exact fun _ _ _ _ _ none => none.elim

variable {step stepFull : Reading (Option α)} {piece : Grammar α}
  {stop : List Char → List Char → Prop}

theorem collect_ok (agrees : Agrees step stepFull deep)
    {before last : Cursor} {values : List α}
    (ran : collect step before = .ok values last) :
    collect stepFull before = .ok values last := by
  fun_induction Reading.collect step before generalizing values with
  | case1 before error after stopped => cases ran
  | case2 before after stopped =>
      cases ran
      rw [Reading.collect, agrees.ok stopped]
  | case3 before value middle read shorter error after stopped ih =>
      cases ran
  | case4 before value middle read shorter others after more ih =>
      cases ran
      rw [Reading.collect, agrees.ok read]
      simp only [shorter, if_true, ih more]
  | case5 before value middle read longer =>
      cases ran
      rw [Reading.collect, agrees.ok read]
      simp only [longer, if_false]

/-- A text stays deep with more pieces before it. -/
theorem collect (steps : Reads step (piece.orStop stop))
    (agrees : Agrees step stepFull deep)
    (append : ∀ value head tail rest,
      piece value head rest → deep tail → deep (head ++ tail)) :
    Agrees (collect step) (collect stepFull) deep where
  ok := agrees.collect_ok
  error {before last error} failed := by
    fun_induction Reading.collect step before with
    | case1 before found after stopped =>
        cases failed
        rcases agrees.error stopped with ⟨same, other⟩ | gaveUp
        · refine .inl ⟨?_, other⟩
          rw [Reading.collect, same]
        · exact .inr gaveUp
    | case2 before after stopped => cases failed
    | case3 before value middle read shorter found after stopped ih =>
        cases failed
        rcases ih stopped with ⟨same, other⟩ | ⟨tooDeep, tail, spans, holds⟩
        · refine .inl ⟨?_, other⟩
          rw [Reading.collect, agrees.ok read]
          simp only [shorter, if_true, same]
        · obtain ⟨head, headSpans, isPiece⟩ := (steps _ _ _).mp read
          exact .inr ⟨tooDeep, head ++ tail, headSpans.trans spans,
            append _ _ _ _ isPiece holds⟩
    | case4 before value middle read shorter others after more ih =>
        cases failed
    | case5 before value middle read longer => cases failed

end Agrees

end Dialect

end TextPattern
