import TextPattern.Dialect.Cursor

/-!
# What a reading accepts

A reading that succeeds has read some text, and whether it succeeds may depend
on what follows.  `Reads` states this as a relation between the value, the text
that was read and the text that is left.  The relation of a composed reading
follows from the relations of its parts.
-/

namespace TextPattern

namespace Dialect

/-- The text lies between two cursors. -/
structure Spans (before : Cursor) (text : List Char) (after : Cursor) :
    Prop where
  rest : before.rest = text ++ after.rest
  position : after.position = before.position + text.length

namespace Spans

variable {before middle after : Cursor} {text first second : List Char}

theorem empty_iff : Spans before [] after ↔ before = after := by
  constructor
  · intro spans
    cases before
    cases after
    have rest := spans.rest
    have position := spans.position
    simp only [List.nil_append, List.length_nil, Nat.add_zero]
      at rest position
    rw [rest, position]
  · intro same
    rw [same]
    exact ⟨rfl, rfl⟩

theorem trans (head : Spans before first middle)
    (tail : Spans middle second after) :
    Spans before (first ++ second) after where
  rest := by rw [head.rest, tail.rest, List.append_assoc]
  position := by
    rw [tail.position, head.position, List.length_append, Nat.add_assoc]

/-- A span of two texts passes a cursor between them. -/
theorem split (spans : Spans before (first ++ second) after) :
    ∃ middle, Spans before first middle ∧ Spans middle second after ∧
      middle.rest = second ++ after.rest := by
  refine ⟨⟨second ++ after.rest, before.position + first.length⟩, ?_, ?_,
    rfl⟩
  · exact ⟨by rw [spans.rest, List.append_assoc], rfl⟩
  · refine ⟨rfl, ?_⟩
    rw [spans.position, List.length_append, Nat.add_assoc]

theorem unread_shrinks (spans : Spans before text after)
    (consumed : text ≠ []) : after.rest.length < before.rest.length := by
  have positive : 0 < text.length := List.length_pos_iff.mpr consumed
  rw [spans.rest, List.length_append]
  omega

theorem mem_head? {head : Char} (spans : Spans before text after)
    (shown : head ∈ text.head?) : head ∈ before.rest.head? := by
  rw [spans.rest, List.head?_append, Option.mem_def.mp shown]
  rfl

end Spans

/-- A value, the text it was read from and the text that follows. -/
abbrev Grammar (α : Type) := α → List Char → List Char → Prop

/-- The reading succeeds exactly on what the grammar relates. -/
def Reads {α : Type} (reading : Reading α) (grammar : Grammar α) : Prop :=
  ∀ before value after, reading before = .ok value after ↔
    ∃ text, Spans before text after ∧ grammar value text after.rest

theorem bind_eq_ok_iff {α β : Type} {reading : Reading α}
    {next : α → Reading β} {before last : Cursor} {result : β} :
    (reading >>= next) before = .ok result last ↔
      ∃ value middle, reading before = .ok value middle ∧
        next value middle = .ok result last := by
  simp only [Bind.bind, EStateM.bind]
  cases reading before with
  | ok value middle => simp [and_assoc]
  | error error middle => simp

namespace Reads

variable {α β : Type} {reading : Reading α} {grammar : Grammar α}

theorem congr {other : Grammar α} (reads : Reads reading grammar)
    (same : ∀ value text rest,
      grammar value text rest ↔ other value text rest) :
    Reads reading other := by
  intro before value after
  simp only [reads before value after, same]

/-- What is read from a text with more text after it. -/
theorem run {text rest : List Char} (reads : Reads reading grammar)
    (position : Nat) (value : α) (holds : grammar value text rest) :
    reading ⟨text ++ rest, position⟩ =
      .ok value ⟨rest, position + text.length⟩ :=
  (reads _ _ _).mpr ⟨text, ⟨rfl, rfl⟩, holds⟩

/-- A text and what follows it determine the value. -/
theorem unique {left right : α} {text rest : List Char}
    (reads : Reads reading grammar) (first : grammar left text rest)
    (second : grammar right text rest) : left = right := by
  have ran := reads.run 0 left first
  rw [reads.run 0 right second] at ran
  injection ran with same
  exact same.symm

/-- A text can be read in one way only: the value and how far it reaches are
determined by what the text starts with. -/
theorem eq_of_append_eq {left right : α}
    {leftText rightText leftRest rightRest : List Char}
    (reads : Reads reading grammar)
    (same : leftText ++ leftRest = rightText ++ rightRest)
    (first : grammar left leftText leftRest)
    (second : grammar right rightText rightRest) :
    left = right ∧ leftText = rightText := by
  have ran := reads.run 0 left first
  rw [same, reads.run 0 right second] at ran
  injection ran with value cursor
  injection cursor with rest position
  refine ⟨value.symm, ?_⟩
  rw [rest] at same
  exact List.append_cancel_right same

/-- The reading fails on every other text. -/
theorem exists_error_iff (reads : Reads reading grammar) {before : Cursor} :
    (∃ error after, reading before = .error error after) ↔
      ∀ value text rest, before.rest = text ++ rest →
        ¬ grammar value text rest := by
  constructor
  · intro failed value text rest shown holds
    obtain ⟨error, after, failed⟩ := failed
    obtain ⟨unread, position⟩ := before
    simp only at shown
    rw [shown, reads.run position value holds] at failed
    cases failed
  · intro none
    cases ran : reading before with
    | error error after => exact ⟨error, after, rfl⟩
    | ok value after =>
        obtain ⟨text, spans, holds⟩ := (reads _ _ _).mp ran
        exact absurd holds (none value text after.rest spans.rest)

/-- The second reading starts where the first one ended. -/
theorem bind {next : α → Reading β} {whole : Grammar β}
    (first : Reads reading grammar) (after : α → Grammar β)
    (second : ∀ value, Reads (next value) (after value))
    (same : ∀ result text rest, whole result text rest ↔
      ∃ value head tail, text = head ++ tail ∧
        grammar value head (tail ++ rest) ∧ after value result tail rest) :
    Reads (reading >>= next) whole := by
  intro before result last
  rw [bind_eq_ok_iff]
  constructor
  · intro holds
    obtain ⟨value, middle, ran, continued⟩ := holds
    obtain ⟨head, headSpans, headHolds⟩ := (first _ _ _).mp ran
    obtain ⟨tail, tailSpans, tailHolds⟩ := (second value _ _ _).mp continued
    refine ⟨head ++ tail, headSpans.trans tailSpans, (same _ _ _).mpr ?_⟩
    rw [tailSpans.rest] at headHolds
    exact ⟨value, head, tail, rfl, headHolds, tailHolds⟩
  · intro holds
    obtain ⟨text, spans, holds⟩ := holds
    obtain ⟨value, head, tail, joined, headHolds, tailHolds⟩ :=
      (same _ _ _).mp holds
    rw [joined] at spans
    obtain ⟨middle, headSpans, tailSpans, shown⟩ := spans.split
    rw [← shown] at headHolds
    exact ⟨value, middle, (first _ _ _).mpr ⟨head, headSpans, headHolds⟩,
      (second value _ _ _).mpr ⟨tail, tailSpans, tailHolds⟩⟩

theorem pure {value : α} (same : ∀ result text rest,
      grammar result text rest ↔ result = value ∧ text = []) :
    Reads (pure value) grammar := by
  intro before result after
  have returned : (Pure.pure value : Reading α) before = .ok result after ↔
      result = value ∧ before = after := by
    simp only [Pure.pure, EStateM.pure, EStateM.Result.ok.injEq,
      eq_comm]
  rw [returned]
  constructor
  · intro holds
    obtain ⟨sameValue, sameCursor⟩ := holds
    exact ⟨[], Spans.empty_iff.mpr sameCursor,
      (same _ _ _).mpr ⟨sameValue, rfl⟩⟩
  · intro holds
    obtain ⟨text, spans, holds⟩ := holds
    obtain ⟨sameValue, empty⟩ := (same _ _ _).mp holds
    rw [empty] at spans
    exact ⟨sameValue, Spans.empty_iff.mp spans⟩

theorem throw {error : Error}
    (none : ∀ result text rest, ¬ grammar result text rest) :
    Reads (throw error) grammar := by
  intro before result after
  constructor
  · intro returned
    cases returned
  · intro holds
    obtain ⟨text, spans, holds⟩ := holds
    exact absurd holds (none _ _ _)

end Reads

namespace Reading

/-! ## Single steps -/

theorem peek_reads :
    Reads peek fun shown text rest => text = [] ∧ rest.head? = shown := by
  intro before shown after
  simp only [peek, EStateM.Result.ok.injEq]
  constructor
  · intro holds
    obtain ⟨same, rfl⟩ := holds
    exact ⟨[], Spans.empty_iff.mpr rfl, rfl, same⟩
  · intro holds
    obtain ⟨text, spans, rfl, same⟩ := holds
    rw [Spans.empty_iff.mp spans]
    exact ⟨same, rfl⟩

theorem unread_reads :
    Reads unread fun shown text rest => text = [] ∧ rest = shown := by
  intro before shown after
  simp only [unread, EStateM.Result.ok.injEq]
  constructor
  · intro holds
    obtain ⟨same, rfl⟩ := holds
    exact ⟨[], Spans.empty_iff.mpr rfl, rfl, same⟩
  · intro holds
    obtain ⟨text, spans, rfl, same⟩ := holds
    rw [Spans.empty_iff.mp spans]
    exact ⟨same, rfl⟩

theorem next_reads :
    Reads next fun shown text rest =>
      text = shown.toList ∧ (shown = none → rest = []) := by
  rintro ⟨unread, position⟩ shown ⟨rest, last⟩
  cases unread with
  | nil =>
      simp only [next, EStateM.Result.ok.injEq, Cursor.mk.injEq]
      constructor
      · intro holds
        obtain ⟨rfl, rfl, rfl⟩ := holds
        exact ⟨[], ⟨rfl, rfl⟩, rfl, fun _ => rfl⟩
      · intro holds
        obtain ⟨text, ⟨shows, moved⟩, rfl, ended⟩ := holds
        cases shown with
        | none => exact ⟨rfl, (ended rfl).symm, moved.symm⟩
        | some c => cases shows
  | cons c unread =>
      simp only [next, EStateM.Result.ok.injEq, Cursor.mk.injEq]
      constructor
      · intro holds
        obtain ⟨rfl, rfl, rfl⟩ := holds
        exact ⟨[c], ⟨rfl, rfl⟩, rfl, fun none => nomatch none⟩
      · intro holds
        obtain ⟨text, ⟨shows, moved⟩, rfl, ended⟩ := holds
        cases shown with
        | none =>
            simp only [ended rfl] at shows
            cases shows
        | some shown =>
            cases shows
            exact ⟨rfl, rfl, moved.symm⟩

theorem takeWhile_reads (test : Char → Bool) :
    Reads (takeWhile test) fun taken text rest =>
      text = taken ∧ (∀ c ∈ taken, test c = true) ∧
        ∀ c ∈ rest.head?, test c = false := by
  intro before taken after
  simp only [takeWhile, EStateM.Result.ok.injEq]
  constructor
  · intro holds
    obtain ⟨rfl, rfl⟩ := holds
    refine ⟨_, ⟨?_, rfl⟩, rfl, ?_, ?_⟩
    · exact List.takeWhile_append_dropWhile.symm
    · exact List.all_eq_true.mp List.all_takeWhile
    · intro c head
      have stopped := List.head?_dropWhile_not test before.rest
      rw [Option.mem_def.mp head] at stopped
      simpa using stopped
  · intro holds
    obtain ⟨text, spans, rfl, pass, stops⟩ := holds
    have taken : before.rest.takeWhile test = text := by
      rw [spans.rest, List.takeWhile_append_of_pos pass]
      cases left : after.rest with
      | nil => simp
      | cons c rest =>
          rw [left] at stops
          simp [stops c rfl]
    have dropped : before.rest.dropWhile test = after.rest := by
      rw [spans.rest, List.dropWhile_append_of_pos pass]
      cases left : after.rest with
      | nil => rfl
      | cons c rest =>
          rw [left] at stops
          simp [stops c rfl]
    refine ⟨taken, ?_⟩
    rw [taken, dropped, ← spans.position]

end Reading

namespace Reads

open Reading

variable {α β : Type} {whole : Grammar β}

/-! ## What comes after a single step -/

/-- The value is only put into another one. -/
theorem map {reading : Reading α} {grammar : Grammar α} {f : α → β}
    (reads : Reads reading grammar)
    (same : ∀ result text rest, whole result text rest ↔
      ∃ value, result = f value ∧ grammar value text rest) :
    Reads (reading >>= fun value => Pure.pure (f value)) whole := by
  apply reads.bind
    (fun value result text _ => result = f value ∧ text = [])
  · exact fun value => .pure fun _ _ _ => Iff.rfl
  · intro result text rest
    rw [same]
    constructor
    · intro holds
      obtain ⟨value, made, holds⟩ := holds
      exact ⟨value, text, [], (List.append_nil text).symm, holds, made, rfl⟩
    · intro holds
      obtain ⟨value, _, _, rfl, holds, made, rfl⟩ := holds
      rw [List.append_nil]
      exact ⟨value, made, holds⟩

/-- The next character decides, and there has to be one. -/
theorem afterNext {next : Option Char → Reading β} {error : Error}
    (after : Char → Grammar β) (ended : next none = MonadExcept.throw error)
    (second : ∀ c, Reads (next (some c)) (after c))
    (same : ∀ result text rest, whole result text rest ↔
      ∃ c tail, text = c :: tail ∧ after c result tail rest) :
    Reads (Reading.next >>= next) whole := by
  apply next_reads.bind
    (fun shown result text rest =>
      ∃ c, shown = some c ∧ after c result text rest)
  · intro shown
    cases shown with
    | none =>
        rw [ended]
        exact .throw (by simp)
    | some c => exact (second c).congr (by simp)
  · intro result text rest
    rw [same]
    constructor
    · intro holds
      obtain ⟨c, tail, rfl, holds⟩ := holds
      exact ⟨some c, [c], tail, rfl, ⟨rfl, fun none => nomatch none⟩, c, rfl,
        holds⟩
    · intro holds
      obtain ⟨_, _, tail, rfl, ⟨rfl, -⟩, c, rfl, holds⟩ := holds
      exact ⟨c, tail, rfl, holds⟩

/-- The next character decides and stays unread. -/
theorem afterPeek {next : Option Char → Reading β}
    (after : Option Char → Grammar β)
    (second : ∀ shown, Reads (next shown) (after shown))
    (same : ∀ result text rest, whole result text rest ↔
      after (text ++ rest).head? result text rest) :
    Reads (peek >>= next) whole := by
  refine peek_reads.bind after second fun result text rest => ?_
  rw [same]
  constructor
  · intro holds
    exact ⟨_, [], text, rfl, ⟨rfl, rfl⟩, holds⟩
  · intro holds
    obtain ⟨_, _, tail, rfl, ⟨rfl, rfl⟩, holds⟩ := holds
    exact holds

/-- The unread text decides. -/
theorem afterUnread {next : List Char → Reading β}
    (after : List Char → Grammar β)
    (second : ∀ shown, Reads (next shown) (after shown))
    (same : ∀ result text rest, whole result text rest ↔
      after (text ++ rest) result text rest) :
    Reads (unread >>= next) whole := by
  refine unread_reads.bind after second fun result text rest => ?_
  rw [same]
  constructor
  · intro holds
    exact ⟨_, [], text, rfl, ⟨rfl, rfl⟩, holds⟩
  · intro holds
    obtain ⟨_, _, tail, rfl, ⟨rfl, rfl⟩, holds⟩ := holds
    exact holds

end Reads

namespace Reading

theorem expect_reads (c : Char) :
    Reads (expect c) fun _ text _ => text = [c] := by
  apply Reads.afterNext (fun actual _ text _ =>
    actual = c ∧ text = []) rfl
  · intro actual
    by_cases same : actual = c
    · simp only [same, if_true]
      exact .pure (by simp)
    · simp only [if_neg same]
      exact .throw (by simp [same])
  · intro _ text rest
    constructor
    · rintro rfl
      exact ⟨c, [], rfl, rfl, rfl⟩
    · intro holds
      obtain ⟨_, _, rfl, rfl, rfl⟩ := holds
      rfl

end Reading

/-- A given character and then more. -/
theorem Reads.afterExpect {β : Type} {whole after : Grammar β} {c : Char}
    {next : Unit → Reading β} (second : Reads (next ()) after)
    (same : ∀ result text rest, whole result text rest ↔
      ∃ tail, text = c :: tail ∧ after result tail rest) :
    Reads (Reading.expect c >>= next) whole := by
  refine (Reading.expect_reads c).bind _ (fun _ => second)
    fun result text rest => ?_
  rw [same]
  constructor
  · intro holds
    obtain ⟨tail, rfl, holds⟩ := holds
    exact ⟨(), [c], tail, rfl, rfl, holds⟩
  · intro holds
    obtain ⟨_, _, tail, rfl, rfl, holds⟩ := holds
    exact ⟨tail, rfl, holds⟩

/-! ## Steps taken again and again -/

/-- What a step reads that gives a value or stops. -/
def Grammar.orStop {α : Type} (piece : Grammar α)
    (stop : List Char → List Char → Prop) : Grammar (Option α)
  | some value => piece value
  | none => stop

/-- Pieces one after the other, and what makes the reading stop. -/
inductive Collected {α : Type} (piece : Grammar α)
    (stop : List Char → List Char → Prop) : Grammar (List α) where
  | nil {text rest : List Char} :
      stop text rest → Collected piece stop [] text rest
  | cons {value : α} {values : List α} {text more rest : List Char} :
      piece value text (more ++ rest) →
      Collected piece stop values more rest →
      Collected piece stop (value :: values) (text ++ more) rest

namespace Reading

variable {α : Type} {step : Reading (Option α)} {piece : Grammar α}
  {stop : List Char → List Char → Prop}

theorem collect_sound (steps : Reads step (piece.orStop stop))
    (consumes : ∀ {value text rest}, piece value text rest → text ≠ [])
    {before after : Cursor} {values : List α}
    (ran : collect step before = .ok values after) :
    ∃ text, Spans before text after ∧
      Collected piece stop values text after.rest := by
  fun_induction collect step before generalizing values after with
  | case1 before error last failed => cases ran
  | case2 before last stopped =>
      cases ran
      obtain ⟨text, spans, holds⟩ := (steps _ _ _).mp stopped
      exact ⟨text, spans, .nil holds⟩
  | case3 before value middle read shorter error last failed ih => cases ran
  | case4 before value middle read shorter others last more ih =>
      cases ran
      obtain ⟨text, spans, holds⟩ := (steps _ _ _).mp read
      obtain ⟨tail, tailSpans, collected⟩ := ih more
      rw [tailSpans.rest] at holds
      exact ⟨text ++ tail, spans.trans tailSpans, .cons holds collected⟩
  | case5 before value middle read longer =>
      obtain ⟨text, spans, holds⟩ := (steps _ _ _).mp read
      exact absurd (spans.unread_shrinks (consumes holds)) longer

theorem collect_complete (steps : Reads step (piece.orStop stop))
    (consumes : ∀ {value text rest}, piece value text rest → text ≠ [])
    {values : List α} {text rest : List Char}
    (collected : Collected piece stop values text rest) (position : Nat) :
    collect step ⟨text ++ rest, position⟩ =
      .ok values ⟨rest, position + text.length⟩ := by
  induction collected generalizing position with
  | nil stops =>
      have stopped := steps.run position none stops
      rw [collect, stopped]
  | @cons value values text more rest holds _ ih =>
      have read := steps.run position (some value) holds
      have positive : 0 < text.length :=
        List.length_pos_iff.mpr (consumes holds)
      have shorter : (more ++ rest).length <
          (text ++ (more ++ rest)).length := by
        simp only [List.length_append]
        omega
      rw [List.append_assoc, collect, read]
      simp only [shorter, if_true, ih]
      rw [List.length_append, Nat.add_assoc]

/-- A step that costs a character for each value, taken until it stops. -/
theorem collect_reads (steps : Reads step (piece.orStop stop))
    (consumes : ∀ {value text rest}, piece value text rest → text ≠ []) :
    Reads (collect step) (Collected piece stop) := by
  intro before values after
  constructor
  · exact collect_sound steps consumes
  · intro holds
    obtain ⟨text, ⟨shown, moved⟩, collected⟩ := holds
    obtain ⟨unread, position⟩ := before
    obtain ⟨rest, last⟩ := after
    simp only at shown moved collected
    rw [shown, moved]
    exact collect_complete steps consumes collected position

end Reading

end Dialect

end TextPattern
