import TextPattern.Proofs.Dialect.Reads

/-!
# What a reading rejects

A reading that fails has read some text before the place where it reports the
error.  `Fails` relates the error, this text and the text that is left.  It also
says that a failure is final: of what is left, only the next character can
matter, so the same error is reported at the same place whatever comes later.
-/

namespace TextPattern

namespace Dialect

/-- An error, the text read before it and the text that is left. -/
abbrev Fault := Error → List Char → List Char → Prop

/-- The reading fails only as the fault says, and fails in the same way on
every text that agrees with what it has read and with the next character. -/
def Fails {α : Type} (reading : Reading α) (fault : Fault) : Prop :=
  ∀ before error after, reading before = .error error after →
    ∃ text, Spans before text after ∧ fault error text after.rest ∧
      ∀ other, other.head? = after.rest.head? →
        reading ⟨text ++ other, before.position⟩ =
          .error error ⟨other, after.position⟩

/-- Of what follows the text, only the next character matters. -/
def Grammar.NextOnly {α : Type} (grammar : Grammar α) : Prop :=
  ∀ value text rest other, other.head? = rest.head? →
    grammar value text rest → grammar value text other

theorem head?_append_congr {rest other : List Char}
    (same : other.head? = rest.head?) (text : List Char) :
    (text ++ other).head? = (text ++ rest).head? := by
  rw [List.head?_append, List.head?_append, same]

theorem bind_eq_error_iff {α β : Type} {reading : Reading α}
    {next : α → Reading β} {before last : Cursor} {error : Error} :
    (reading >>= next) before = .error error last ↔
      reading before = .error error last ∨
        ∃ value middle, reading before = .ok value middle ∧
          next value middle = .error error last := by
  simp only [Bind.bind, EStateM.bind]
  cases reading before with
  | ok value middle => simp [and_assoc]
  | error error middle => simp

namespace Fails

variable {α β : Type} {reading : Reading α} {next : α → Reading β}
  {fault whole : Fault}

theorem mono (fails : Fails reading fault)
    (implies : ∀ error text rest,
      fault error text rest → whole error text rest) :
    Fails reading whole := by
  intro before error after failed
  obtain ⟨text, spans, holds, final⟩ := fails before error after failed
  exact ⟨text, spans, implies _ _ _ holds, final⟩

/-- A reading that always succeeds has no faults. -/
theorem never (total : ∀ before error after,
    reading before ≠ .error error after) : Fails reading fault := by
  intro before error after failed
  exact absurd failed (total before error after)

theorem pure {value : α} : Fails (pure value) fault := by
  apply never
  intro before error after failed
  cases failed

theorem throw {error : Error} (holds : ∀ rest, fault error [] rest) :
    Fails (throw error : Reading α) fault := by
  intro before found after failed
  cases failed
  exact ⟨[], ⟨rfl, rfl⟩, holds _, fun other _ => rfl⟩

/-- A failure of the second reading is final if what it has read and the next
character leave the value of the first reading as it is. -/
theorem bind {grammar : Grammar α} {head : Fault}
    (reads : Reads reading grammar) (first : Fails reading head)
    (after : α → Fault) (second : ∀ value, Fails (next value) (after value))
    (steady : ∀ value text error tail rest other,
      grammar value text (tail ++ rest) → after value error tail rest →
      other.head? = rest.head? → grammar value text (tail ++ other))
    (early : ∀ error text rest,
      head error text rest → whole error text rest)
    (late : ∀ value text error tail rest,
      grammar value text (tail ++ rest) → after value error tail rest →
      whole error (text ++ tail) rest) :
    Fails (reading >>= next) whole := by
  intro before error last failed
  rcases bind_eq_error_iff.mp failed with stopped | ⟨value, middle, ran,
    continued⟩
  · obtain ⟨text, spans, holds, final⟩ := first _ _ _ stopped
    refine ⟨text, spans, early _ _ _ holds, fun other same => ?_⟩
    exact bind_eq_error_iff.mpr (.inl (final other same))
  · obtain ⟨text, spans, readHolds⟩ := (reads _ _ _).mp ran
    obtain ⟨tail, tailSpans, holds, final⟩ := second _ _ _ _ continued
    rw [tailSpans.rest] at readHolds
    refine ⟨text ++ tail, spans.trans tailSpans,
      late _ _ _ _ _ readHolds holds, fun other same => ?_⟩
    have again := reads.run before.position value
      (steady _ _ _ _ _ other readHolds holds same)
    have rejected := final other same
    rw [spans.position] at rejected
    rw [List.append_assoc]
    exact bind_eq_error_iff.mpr (.inr ⟨value, _, again, rejected⟩)

/-- Where only the next character matters to the first reading, failures of the
second one are final. -/
theorem bindNextOnly {grammar : Grammar α} {head : Fault}
    (reads : Reads reading grammar) (nextOnly : grammar.NextOnly)
    (first : Fails reading head) (after : α → Fault)
    (second : ∀ value, Fails (next value) (after value))
    (early : ∀ error text rest,
      head error text rest → whole error text rest)
    (late : ∀ value text error tail rest,
      grammar value text (tail ++ rest) → after value error tail rest →
      whole error (text ++ tail) rest) :
    Fails (reading >>= next) whole := by
  refine bind reads first after second ?_ early late
  intro value text error tail rest other holds _ same
  exact nextOnly _ _ _ _ (head?_append_congr same tail) holds

/-- Putting a value into another one fails nowhere. -/
theorem map {f : α → β} (fails : Fails reading fault) :
    Fails (reading >>= fun value => Pure.pure (f value)) fault := by
  intro before error last failed
  rcases bind_eq_error_iff.mp failed with stopped | ⟨value, middle, ran,
    continued⟩
  · obtain ⟨text, spans, holds, final⟩ := fails _ _ _ stopped
    refine ⟨text, spans, holds, fun other same => ?_⟩
    exact bind_eq_error_iff.mpr (.inl (final other same))
  · cases continued

end Fails

namespace Reading

theorem takeWhile_fails {test : Char → Bool} {fault : Fault} :
    Fails (takeWhile test) fault := by
  apply Fails.never
  intro before error after failed
  cases failed

end Reading

namespace Fails

open Reading

variable {β : Type} {whole : Fault}

/-! ## What comes after a single step -/

/-- The next character decides.  Where there is none, the error is at the end
of the text. -/
theorem afterNext {next : Option Char → Reading β} {error : Error}
    (after : Char → Fault) (ended : next none = MonadExcept.throw error)
    (second : ∀ c, Fails (next (some c)) (after c))
    (atEnd : whole error [] [])
    (late : ∀ c found tail rest, after c found tail rest →
      whole found (c :: tail) rest) :
    Fails (Reading.next >>= next) whole := by
  intro before found last failed
  obtain ⟨unread, position⟩ := before
  cases unread with
  | nil =>
      have thrown : next none ⟨[], position⟩ = .error found last := failed
      rw [ended] at thrown
      cases thrown
      refine ⟨[], ⟨rfl, rfl⟩, atEnd, fun other same => ?_⟩
      rw [List.head?_eq_none_iff.mp same]
      exact failed
  | cons c unread =>
      obtain ⟨tail, spans, holds, final⟩ := second c _ _ _ failed
      refine ⟨c :: tail, ?_, late _ _ _ _ holds, final⟩
      constructor
      · rw [List.cons_append, ← spans.rest]
      · rw [spans.position, List.length_cons]
        simp only
        omega

/-- The next character decides and stays unread. -/
theorem afterPeek {next : Option Char → Reading β}
    (after : Option Char → Fault)
    (second : ∀ shown, Fails (next shown) (after shown))
    (late : ∀ error text rest, after (text ++ rest).head? error text rest →
      whole error text rest) :
    Fails (peek >>= next) whole := by
  intro before error last failed
  obtain ⟨text, spans, holds, final⟩ := second _ _ _ _ failed
  rw [spans.rest] at holds
  refine ⟨text, spans, late _ _ _ holds, fun other same => ?_⟩
  have shown := head?_append_congr same text
  have rejected := final other same
  rw [spans.rest, ← shown] at rejected
  exact rejected

/-- The unread text decides, but what is read before the fault and the next
character settle how. -/
theorem afterUnread {next : List Char → Reading β}
    (after : List Char → Fault)
    (second : ∀ shown, Fails (next shown) (after shown))
    (settled : ∀ error text rest other, after (text ++ rest) error text rest →
      other.head? = rest.head? → next (text ++ other) = next (text ++ rest))
    (late : ∀ error text rest, after (text ++ rest) error text rest →
      whole error text rest) :
    Fails (unread >>= next) whole := by
  intro before error last failed
  obtain ⟨text, spans, holds, final⟩ := second _ _ _ _ failed
  rw [spans.rest] at holds
  refine ⟨text, spans, late _ _ _ holds, fun other same => ?_⟩
  have rejected := final other same
  rw [spans.rest, ← settled _ _ _ _ holds same] at rejected
  exact rejected

end Fails

/-! ## A given character -/

/-- The fault of a character that has to come next. -/
inductive ExpectFault (c : Char) : Fault where
  | ended : ExpectFault c .unexpectedEnd [] []
  | different {actual : Char} {rest : List Char} :
      actual ≠ c → ExpectFault c (.unexpectedChar actual) [actual] rest

theorem expect_fails (c : Char) :
    Fails (Reading.expect c) (ExpectFault c) := by
  apply Fails.afterNext (fun actual error text _ =>
    error = .unexpectedChar actual ∧ text = [] ∧ actual ≠ c) rfl
  · intro actual
    by_cases same : actual = c
    · simp only [same, if_true]
      exact .pure
    · simp only [if_neg same]
      exact .throw fun _ => ⟨rfl, rfl, same⟩
  · exact .ended
  · intro actual error tail rest holds
    obtain ⟨rfl, rfl, other⟩ := holds
    exact .different other

theorem Fails.afterExpect {β : Type} {c : Char} {next : Unit → Reading β}
    {after whole : Fault} (second : Fails (next ()) after)
    (early : ∀ error text rest,
      ExpectFault c error text rest → whole error text rest)
    (late : ∀ error tail rest, after error tail rest →
      whole error (c :: tail) rest) :
    Fails (Reading.expect c >>= next) whole := by
  refine Fails.bindNextOnly (Reading.expect_reads c) ?_ (expect_fails c)
    (fun _ => after) (fun _ => second) early ?_
  · intro _ text rest other _ holds
    exact holds
  · intro _ text error tail rest shown holds
    rw [shown]
    exact late _ _ _ holds

/-! ## Steps taken again and again -/

namespace Reading

variable {α : Type} {step : Reading (Option α)} {piece : Grammar α}
  {stop : List Char → List Char → Prop} {fault : Fault}

/-- The fault of one of several steps comes after the pieces of the steps
before it. -/
theorem collect_fails (steps : Reads step (piece.orStop stop))
    (fails : Fails step fault)
    (steady : ∀ value text error values more rest other,
      piece value text (more ++ rest) →
      Collected piece (fault error) values more rest →
      other.head? = rest.head? → piece value text (more ++ other))
    (consumes : ∀ {value text rest}, piece value text rest → text ≠ []) :
    Fails (collect step) fun error text rest =>
      ∃ values, Collected piece (fault error) values text rest := by
  intro before error last failed
  fun_induction collect step before generalizing error last with
  | case1 before found after stopped =>
      cases failed
      obtain ⟨text, spans, holds, final⟩ := fails _ _ _ stopped
      refine ⟨text, spans, ⟨[], .nil holds⟩, fun other same => ?_⟩
      rw [collect, final other same]
  | case2 before after stopped => cases failed
  | case3 before value middle read shorter found after stopped ih =>
      cases failed
      obtain ⟨text, spans, holds⟩ := (steps _ _ _).mp read
      obtain ⟨tail, tailSpans, ⟨values, collected⟩, final⟩ :=
        ih _ _ stopped
      rw [tailSpans.rest] at holds
      refine ⟨text ++ tail, spans.trans tailSpans, ⟨value :: values,
        .cons holds collected⟩, fun other same => ?_⟩
      have again := steps.run before.position (some value)
        (steady _ _ _ _ _ _ other holds collected same)
      have positive : 0 < text.length :=
        List.length_pos_iff.mpr (consumes holds)
      have less : (tail ++ other).length <
          (text ++ (tail ++ other)).length := by
        simp only [List.length_append]
        omega
      have rejected := final other same
      rw [spans.position] at rejected
      rw [List.append_assoc, collect, again]
      simp only [less, if_true, rejected]
  | case4 before value middle read shorter others after more ih =>
      cases failed
  | case5 before value middle read longer => cases failed

end Reading

/-! ## Where errors lie -/

/-- The error lies where it belongs: at the end of the text if something is
missing there, and right after the character that is not expected or, if this
is the backslash of a shorthand, after the letter that follows it. -/
def Located : Fault
  | .unclosedGroup, _, rest => rest = []
  | .unclosedClass, _, rest => rest = []
  | .unexpectedEnd, _, rest => rest = []
  | .unexpectedChar c, text, _ =>
      [c] <:+ text ∨ c = '\\' ∧ ∃ letter, ['\\', letter] <:+ text
  | _, _, _ => True

/-- The error says that a group or a class has no end. -/
def Error.Unclosed : Error → Prop
  | unclosedGroup => True
  | unclosedClass => True
  | _ => False

/-- The error lies where it belongs, and if something has no end then the text
goes on to a whole one. -/
structure Broken (whole : List Char → Prop) (error : Error)
    (text rest : List Char) : Prop where
  located : Located error text rest
  completes : error.Unclosed → ∃ more, whole (text ++ more)

theorem Located.append {error : Error} {text rest : List Char}
    (located : Located error text rest) (head : List Char) :
    Located error (head ++ text) rest := by
  have within : text <:+ head ++ text := List.suffix_append head text
  cases error with
  | unexpectedChar c =>
      rcases located with here | ⟨backslash, letter, before⟩
      · exact .inl (here.trans within)
      · exact .inr ⟨backslash, letter, before.trans within⟩
  | unexpectedEnd | unclosedGroup | unclosedClass => exact located
  | invalidNumber | invalidBounds | nothingToRepeat | nestedTooDeep _ =>
      trivial

/-- What more text before it does not change holds of all the pieces together
if it holds where they stop. -/
theorem Collected.of_stop {α : Type} {piece : Grammar α}
    {stop holds : List Char → List Char → Prop}
    (append : ∀ head text rest, holds text rest → holds (head ++ text) rest)
    (stopped : ∀ text rest, stop text rest → holds text rest)
    {values : List α} {text rest : List Char}
    (collected : Collected piece stop values text rest) :
    holds text rest := by
  induction collected with
  | nil stops => exact stopped _ _ stops
  | cons _ _ ih => exact append _ _ _ ih

namespace Broken

variable {part whole : List Char → Prop} {error : Error}
  {text rest : List Char}

theorem of_located (located : Located error text rest)
    (closed : ¬ error.Unclosed) : Broken whole error text rest :=
  ⟨located, fun unclosed => absurd unclosed closed⟩

theorem mono (broken : Broken part error text rest)
    (implies : ∀ text, part text → whole text) :
    Broken whole error text rest := by
  refine ⟨broken.located, fun unclosed => ?_⟩
  obtain ⟨more, completed⟩ := broken.completes unclosed
  exact ⟨more, implies _ completed⟩

/-- What is broken at its end stays broken with more text before it. -/
theorem prepend (broken : Broken part error text rest) (head : List Char)
    (implies : ∀ text, part text → whole (head ++ text)) :
    Broken whole error (head ++ text) rest := by
  refine ⟨broken.located.append head, fun unclosed => ?_⟩
  obtain ⟨more, completed⟩ := broken.completes unclosed
  refine ⟨more, ?_⟩
  rw [List.append_assoc]
  exact implies _ completed

theorem of_expect {c : Char} (fault : ExpectFault c error text rest) :
    Broken whole error text rest := by
  cases fault with
  | ended => exact of_located rfl id
  | different _ => exact of_located (.inl (List.suffix_refl _)) id

end Broken

end Dialect

end TextPattern
