import TextPattern.Cli.Run
import TextPattern.Proofs.Scanning

/-!
# What a run prints of a scan and of a match

A scan prints a line for each span of the tokenization, and a run without
scanning prints the match at the start.  The two agree: a match that consumes
something is printed if and only if it is the first span of the scan.
-/

namespace TextPattern

/-! ## Numbers in lines -/

namespace Text

theorem decimal_injective {m n : Nat} (same : decimal m = decimal n) :
    m = n := by
  simp only [decimal, Nat.toList_repr] at same
  have value := congrArg (Nat.ofDigitChars 10 · 0) same
  simpa only [Nat.ofDigitChars_ten_toDigits] using value

theorem takeWhile_decimal (n : Nat) (rest : List Char) :
    (decimal n ++ ' ' :: rest).takeWhile (· != ' ') = decimal n := by
  rw [List.takeWhile_append_of_pos]
  · simp
  · intro c member
    rw [decimal, Nat.toList_repr] at member
    have digit :=
      Nat.isDigit_of_mem_toDigits (by decide) (by decide) member
    rw [bne_iff_ne]
    intro space
    rw [space] at digit
    exact absurd digit (by decide)

/-- A number ends at the space after it. -/
theorem eq_of_decimal_append {m n : Nat} {left right : List Char}
    (same : decimal m ++ ' ' :: left = decimal n ++ ' ' :: right) :
    m = n := by
  have digits := congrArg (List.takeWhile (· != ' ')) same
  rw [takeWhile_decimal, takeWhile_decimal] at digits
  exact decimal_injective digits

end Text

namespace Cli

open Pattern (Built)

theorem line_injective {left right : List Char}
    (same : line left = line right) : left = right :=
  List.append_cancel_right (String.ofList_injective same)

/-- The line for a match. -/
def matchLine (length : Nat) (text : List Char) : String :=
  line ("match: ".toList ++ Text.decimal length ++ ' ' :: Text.quoteText text)

theorem matchLine_ne_mismatch (length : Nat) (text : List Char) :
    line "mismatch".toList ≠ matchLine length text := by
  intro same
  have impossible := line_injective same
  simp at impossible

theorem length_eq_of_matchLine {m n : Nat} {left right : List Char}
    (same : matchLine m left = matchLine n right) : m = n := by
  have lines := line_injective same
  rw [List.append_assoc, List.append_assoc] at lines
  exact Text.eq_of_decimal_append (List.append_cancel_left lines)

variable {pattern : Pattern} {source : Source} {window : Window}

/-- An error stays an error in another form, and a result stays as it is. -/
theorem mapError_eq_ok_iff {ε ε' α : Type} {f : ε → ε'}
    {result : Except ε α} {value : α} :
    result.mapError f = .ok value ↔ result = .ok value := by
  constructor
  · intro same
    cases result with
    | error found => cases same
    | ok found =>
        cases same
        rfl
  · rintro rfl
    rfl

/-- A line shows a match of some length exactly where the pattern matches with
that length. -/
theorem matchOutput_eq_ok_iff (built : pattern.Built)
    (countable : source.Countable) (within : window.Within source)
    (length : Nat) :
    matchOutput pattern source window =
        .ok (matchLine length
          (Window.text ⟨window.first, window.first + length⟩ source)) ↔
      pattern.matchIn source window = .ok (some length) := by
  have run := built.matchIn_eq_extent countable within
  cases found : pattern.extent (window.text source) with
  | none =>
      rw [found] at run
      simp only [matchOutput, run, bind, Except.bind, pure, Except.pure,
        Except.ok.injEq]
      constructor
      · intro same
        exact absurd same (matchLine_ne_mismatch _ _)
      · intro same
        cases same
  | some actual =>
      rw [found] at run
      have reached : Window.Within
          ⟨window.first + actual, window.stop⟩ source :=
        Window.within_advance within (pattern.extent_inside found)
      have sum := Window.add_eq_ok countable reached
      have copied : source.copy window.first (window.first + actual) =
          .ok (Window.text ⟨window.first, window.first + actual⟩ source) :=
        Source.copy_eq_ok (Nat.le_add_right _ _)
          (Nat.le_trans reached.1 reached.2)
      have output : matchOutput pattern source window =
          .ok (matchLine actual
            (Window.text ⟨window.first, window.first + actual⟩ source)) := by
        simp only [matchOutput, run, bind, Except.bind, sum, copied]
        rfl
      rw [output, run, Except.ok.injEq, Except.ok.injEq, Option.some.injEq]
      constructor
      · exact length_eq_of_matchLine
      · intro same
        rw [same]

/-- A match that consumes something is the first span of every
tokenization. -/
theorem matchIn_eq_ok_iff_head {spans : List Span}
    (tokenizes : pattern.Tokenizes source window spans)
    (within : window.Within source) (built : pattern.Built)
    (countable : source.Countable) {length : Nat} (positive : 0 < length) :
    pattern.matchIn source window = .ok (some length) ↔
      ∃ span, spans.head? = some span ∧ span.first = window.first ∧
        span.stop = window.first + length := by
  constructor
  · intro found
    obtain ⟨result, run, ends⟩ :
        ∃ result, pattern.matchIn source window = .ok result ∧
          ∀ length, result = some length →
            length ≤ (window.text source).length :=
      ⟨_, built.matchIn_eq_extent countable within,
        fun _ matched => pattern.extent_inside matched⟩
    rw [found] at run
    cases run
    have bound := ends length rfl
    rw [Window.length_text within] at bound
    obtain ⟨rest, rfl, -⟩ :=
      (Pattern.tokenizes_match_iff positive (by have := within.1; omega)
        found).mp tokenizes
    exact ⟨_, rfl, rfl, rfl⟩
  · intro holds
    obtain ⟨span, head, started, ended⟩ := holds
    have member : span ∈ spans := List.mem_of_head? head
    have matched := tokenizes.matched span member
    rw [started, ended, Nat.add_sub_cancel_left] at matched
    exact matched

/-- Scanning a text prints one line for each span of the only tokenization of
what follows the offset.  Without scanning, a match that consumes something is
printed exactly if it is the first of these spans. -/
theorem matchText_tokenizes {pattern : Pattern} {request : Request}
    {text : String} (built : pattern.Built)
    (countable : (Source.ofString text).Countable)
    (inside : request.begin ≤ (Source.ofString text).size) :
    ∃ spans,
      { request with scan := true }.matchText pattern text =
        .ok (String.join (spans.map fun span =>
          line (Text.decimal span.first ++ ['.', '.'] ++
            Text.decimal span.stop ++ ' ' :: Text.quoteText
              ((text.toList.take span.stop).drop span.first)))) ∧
      pattern.Tokenizes (Source.ofString text)
        ⟨request.begin, (Source.ofString text).size⟩ spans ∧
      (∀ others, pattern.Tokenizes (Source.ofString text)
        ⟨request.begin, (Source.ofString text).size⟩ others →
        others = spans) ∧
      ∀ length, 0 < length →
        ({ request with scan := false }.matchText pattern text =
            .ok (line ("match: ".toList ++ Text.decimal length ++
              ' ' :: Text.quoteText
                ((text.toList.take (request.begin + length)).drop
                  request.begin))) ↔
          ∃ span, spans.head? = some span ∧
            span.first = request.begin ∧
            span.stop = request.begin + length) := by
  have within : Window.Within
      ⟨request.begin, (Source.ofString text).size⟩
      (Source.ofString text) := ⟨inside, Nat.le_refl _⟩
  obtain ⟨spans, scanned, only⟩ := Pattern.exists_spansFrom_eq_ok built
    countable (Nat.le_refl (Source.ofString text).size) request.begin
  have tokenizes := (only spans).mpr rfl
  have accepted : ¬ (Source.ofString text).size < request.begin :=
    Nat.not_lt.mpr inside
  refine ⟨spans, ?_, tokenizes, fun others => (only others).mp,
    fun length positive => ?_⟩
  · have lines : spans.map spanLine = spans.map fun span =>
        line (Text.decimal span.first ++ ['.', '.'] ++
          Text.decimal span.stop ++ ' ' :: Text.quoteText
            ((text.toList.take span.stop).drop span.first)) := by
      refine List.map_congr_left fun span member => ?_
      rw [spanLine, tokenizes.shown span member]
      rfl
    simp only [Request.matchText, accepted, if_false, if_true, scanOutput,
      Pattern.spans, scanned]
    rw [← lines]
    rfl
  · have output : { request with scan := false }.matchText pattern text =
        (matchOutput pattern (Source.ofString text)
          ⟨request.begin, (Source.ofString text).size⟩).mapError .fault := by
      simp only [Request.matchText, accepted, if_false]
      rfl
    rw [output, mapError_eq_ok_iff, ← matchIn_eq_ok_iff_head tokenizes within
      built countable positive, ← matchOutput_eq_ok_iff built countable within]
    exact Iff.rfl

/-- A pattern that may match nothing, scanned from an offset inside the
text. -/
theorem matchText_tokenizes_from_offset :
    (Pattern.ofChar 'a').many.Built ∧
      (Source.ofString "baacxa").Countable ∧
      1 ≤ (Source.ofString "baacxa").size ∧
      ∃ spans,
        String.join (spans.map fun span =>
          line (Text.decimal span.first ++ ['.', '.'] ++
            Text.decimal span.stop ++ ' ' :: Text.quoteText
              (("baacxa".toList.take span.stop).drop span.first))) =
          "1..3 \"aa\"\n5..6 \"a\"\n" ∧
        (Pattern.ofChar 'a').many.Tokenizes (Source.ofString "baacxa")
          ⟨1, (Source.ofString "baacxa").size⟩ spans := by
  have built : (Pattern.ofChar 'a').many.Built :=
    (Built.ofPredicate _).many
  have countable : (Source.ofString "baacxa").Countable := by decide
  have inside : 1 ≤ (Source.ofString "baacxa").size := by decide
  have output : (Request.matchText ⟨none, none, 1, true, false, false⟩
      (Pattern.ofChar 'a').many "baacxa").toOption =
      some "1..3 \"aa\"\n5..6 \"a\"\n" := by
    decide +kernel
  obtain ⟨spans, printed, tokenizes, -⟩ :=
    @matchText_tokenizes _ ⟨none, none, 1, false, false, false⟩ _ built
      countable inside
  rw [printed] at output
  exact ⟨built, countable, inside, spans, Option.some.inj output, tokenizes⟩

end Cli

end TextPattern
