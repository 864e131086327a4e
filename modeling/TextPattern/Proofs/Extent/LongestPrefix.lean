import Mathlib.Computability.Language
import Mathlib.Order.Bounds.Basic
import Mathlib.Order.CompletePartialOrder
import Mathlib.Order.ConditionallyCompleteLattice.Basic
import TextPattern.Proofs.Extent.Characters
import TextPattern.Proofs.Extent.Operations

/-!
# Longest prefixes

An extent takes the longest prefix of a language if it consumes the longest word
of the language with which the text starts and mismatches if there is none.  An
operation on such extents need not find the longest word of the language that
is written like it, because nothing is tried again.  It does find it where the
next character settles how to go on: in a sequence no character both goes on
with a word of the first operand and starts a word of the second one, in a
repetition this holds of the operand and itself, and in a choice no word of the
first operand goes on as a word of the second one.
-/

open scoped Computability

namespace TextPattern

namespace Text

/-! ## Words at the start of a text -/

/-- The lengths of the words of a language with which a text starts. -/
def prefixLengths (language : Language Char) (text : List Char) : Set Nat :=
  {length | ∃ word ∈ language, word <+: text ∧ word.length = length}

/-- The words of one character of a kind. -/
def oneChar (kind : Char → Prop) : Language Char :=
  {word | ∃ c, kind c ∧ word = [c]}

/-- The words whose characters are all of a kind. -/
def madeOf (kind : Char → Prop) : Language Char :=
  {word | ∀ c ∈ word, kind c}

/-- No word of the first language goes on as a word of the second one. -/
def Unextended (first second : Language Char) : Prop :=
  ∀ ⦃word more : List Char⦄, word ∈ first → word ++ more ∈ second → more = []

/-- No character both goes on with a word of the first language and starts a
word of the second one. -/
def Parted (first second : Language Char) : Prop :=
  ∀ ⦃word more after : List Char⦄ ⦃c : Char⦄, word ∈ first →
    word ++ c :: more ∈ first → c :: after ∉ second

variable {first second language : Language Char} {kind : Char → Prop}
  {word text : List Char} {length : Nat}

theorem prefixLengths_eq_empty_iff :
    prefixLengths language text = ∅ ↔
      ∀ word ∈ language, ¬ word <+: text := by
  rw [Set.eq_empty_iff_forall_notMem]
  constructor
  · intro none word member starts
    exact none word.length ⟨word, member, starts, rfl⟩
  · rintro none length ⟨word, member, starts, -⟩
    exact none word member starts

theorem cons_mem_oneChar_mul_iff {c : Char} {rest : List Char} :
    c :: rest ∈ oneChar kind * language ↔ kind c ∧ rest ∈ language := by
  rw [Language.mem_mul]
  constructor
  · rintro ⟨_, ⟨d, ofKind, rfl⟩, after, member, same⟩
    obtain ⟨rfl, rfl⟩ := List.cons.inj same
    exact ⟨ofKind, member⟩
  · rintro ⟨ofKind, member⟩
    exact ⟨[c], ⟨c, ofKind, rfl⟩, rest, member, rfl⟩

/-- A word of a repetition is empty or starts with a word that is not. -/
theorem mem_kstar_cases (member : word ∈ language∗) :
    word = [] ∨ ∃ head ∈ language, head ≠ [] ∧
      ∃ tail ∈ language∗, word = head ++ tail := by
  obtain ⟨words, rfl, members⟩ :=
    Language.mem_kstar_iff_exists_nonempty.mp member
  cases words with
  | nil => exact .inl rfl
  | cons head words =>
      obtain ⟨⟨headMember, nonempty⟩, others⟩ :=
        List.forall_mem_cons.mp members
      exact .inr ⟨head, headMember, nonempty, words.flatten,
        Language.join_mem_kstar fun word member => (others word member).1,
        rfl⟩

/-! ## The kinds of characters in words -/

theorem oneChar_le_madeOf {allowed : Char → Prop}
    (included : ∀ c, kind c → allowed c) : oneChar kind ≤ madeOf allowed := by
  rintro _ ⟨c, ofKind, rfl⟩ d member
  rw [List.mem_singleton.mp member]
  exact included c ofKind

theorem one_le_madeOf : 1 ≤ madeOf kind := by
  rintro _ rfl c member
  cases member

theorem mul_le_madeOf (firstMade : first ≤ madeOf kind)
    (secondMade : second ≤ madeOf kind) : first * second ≤ madeOf kind := by
  rintro _ ⟨head, headMember, tail, tailMember, rfl⟩ c member
  rcases List.mem_append.mp member with inHead | inTail
  · exact firstMade headMember c inHead
  · exact secondMade tailMember c inTail

theorem kstar_le_madeOf (made : language ≤ madeOf kind) :
    language∗ ≤ madeOf kind := by
  rintro _ ⟨words, rfl, members⟩ c member
  obtain ⟨word, wordMember, inWord⟩ := List.mem_flatten.mp member
  exact made (members word wordMember) c inWord

/-! ## How words go on -/

theorem oneChar_unextended {other : Char → Prop} :
    Unextended (oneChar kind) (oneChar other) := by
  rintro _ more ⟨c, -, rfl⟩ ⟨d, -, same⟩
  exact (List.cons.inj same).2

/-- Where no word goes on, no character goes on with one. -/
theorem Unextended.parted (unextended : Unextended first first) :
    Parted first second := by
  intro word more after c member longer
  cases unextended member longer

/-- The first character tells the languages apart. -/
theorem unextended_of_starts (kind : Char → Prop)
    (starts : ∀ word ∈ first, ∃ c rest, word = c :: rest ∧ kind c)
    (others : ∀ c rest, c :: rest ∈ second → ¬ kind c) :
    Unextended first second := by
  intro word more member longer
  obtain ⟨c, rest, rfl, ofKind⟩ := starts word member
  exact absurd ofKind (others c _ longer)

/-- The second language starts with characters that the first one does not
have. -/
theorem parted_of_madeOf (made : first ≤ madeOf kind)
    (others : ∀ c rest, c :: rest ∈ second → ¬ kind c) :
    Parted first second := by
  intro word more after c _ longer started
  exact others c after started
    (made longer c (List.mem_append_right _ List.mem_cons_self))

/-- A repetition starts as its operand does. -/
theorem Parted.kstar (parted : Parted first second) :
    Parted first second∗ := by
  intro word more after c member longer started
  rcases mem_kstar_cases started with impossible | ⟨head, headMember, nonempty,
    tail, -, same⟩
  · cases impossible
  · cases head with
    | nil => exact nonempty rfl
    | cons d head =>
        obtain ⟨rfl, -⟩ := List.cons.inj same
        exact parted member longer headMember

/-! ## The longest word at the start of a text -/

/-- A word of the first language before a word of the second one is the longest
that there is, unless the other word is empty. -/
theorem Parted.splits {head : Nat} {after : List Char}
    (parted : Parted first second)
    (greatest : IsGreatest (prefixLengths first text) head)
    (member : word ∈ first) (afterMember : after ∈ second)
    (starts : word ++ after <+: text) :
    word.length = head ∨ after = [] ∧ word.length < head := by
  have wordStarts := (List.prefix_append word after).trans starts
  have bound := greatest.2 ⟨word, member, wordStarts, rfl⟩
  rcases Nat.eq_or_lt_of_le bound with whole | shorter
  · exact .inl whole
  · refine .inr ⟨?_, shorter⟩
    obtain ⟨longest, longestMember, longestStarts, rfl⟩ := greatest.1
    obtain ⟨more, rfl⟩ :=
      List.prefix_of_prefix_length_le wordStarts longestStarts bound
    cases after with
    | nil => rfl
    | cons c after =>
        cases more with
        | nil =>
            rw [List.append_nil] at shorter
            exact absurd shorter (Nat.lt_irrefl _)
        | cons d more =>
            -- Both words go on from the same place of one text.
            obtain ⟨rest, shown⟩ := starts
            obtain ⟨otherRest, otherShown⟩ := longestStarts
            rw [← shown, List.append_assoc, List.append_assoc,
              List.append_cancel_left_eq] at otherShown
            obtain ⟨rfl, -⟩ := List.cons.inj otherShown
            exact absurd afterMember (parted member longestMember)

/-- What stands after a word at the start of a text. -/
theorem prefix_drop_length {after : List Char}
    (starts : word ++ after <+: text) : after <+: text.drop word.length := by
  obtain ⟨rest, rfl⟩ := starts
  rw [List.append_assoc, List.drop_left]
  exact List.prefix_append after rest

theorem Parted.isGreatest_mul {head tail : Nat} (parted : Parted first second)
    (greatest : IsGreatest (prefixLengths first text) head)
    (others : IsGreatest (prefixLengths second (text.drop head)) tail) :
    IsGreatest (prefixLengths (first * second) text) (head + tail) := by
  constructor
  · obtain ⟨word, member, ⟨rest, rfl⟩, rfl⟩ := greatest.1
    rw [List.drop_left] at others
    obtain ⟨after, afterMember, starts, rfl⟩ := others.1
    exact ⟨word ++ after, Language.append_mem_mul member afterMember,
      (List.prefix_append_right_inj word).mpr starts, List.length_append⟩
  · rintro _ ⟨_, ⟨word, member, after, afterMember, rfl⟩, starts, rfl⟩
    rcases parted.splits greatest member afterMember starts
      with rfl | ⟨rfl, shorter⟩
    · simp only [List.length_append]
      exact Nat.add_le_add_left (others.2
        ⟨after, afterMember, prefix_drop_length starts, rfl⟩) _
    · simp only [List.append_nil]
      omega

/-- The empty word is the shortest one there is. -/
theorem isGreatest_one_add
    (greatest : IsGreatest (prefixLengths language text) length) :
    IsGreatest (prefixLengths (1 + language) text) length := by
  obtain ⟨⟨word, member, starts, total⟩, bound⟩ := greatest
  refine ⟨⟨word, .inr member, starts, total⟩, ?_⟩
  rintro _ ⟨other, rfl | otherMember, otherStarts, rfl⟩
  · exact Nat.zero_le _
  · exact bound ⟨other, otherMember, otherStarts, rfl⟩

theorem isGreatest_one_add_of_none
    (none : prefixLengths language text = ∅) :
    IsGreatest (prefixLengths (1 + language) text) 0 := by
  rw [prefixLengths_eq_empty_iff] at none
  refine ⟨⟨[], .inl rfl, List.nil_prefix, rfl⟩, ?_⟩
  rintro _ ⟨word, rfl | member, starts, rfl⟩
  · exact Nat.le_refl 0
  · exact absurd starts (none word member)

/-- Without a word that is not empty there is no repetition that is not. -/
theorem isGreatest_kstar_zero
    (bound : 0 ∈ upperBounds (prefixLengths language text)) :
    IsGreatest (prefixLengths language∗ text) 0 := by
  refine ⟨⟨[], Language.nil_mem_kstar language, List.nil_prefix, rfl⟩, ?_⟩
  rintro _ ⟨word, member, starts, rfl⟩
  rcases mem_kstar_cases member with rfl | ⟨head, headMember, nonempty, tail,
    -, rfl⟩
  · exact Nat.le_refl 0
  · have headStarts := (List.prefix_append head tail).trans starts
    have empty := bound ⟨head, headMember, headStarts, rfl⟩
    exact absurd (List.length_eq_zero_iff.mp (Nat.le_zero.mp empty)) nonempty

end Text

namespace Extent

open Text (prefixLengths oneChar Unextended Parted)

/-- Consumes the longest word of the language with which the text starts, and
mismatches if there is none. -/
structure TakesLongest (operand : Extent) (language : Language Char) :
    Prop where
  greatest : ∀ ⦃text : List Char⦄ ⦃length : Nat⦄,
    operand text = some length →
      IsGreatest (prefixLengths language text) length
  mismatch : ∀ ⦃text : List Char⦄, operand text = none →
    prefixLengths language text = ∅

namespace TakesLongest

variable {operand : Extent} {language : Language Char}
  {word text : List Char} {length : Nat}

theorem eq_none_iff (takes : operand.TakesLongest language) :
    operand text = none ↔ prefixLengths language text = ∅ := by
  refine ⟨fun none => takes.mismatch none, fun empty => ?_⟩
  cases found : operand text with
  | none => rfl
  | some length =>
      have member := (takes.greatest found).1
      rw [empty] at member
      cases member

theorem eq_some_iff (takes : operand.TakesLongest language) :
    operand text = some length ↔
      IsGreatest (prefixLengths language text) length := by
  refine ⟨fun found => takes.greatest found, fun greatest => ?_⟩
  cases found : operand text with
  | none =>
      have member := greatest.1
      rw [takes.mismatch found] at member
      cases member
  | some other =>
      rw [(takes.greatest found).unique greatest]

/-- A word at the start of the text makes the operand match, and it consumes at
least that word. -/
theorem exists_of_prefix (takes : operand.TakesLongest language)
    (member : word ∈ language) (starts : word <+: text) :
    ∃ length, operand text = some length ∧ word.length ≤ length := by
  cases found : operand text with
  | none =>
      have empty := takes.mismatch found
      exact absurd starts (Text.prefixLengths_eq_empty_iff.mp empty word member)
  | some length =>
      exact ⟨length, rfl,
        (takes.greatest found).2 ⟨word, member, starts, rfl⟩⟩

theorem inside (takes : operand.TakesLongest language) : operand.Inside := by
  intro text length found
  obtain ⟨word, -, starts, rfl⟩ := (takes.greatest found).1
  exact starts.length_le

end TakesLongest

/-! ## Leaves -/

theorem char_takesLongest {predicate : Predicate} {kind : Char → Prop}
    (tests : ∀ c, predicate.test c = true ↔ kind c) :
    (char predicate).TakesLongest (oneChar kind) where
  greatest := by
    intro text length found
    cases text with
    | nil => cases found
    | cons c rest =>
        rw [char, Option.ite_none_right_eq_some, Option.some.injEq] at found
        obtain ⟨passes, rfl⟩ := found
        refine ⟨⟨[c], ⟨c, (tests c).mp passes, rfl⟩,
          List.prefix_append [c] rest, rfl⟩, ?_⟩
        rintro _ ⟨_, ⟨d, -, rfl⟩, -, rfl⟩
        exact Nat.le_refl 1
  mismatch := by
    intro text none
    rw [Text.prefixLengths_eq_empty_iff]
    rintro _ ⟨d, ofKind, rfl⟩ ⟨rest, rfl⟩
    have found : char predicate ([d] ++ rest) = some 1 :=
      if_pos ((tests d).mpr ofKind)
    rw [found] at none
    cases none

theorem literal_takesLongest (contents : List Char) :
    (literal .sensitive contents).TakesLongest {contents} where
  greatest := by
    intro text length found
    obtain ⟨starts, rfl⟩ := literal_eq_some_iff.mp found
    refine ⟨⟨contents, rfl, starts, rfl⟩, ?_⟩
    rintro _ ⟨_, rfl, -, rfl⟩
    exact Nat.le_refl _
  mismatch := by
    intro text none
    rw [Text.prefixLengths_eq_empty_iff]
    rintro _ rfl starts
    rw [literal_eq_some_iff.mpr ⟨starts, rfl⟩] at none
    cases none

/-! ## Operations -/

section

variable {first second operand : Extent}
  {firstWords secondWords words : Language Char}

theorem optional_takesLongest (takes : operand.TakesLongest words) :
    (optional operand).TakesLongest (1 + words) where
  greatest := by
    intro text length found
    obtain rfl := Option.some.inj found
    cases inner : operand text with
    | none => exact Text.isGreatest_one_add_of_none (takes.mismatch inner)
    | some length => exact Text.isGreatest_one_add (takes.greatest inner)
  mismatch := by
    intro text none
    cases none

/-- A choice loses nothing if no word of its first operand goes on as a word of
the second one, which would not be tried. -/
theorem choice_takesLongest (firstTakes : first.TakesLongest firstWords)
    (secondTakes : second.TakesLongest secondWords)
    (unextended : Unextended firstWords secondWords) :
    (choice [first, second]).TakesLongest
      (firstWords + secondWords) where
  greatest := by
    intro text length found
    rw [choice_joins.pair] at found
    cases inner : first text with
    | some head =>
        rw [inner, Option.some_or] at found
        obtain rfl := Option.some.inj found
        obtain ⟨⟨word, member, starts, rfl⟩, bound⟩ :=
          firstTakes.greatest inner
        refine ⟨⟨word, .inl member, starts, rfl⟩, ?_⟩
        rintro _ ⟨other, otherMember | otherMember, otherStarts, rfl⟩
        · exact bound ⟨other, otherMember, otherStarts, rfl⟩
        · by_contra longer
          obtain ⟨more, rfl⟩ := List.prefix_of_prefix_length_le starts
            otherStarts (Nat.le_of_not_le longer)
          rw [unextended member otherMember, List.append_nil] at longer
          exact longer (Nat.le_refl _)
    | none =>
        rw [inner, Option.none_or] at found
        have empty := Text.prefixLengths_eq_empty_iff.mp
          (firstTakes.mismatch inner)
        obtain ⟨⟨word, member, starts, total⟩, bound⟩ :=
          secondTakes.greatest found
        refine ⟨⟨word, .inr member, starts, total⟩, ?_⟩
        rintro _ ⟨other, otherMember | otherMember, otherStarts, rfl⟩
        · exact absurd otherStarts (empty other otherMember)
        · exact bound ⟨other, otherMember, otherStarts, rfl⟩
  mismatch := by
    intro text none
    rw [choice_joins.pair, Option.or_eq_none_iff] at none
    have firstEmpty := Text.prefixLengths_eq_empty_iff.mp
      (firstTakes.mismatch none.1)
    have secondEmpty := Text.prefixLengths_eq_empty_iff.mp
      (secondTakes.mismatch none.2)
    rw [Text.prefixLengths_eq_empty_iff]
    rintro word (member | member)
    · exact firstEmpty word member
    · exact secondEmpty word member

/-- A sequence loses nothing if the next character settles whether its first
operand goes on. -/
theorem sequence_takesLongest (firstTakes : first.TakesLongest firstWords)
    (secondTakes : second.TakesLongest secondWords)
    (parted : Parted firstWords secondWords) :
    (sequence [first, second]).TakesLongest
      (firstWords * secondWords) where
  greatest := by
    intro text length found
    rw [sequence_pair, Option.bind_eq_some_iff] at found
    obtain ⟨head, headFound, found⟩ := found
    obtain ⟨tail, tailFound, rfl⟩ := Option.map_eq_some_iff.mp found
    exact parted.isGreatest_mul (firstTakes.greatest headFound)
      (secondTakes.greatest tailFound)
  mismatch := by
    intro text none
    rw [sequence_pair, Option.bind_eq_none_iff] at none
    rw [Text.prefixLengths_eq_empty_iff]
    rintro _ ⟨word, member, after, afterMember, rfl⟩ starts
    obtain ⟨head, headFound, -⟩ := firstTakes.exists_of_prefix member
      ((List.prefix_append word after).trans starts)
    have empty := Text.prefixLengths_eq_empty_iff.mp
      (secondTakes.mismatch (Option.map_eq_none_iff.mp (none head headFound)))
    apply empty after afterMember
    rcases parted.splits (firstTakes.greatest headFound) member afterMember
      starts with rfl | ⟨rfl, -⟩
    · exact Text.prefix_drop_length starts
    · exact List.nil_prefix

theorem TakesLongest.many_isGreatest (takes : operand.TakesLongest words)
    (parted : Parted words words) (text : List Char) :
    IsGreatest (prefixLengths words∗ text) (many operand text) := by
  induction size : text.length using Nat.strongRecOn generalizing text with
  | ind room ih =>
  rcases idle_or_moves operand text with idle | ⟨length, moves⟩
  · rw [many, atMost_of_idle idle]
    apply Text.isGreatest_kstar_zero
    rcases idle with mismatch | empty
    · rw [takes.mismatch mismatch]
      rintro _ ⟨⟩
    · exact (takes.greatest empty).2
  · have bound := takes.inside moves
    have shorter : (text.drop (length + 1)).length < room := by
      rw [List.length_drop]
      omega
    have others := ih _ shorter (text.drop (length + 1)) rfl
    rw [many_of_moves takes.inside moves,
      ← Language.one_add_self_mul_kstar_eq_kstar]
    exact Text.isGreatest_one_add
      (parted.kstar.isGreatest_mul (takes.greatest moves) others)

/-- A repetition loses nothing if the next character settles whether an
iteration goes on or another one starts. -/
theorem many_takesLongest (takes : operand.TakesLongest words)
    (parted : Parted words words) :
    (repeated 0 none operand).TakesLongest words∗ where
  greatest := by
    intro text length found
    rw [repeated_zero] at found
    obtain rfl := Option.some.inj found
    exact takes.many_isGreatest parted text
  mismatch := by
    intro text none
    rw [repeated_zero] at none
    cases none

theorem many1_takesLongest (takes : operand.TakesLongest words)
    (parted : Parted words words) :
    (repeated 1 none operand).TakesLongest (words * words∗) := by
  rw [repeated_eq_sequence]
  exact sequence_takesLongest takes (many_takesLongest takes parted)
    parted.kstar

end

end Extent

/-! ## Built patterns -/

namespace Pattern

open Text (oneChar Unextended Parted)

section

variable {first second operand : Pattern} {operands : List Pattern}
  {firstWords secondWords words : Language Char}

theorem ofPredicate_takesLongest {predicate : Predicate} {kind : Char → Prop}
    (tests : ∀ c, predicate.test c = true ↔ kind c) :
    (ofPredicate predicate).extent.TakesLongest (oneChar kind) := by
  rw [extent_ofPredicate]
  exact Extent.char_takesLongest tests

theorem ofChar_takesLongest (c : Char) :
    (ofChar c).extent.TakesLongest (oneChar fun d => d = c) :=
  ofPredicate_takesLongest fun d => by
    rw [Predicate.test, beq_iff_eq, eq_comm]

theorem ofText_takesLongest (text : List Char) :
    (ofText .sensitive text).extent.TakesLongest {text} := by
  rw [extent_ofText]
  exact Extent.literal_takesLongest text

theorem opt_takesLongest (takes : operand.extent.TakesLongest words) :
    operand.opt.extent.TakesLongest (1 + words) := by
  rw [extent_opt]
  exact Extent.optional_takesLongest takes

theorem orElse_takesLongest
    (firstTakes : first.extent.TakesLongest firstWords)
    (secondTakes : second.extent.TakesLongest secondWords)
    (unextended : Unextended firstWords secondWords) :
    (first.orElse second).extent.TakesLongest (firstWords + secondWords) := by
  rw [orElse, extent_anyOf]
  exact Extent.choice_takesLongest firstTakes secondTakes unextended

theorem seqOf_singleton_takesLongest
    (takes : operand.extent.TakesLongest words) :
    (seqOf [operand]).extent.TakesLongest words := by
  rw [extent_seqOf, List.map_singleton, Extent.sequence_singleton]
  exact takes

theorem seqOf_cons_takesLongest
    (firstTakes : first.extent.TakesLongest firstWords)
    (othersTake : (seqOf operands).extent.TakesLongest secondWords)
    (parted : Parted firstWords secondWords) :
    (seqOf (first :: operands)).extent.TakesLongest
      (firstWords * secondWords) := by
  rw [extent_seqOf] at othersTake
  rw [extent_seqOf, List.map_cons, Extent.sequence_associates.cons]
  exact Extent.sequence_takesLongest firstTakes othersTake parted

theorem andThen_takesLongest
    (firstTakes : first.extent.TakesLongest firstWords)
    (secondTakes : second.extent.TakesLongest secondWords)
    (parted : Parted firstWords secondWords) :
    (first.andThen second).extent.TakesLongest (firstWords * secondWords) :=
  seqOf_cons_takesLongest firstTakes
    (seqOf_singleton_takesLongest secondTakes) parted

theorem many_takesLongest (takes : operand.extent.TakesLongest words)
    (parted : Parted words words) :
    operand.many.extent.TakesLongest words∗ := by
  rw [extent_many]
  exact Extent.many_takesLongest takes parted

theorem many1_takesLongest (takes : operand.extent.TakesLongest words)
    (parted : Parted words words) :
    operand.many1.extent.TakesLongest (words * words∗) := by
  rw [many1, extent_atLeast]
  exact Extent.many1_takesLongest takes parted

end

end Pattern

end TextPattern
