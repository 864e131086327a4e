import TextPattern.Proofs.Extent.LongestPrefix
import TextPattern.Proofs.FaultFreedom

/-!
# Quoted texts

A quoted text is a mark, a repeated body and the same mark.  No word of the body
goes on as another one, so there is one way to divide a text into words of the
body, and the repetition finds it and stops at the first place where the body
mismatches.  What is left to ask is whether a mark stands there.  In a text with
backslash escapes the body never starts with the mark; where two marks stand for
one it does, so the closing mark is the last of an odd number of marks.
-/

open scoped Computability

namespace TextPattern

/-! ## The languages -/

namespace Words

open Text (oneChar)

/-- A mark, any number of words of a body, and the mark. -/
def delimited (mark : Char) (body : Language Char) : Language Char :=
  oneChar (fun c => c = mark) * body∗ * oneChar (fun c => c = mark)

/-- A backslash and the character it escapes, or a plain character. -/
def escapedOr (escapable plain : Char → Prop) : Language Char :=
  oneChar (fun c => c = '\\') * oneChar escapable + oneChar plain

def doubleQuoted : Language Char :=
  delimited '"' (escapedOr (fun _ => True) fun c => c ≠ '"' ∧ c ≠ '\\')

/-- A text between slashes, in which any character may be escaped. -/
def regexpLiteral : Language Char :=
  delimited '/' (escapedOr (fun _ => True)
    fun c => c ≠ '/' ∧ c ≠ '\\' ∧ c ≠ '\r' ∧ c ≠ '\n')

/-- A text between slashes, in which no line break may be escaped either. -/
def regexpLine : Language Char :=
  delimited '/' (escapedOr (fun c => c ≠ '\r' ∧ c ≠ '\n')
    fun c => c ≠ '/' ∧ c ≠ '\\' ∧ c ≠ '\r' ∧ c ≠ '\n')

/-- Two single quotes, or any other character. -/
def doubledOr : Language Char :=
  {['\'', '\'']} + oneChar fun c => c ≠ '\''

def singleQuoted : Language Char :=
  delimited '\'' doubledOr

end Words

/-! ## Bodies whose words do not go on -/

namespace Extent

open Text (prefixLengths oneChar Unextended)

section

variable {body : Extent} {words : Language Char} {mark : Char}
  {word text : List Char} {length : Nat}

theorem TakesLongest.eq_length (takes : body.TakesLongest words)
    (alone : Unextended words words) (member : word ∈ words)
    (rest : List Char) : body (word ++ rest) = some word.length := by
  have starts := List.prefix_append word rest
  obtain ⟨length, found, bound⟩ := takes.exists_of_prefix member starts
  obtain ⟨longest, longestMember, longestStarts, rfl⟩ :=
    (takes.greatest found).1
  obtain ⟨more, rfl⟩ :=
    List.prefix_of_prefix_length_le starts longestStarts bound
  rw [alone member longestMember, List.append_nil] at found
  exact found

/-- Words of the body are divided as they were put together. -/
theorem TakesLongest.many_append {contents rest : List Char}
    (takes : body.TakesLongest words) (alone : Unextended words words)
    (member : contents ∈ words∗) (stops : prefixLengths words rest = ∅) :
    many body (contents ++ rest) = contents.length := by
  obtain ⟨parts, rfl, members⟩ :=
    Language.mem_kstar_iff_exists_nonempty.mp member
  clear member
  induction parts with
  | nil =>
      have idle := atMost_of_idle (.inl (takes.eq_none_iff.mpr stops))
        rest.length
      simpa [many] using idle
  | cons part parts ih =>
      obtain ⟨⟨partMember, nonempty⟩, others⟩ :=
        List.forall_mem_cons.mp members
      have found := takes.eq_length alone partMember (parts.flatten ++ rest)
      obtain ⟨c, part, rfl⟩ := List.exists_cons_of_ne_nil nonempty
      rw [List.flatten_cons, List.append_assoc,
        many_of_moves takes.inside found, ← List.length_cons (a := c),
        List.drop_left, ih others, List.length_append]

theorem char_is_eq_some_iff :
    char (.is mark) text = some length ↔
      length = 1 ∧ ∃ rest, text = mark :: rest := by
  cases text with
  | nil => simp [char]
  | cons c rest =>
      rw [char, Option.ite_none_right_eq_some, Option.some.injEq,
        Predicate.test, beq_iff_eq]
      constructor
      · rintro ⟨rfl, rfl⟩
        exact ⟨rfl, rest, rfl⟩
      · rintro ⟨rfl, other, same⟩
        exact ⟨(List.cons.inj same).1.symm, rfl⟩

/-- The contents are words of the body, and the closing mark stands where no
word of the body starts. -/
theorem TakesLongest.delimited_eq_some_iff (takes : body.TakesLongest words)
    (alone : Unextended words words) (nonempty : [] ∉ words) :
    sequence [char (.is mark), repeated 0 none body, char (.is mark)] text =
        some length ↔
      ∃ contents ∈ words∗, ∃ rest,
        text = mark :: (contents ++ mark :: rest) ∧
        length = contents.length + 2 ∧
        prefixLengths words (mark :: rest) = ∅ := by
  rw [sequence_cons]
  simp only [sequence_pair, repeated_zero, Option.bind_some,
    Option.map_map, Option.bind_eq_some_iff, Option.map_eq_some_iff,
    char_is_eq_some_iff, more]
  constructor
  · rintro ⟨_, ⟨rfl, tail, rfl⟩, _, ⟨rfl, rest, closes⟩, rfl⟩
    rw [List.drop_succ_cons, List.drop_zero] at closes ⊢
    obtain ⟨contents, member, ⟨more, rfl⟩, total⟩ :=
      (takes.many_isGreatest alone.parted tail).1
    have stops := many_stops takes.inside (contents ++ more)
    rw [← total, List.drop_left] at closes
    rw [← total, List.drop_left, closes] at stops
    subst closes
    refine ⟨contents, member, rest, rfl, ?_, ?_⟩
    · simp only [Function.comp_apply, ← total]
      omega
    · rcases stops with mismatch | empty
      · exact takes.mismatch mismatch
      · obtain ⟨word, wordMember, -, none⟩ := (takes.greatest empty).1
        rw [List.length_eq_zero_iff.mp none] at wordMember
        exact absurd wordMember nonempty
  · rintro ⟨contents, member, rest, rfl, rfl, stops⟩
    have divided := takes.many_append alone member stops
    refine ⟨1, ⟨rfl, _, rfl⟩, 1, ⟨rfl, rest, ?_⟩, ?_⟩
    · rw [List.drop_succ_cons, List.drop_zero, divided, List.drop_left]
    · rw [List.drop_succ_cons, List.drop_zero, divided]
      simp only [Function.comp_apply]
      omega

end

end Extent

/-! ## Which words the bodies have -/

namespace Words

open Text (prefixLengths oneChar Unextended)

section

variable {escapable plain : Char → Prop}

/-- An escape has two characters and starts with the character that is not
plain. -/
theorem escapedOr_unextended (noBackslash : ¬ plain '\\') :
    Unextended (escapedOr escapable plain) (escapedOr escapable plain) := by
  rintro _ more (⟨_, ⟨_, rfl, rfl⟩, _, ⟨c, -, rfl⟩, rfl⟩ | ⟨c, isPlain, rfl⟩)
      (⟨_, ⟨_, rfl, rfl⟩, _, ⟨d, -, rfl⟩, same⟩ | ⟨d, otherPlain, same⟩)
  · exact (List.cons.inj (List.cons.inj same).2).2.symm
  · cases same
  · exact absurd ((List.cons.inj same).1 ▸ isPlain) noBackslash
  · exact (List.cons.inj same).2

theorem nil_notMem_escapedOr : [] ∉ escapedOr escapable plain := by
  rintro (⟨_, ⟨_, rfl, rfl⟩, _, _, same⟩ | ⟨_, _, same⟩)
  · cases same
  · cases same

theorem escapedOr_closed {c : Char} {rest : List Char}
    (noBackslash : c ≠ '\\') (notPlain : ¬ plain c) :
    prefixLengths (escapedOr escapable plain) (c :: rest) = ∅ := by
  rw [Text.prefixLengths_eq_empty_iff]
  rintro _ (⟨_, ⟨_, rfl, rfl⟩, _, -, rfl⟩ | ⟨d, isPlain, rfl⟩) starts
  · exact noBackslash (List.cons_prefix_cons.mp starts).1.symm
  · exact notPlain ((List.cons_prefix_cons.mp starts).1 ▸ isPlain)

end

theorem doubledOr_unextended : Unextended doubledOr doubledOr := by
  rintro _ more (rfl | ⟨c, other, rfl⟩) (longer | ⟨d, otherToo, longer⟩)
  · cases longer
    rfl
  · cases longer
  · exact absurd (List.cons.inj longer).1 other
  · exact (List.cons.inj longer).2

theorem nil_notMem_doubledOr : [] ∉ doubledOr := by
  rintro (same | ⟨_, _, same⟩)
  · cases same
  · cases same

/-- A single quote starts a word of the body only together with another one. -/
theorem doubledOr_closed_iff {rest : List Char} :
    prefixLengths doubledOr ('\'' :: rest) = ∅ ↔ rest.head? ≠ some '\'' := by
  rw [Text.prefixLengths_eq_empty_iff]
  constructor
  · intro none another
    obtain ⟨more, rfl⟩ := List.head?_eq_some_iff.mp another
    exact none ['\'', '\''] (.inl rfl) (List.prefix_append _ more)
  · rintro alone _ (rfl | ⟨c, other, rfl⟩) ⟨more, same⟩
    · rw [← (List.cons.inj same).2] at alone
      exact alone rfl
    · exact other (List.cons.inj same).1

theorem mem_prefixLengths_delimited_iff {mark : Char}
    {body : Language Char} {text : List Char} {length : Nat} :
    length ∈ prefixLengths (delimited mark body) text ↔
      ∃ contents ∈ body∗, ∃ rest,
        text = mark :: (contents ++ mark :: rest) ∧
        length = contents.length + 2 := by
  constructor
  · rintro ⟨_, ⟨_, ⟨_, ⟨_, rfl, rfl⟩, contents, member, rfl⟩, _, ⟨_, rfl, rfl⟩,
      rfl⟩, ⟨rest, rfl⟩, rfl⟩
    refine ⟨contents, member, rest, ?_, ?_⟩
    · simp
    · simp
  · rintro ⟨contents, member, rest, rfl, rfl⟩
    refine ⟨[mark] ++ contents ++ [mark], Language.append_mem_mul
      (Language.append_mem_mul ⟨mark, rfl, rfl⟩ member) ⟨mark, rfl, rfl⟩,
      ⟨rest, ?_⟩, ?_⟩
    · simp
    · simp

end Words

/-! ## The patterns -/

namespace Library

open Text (prefixLengths oneChar)
open Pattern (ofPredicate_takesLongest ofChar_takesLongest
  ofText_takesLongest orElse_takesLongest andThen_takesLongest)

variable {text : List Char} {length : Nat}

theorem extent_delimited (mark : Char) (body : Pattern) :
    (Pattern.seqOf [Pattern.ofChar mark, body.many,
        Pattern.ofChar mark]).extent =
      Extent.sequence [Extent.char (.is mark),
        Extent.repeated 0 none body.extent, Extent.char (.is mark)] := by
  rw [Pattern.extent_seqOf]
  simp only [List.map_cons, List.map_nil, Pattern.ofChar,
    Pattern.extent_ofPredicate, Pattern.extent_many]

theorem extent_anyChar :
    Pattern.anyChar.extent = Extent.char .always := by
  funext text
  cases text with
  | nil => rfl
  | cons c rest => simp [Pattern.anyChar, Pattern.take, Pattern.extent,
      Extent.hasAtLeast, Extent.char, Predicate.test]

theorem anyChar_takesLongest :
    Pattern.anyChar.extent.TakesLongest (oneChar fun _ => True) := by
  rw [extent_anyChar]
  exact Extent.char_takesLongest fun c => by simp [Predicate.test]

/-- A plain character is no backslash, so the two alternatives exclude each
other. -/
theorem escapedChar_orElse_takesLongest {predicate : Predicate}
    {plain : Char → Prop}
    (tests : ∀ c, predicate.test c = true ↔ plain c)
    (noBackslash : ¬ plain '\\') :
    (escapedChar.orElse (Pattern.ofPredicate predicate)).extent.TakesLongest
      (Words.escapedOr (fun _ => True) plain) := by
  refine orElse_takesLongest
    (andThen_takesLongest (ofChar_takesLongest '\\') anyChar_takesLongest
      Text.oneChar_unextended.parted)
    (ofPredicate_takesLongest tests) ?_
  refine Text.unextended_of_starts (fun c => c = '\\') ?_ ?_
  · rintro _ ⟨_, ⟨c, isBackslash, rfl⟩, _, -, rfl⟩
    exact ⟨c, _, rfl, isBackslash⟩
  · rintro c rest ⟨d, isPlain, same⟩ rfl
    obtain ⟨rfl, -⟩ := List.cons.inj same
    exact noBackslash isPlain

/-- Where the mark is no backslash and not plain, a backslash escapes all that
could close a text too early or too late. -/
theorem delimited_escapedChar_eq_some_iff {mark : Char}
    {predicate : Predicate} {plain : Char → Prop}
    (tests : ∀ c, predicate.test c = true ↔ plain c)
    (noBackslash : ¬ plain '\\') (markNotPlain : ¬ plain mark)
    (markNotBackslash : mark ≠ '\\') :
    (Pattern.seqOf [Pattern.ofChar mark,
        (escapedChar.orElse (Pattern.ofPredicate predicate)).many,
        Pattern.ofChar mark]).extent text = some length ↔
      length ∈ prefixLengths
        (Words.delimited mark (Words.escapedOr (fun _ => True) plain))
        text := by
  rw [extent_delimited, Words.mem_prefixLengths_delimited_iff,
    (escapedChar_orElse_takesLongest tests noBackslash).delimited_eq_some_iff
      (Words.escapedOr_unextended noBackslash) Words.nil_notMem_escapedOr]
  simp only [Words.escapedOr_closed markNotBackslash markNotPlain, and_true]

theorem doubleQuotedString_eq_some_iff :
    doubleQuotedString.extent text = some length ↔
      length ∈ prefixLengths Words.doubleQuoted text :=
  delimited_escapedChar_eq_some_iff
    (fun c => by simp [Predicate.test]) (by simp) (by simp) (by decide)

theorem doubled_takesLongest :
    ((Pattern.ofText .sensitive ['\'', '\'']).orElse
        (Pattern.ofPredicate (.isNot '\''))).extent.TakesLongest
      Words.doubledOr := by
  refine orElse_takesLongest (ofText_takesLongest ['\'', '\''])
    (ofPredicate_takesLongest fun c => ?_) ?_
  · rw [Predicate.test, bne_iff_ne, ne_comm]
  · rintro _ more rfl ⟨c, other, same⟩
    cases same

/-- Only a mark that no other one follows closes the text. -/
theorem singleQuotedString_eq_some_iff :
    singleQuotedString.extent text = some length ↔
      length ∈ prefixLengths Words.singleQuoted text ∧
        text[length]? ≠ some '\'' := by
  simp only [singleQuotedString]
  rw [extent_delimited, Words.singleQuoted,
    Words.mem_prefixLengths_delimited_iff,
    doubled_takesLongest.delimited_eq_some_iff Words.doubledOr_unextended
      Words.nil_notMem_doubledOr]
  have next : ∀ contents rest : List Char,
      ('\'' :: (contents ++ '\'' :: rest))[contents.length + 2]? =
        rest.head? := by
    intro contents rest
    rw [List.getElem?_cons_succ,
      List.getElem?_append_right (Nat.le_add_right _ _),
      Nat.add_sub_cancel_left, List.head?_eq_getElem?]
    rfl
  constructor
  · rintro ⟨contents, member, rest, rfl, rfl, closed⟩
    rw [next]
    exact ⟨⟨contents, member, rest, rfl, rfl⟩,
      Words.doubledOr_closed_iff.mp closed⟩
  · rintro ⟨⟨contents, member, rest, rfl, rfl⟩, alone⟩
    rw [next] at alone
    exact ⟨contents, member, rest, rfl, rfl,
      Words.doubledOr_closed_iff.mpr alone⟩

theorem regexpLiteral_eq_some_iff :
    regexpLiteral.extent text = some length ↔
      length ∈ prefixLengths Words.regexpLiteral text :=
  delimited_escapedChar_eq_some_iff
    (fun c => by simp [Predicate.test]; tauto) (by simp) (by simp) (by decide)

end Library

namespace Pattern

/-- A match gives the only one of some lengths, and a mismatch means that there
is none. -/
def MatchesExactly (pattern : Pattern) (source : Source) (window : Window)
    (lengths : Set Nat) : Prop :=
  ∃ result, pattern.matchIn source window = .ok result ∧
    (∀ length, result = some length ↔ length ∈ lengths) ∧
    (result = none ↔ lengths = ∅) ∧ lengths.Subsingleton

theorem Built.matchesExactly {pattern : Pattern} {source : Source}
    {window : Window} {lengths : Set Nat} (built : pattern.Built)
    (countable : source.Countable) (within : window.Within source)
    (found_iff : ∀ length,
      pattern.extent (window.text source) = some length ↔
        length ∈ lengths) :
    pattern.MatchesExactly source window lengths := by
  refine ⟨_, built.matchIn_eq_extent countable within, found_iff, ?_, ?_⟩
  · rw [Option.eq_none_iff_forall_ne_some, Set.eq_empty_iff_forall_notMem]
    simp only [ne_eq, found_iff]
  · intro first firstMember second secondMember
    rw [← found_iff] at firstMember secondMember
    exact Option.some.inj (firstMember.symm.trans secondMember)

namespace MatchesExactly

variable {pattern : Pattern} {source : Source} {window : Window}
  {lengths : Set Nat} {length : Nat}

theorem mem (exactly : pattern.MatchesExactly source window lengths)
    (found : pattern.matchIn source window = .ok (some length)) :
    length ∈ lengths := by
  obtain ⟨result, run, found_iff, -⟩ := exactly
  exact (found_iff length).mp (Except.ok.inj (run.symm.trans found))

theorem eq_singleton (exactly : pattern.MatchesExactly source window lengths)
    (found : pattern.matchIn source window = .ok (some length)) :
    lengths = {length} := by
  have member := exactly.mem found
  obtain ⟨-, -, -, -, alone⟩ := exactly
  exact alone.eq_singleton_of_mem member

end MatchesExactly

end Pattern

namespace Library

open Text (prefixLengths)

/-- A text in double quotes is matched as far as it reaches, and so is a text
in single quotes that no single quote follows; all else is a mismatch. -/
theorem quoted_strings_exact {source : Source} {window : Window}
    (countable : source.Countable) (within : window.Within source) :
    doubleQuotedString.MatchesExactly source window
      (prefixLengths Words.doubleQuoted (window.text source)) ∧
    singleQuotedString.MatchesExactly source window
      {length | length ∈
          prefixLengths Words.singleQuoted (window.text source) ∧
        (window.text source)[length]? ≠ some '\''} :=
  ⟨doubleQuotedString_built.matchesExactly countable within
      fun _ => doubleQuotedString_eq_some_iff,
    singleQuotedString_built.matchesExactly countable within
      fun _ => singleQuotedString_eq_some_iff⟩

/-- Two quotes that stand for one between the quotes of a text, of which the
first two and the last two would do as well if another quote did not follow or
were not missing. -/
theorem quoted_strings_exact_doubled :
    Source.Countable (.buffer #['\'', '\'', '\'', '\'', '"']) ∧
      Window.Within ⟨0, 4⟩ (.buffer #['\'', '\'', '\'', '\'', '"']) ∧
      singleQuotedString.matchIn
          (.buffer #['\'', '\'', '\'', '\'', '"']) ⟨0, 4⟩ =
        .ok (some 4) ∧
      {length | length ∈ prefixLengths Words.singleQuoted
          ['\'', '\'', '\'', '\''] ∧
        ['\'', '\'', '\'', '\''][length]? ≠ some '\''} = {4} := by
  have countable : Source.Countable
      (.buffer #['\'', '\'', '\'', '\'', '"']) := by decide
  have within : Window.Within ⟨0, 4⟩
      (.buffer #['\'', '\'', '\'', '\'', '"']) := by decide
  have found : singleQuotedString.matchIn
      (.buffer #['\'', '\'', '\'', '\'', '"']) ⟨0, 4⟩ = .ok (some 4) :=
    singleQuotedString_built.matchIn_eq_extent countable within
  exact ⟨countable, within, found,
    (quoted_strings_exact countable within).2.eq_singleton found⟩

end Library

/-! ## Line breaks in regular expressions -/

namespace Text

variable {first second language : Language Char} {kind plain : Char → Prop}

theorem oneChar_inf_madeOf :
    oneChar plain ⊓ madeOf kind = oneChar fun c => plain c ∧ kind c := by
  ext word
  constructor
  · rintro ⟨⟨c, isPlain, rfl⟩, allKind⟩
    exact ⟨c, ⟨isPlain, allKind c List.mem_cons_self⟩, rfl⟩
  · rintro ⟨c, ⟨isPlain, ofKind⟩, rfl⟩
    exact ⟨⟨c, isPlain, rfl⟩, List.forall_mem_singleton.mpr ofKind⟩

theorem add_inf_madeOf :
    (first + second) ⊓ madeOf kind =
      first ⊓ madeOf kind + second ⊓ madeOf kind :=
  inf_sup_right first second (madeOf kind)

theorem mul_inf_madeOf :
    (first * second) ⊓ madeOf kind =
      (first ⊓ madeOf kind) * (second ⊓ madeOf kind) := by
  ext word
  constructor
  · rintro ⟨⟨head, headMember, tail, tailMember, rfl⟩, allKind⟩
    obtain ⟨headKind, tailKind⟩ := List.forall_mem_append.mp allKind
    exact ⟨head, ⟨headMember, headKind⟩, tail, ⟨tailMember, tailKind⟩, rfl⟩
  · rintro ⟨head, ⟨headMember, headKind⟩, tail, ⟨tailMember, tailKind⟩, rfl⟩
    exact ⟨⟨head, headMember, tail, tailMember, rfl⟩,
      List.forall_mem_append.mpr ⟨headKind, tailKind⟩⟩

theorem kstar_inf_madeOf :
    language∗ ⊓ madeOf kind = (language ⊓ madeOf kind)∗ := by
  ext word
  constructor
  · rintro ⟨⟨parts, rfl, members⟩, allKind⟩
    refine Language.join_mem_kstar fun part member =>
      ⟨members part member, fun c inPart => ?_⟩
    exact allKind c (List.mem_flatten_of_mem member inPart)
  · rintro ⟨parts, rfl, members⟩
    refine ⟨Language.join_mem_kstar fun part member =>
      (members part member).1, fun c inWord => ?_⟩
    obtain ⟨part, member, inPart⟩ := List.mem_flatten.mp inWord
    exact (members part member).2 c inPart

end Text

namespace Words

open Text (oneChar madeOf prefixLengths)

/-- The texts without escaped line breaks are those without line breaks. -/
theorem regexpLine_eq :
    regexpLine = regexpLiteral ⊓ madeOf fun c => c ≠ '\r' ∧ c ≠ '\n' := by
  have kept : ∀ {plain : Char → Prop},
      (∀ c, plain c → c ≠ '\r' ∧ c ≠ '\n') →
      oneChar plain ⊓ madeOf (fun c => c ≠ '\r' ∧ c ≠ '\n') =
        oneChar plain :=
    fun included => inf_eq_left.mpr (Text.oneChar_le_madeOf included)
  simp only [regexpLine, regexpLiteral, delimited, escapedOr,
    Text.mul_inf_madeOf, Text.kstar_inf_madeOf, Text.add_inf_madeOf]
  rw [kept (by rintro _ rfl; decide), kept (by rintro _ rfl; decide),
    @Text.oneChar_inf_madeOf _ fun _ => True,
    kept (fun _ isPlain => isPlain.2.2)]
  simp only [true_and]

end Words

namespace Library

open Text (prefixLengths)

theorem mem_prefixLengths_regexpLine_iff {text : List Char}
    {length : Nat} :
    length ∈ prefixLengths Words.regexpLine text ↔
      length ∈ prefixLengths Words.regexpLiteral text ∧
        ∀ c ∈ text.take length, c ≠ '\r' ∧ c ≠ '\n' := by
  rw [Words.regexpLine_eq]
  constructor
  · rintro ⟨word, ⟨member, onOneLine⟩, starts, rfl⟩
    refine ⟨⟨word, member, starts, rfl⟩, ?_⟩
    rw [← List.prefix_iff_eq_take.mp starts]
    exact onOneLine
  · rintro ⟨⟨word, member, starts, rfl⟩, onOneLine⟩
    rw [← List.prefix_iff_eq_take.mp starts] at onOneLine
    exact ⟨word, ⟨member, onOneLine⟩, starts, rfl⟩

/-- In a literal a backslash escapes any character, a line break too.  So the
literals of a window are those of one line if and only if no line break is in
the match. -/
theorem regexp_literals_exact {source : Source} {window : Window}
    (countable : source.Countable) (within : window.Within source) :
    regexpLiteral.MatchesExactly source window
      (prefixLengths Words.regexpLiteral (window.text source)) ∧
    (regexpLiteral.MatchesExactly source window
        (prefixLengths Words.regexpLine (window.text source)) ↔
      ∀ length, regexpLiteral.matchIn source window = .ok (some length) →
        ∀ c ∈ (window.text source).take length, c ≠ '\r' ∧ c ≠ '\n') := by
  refine ⟨regexpLiteral_built.matchesExactly countable within
    fun _ => regexpLiteral_eq_some_iff, ?_⟩
  constructor
  · intro exactly length found
    exact (mem_prefixLengths_regexpLine_iff.mp (exactly.mem found)).2
  · intro onOneLine
    refine regexpLiteral_built.matchesExactly countable within fun length => ?_
    rw [mem_prefixLengths_regexpLine_iff, ← regexpLiteral_eq_some_iff,
      ← regexpLiteral_built.matchIn_eq_ok_iff countable within]
    exact ⟨fun found => ⟨found, onOneLine length found⟩, And.left⟩

/-- An escaped slash, and flags after the literal. -/
theorem regexp_literals_exact_escaped_slash :
    Source.Countable (.buffer #['/', 'a', '\\', '/', '/', 'g']) ∧
      Window.Within ⟨0, 6⟩ (.buffer #['/', 'a', '\\', '/', '/', 'g']) ∧
      regexpLiteral.matchIn (.buffer #['/', 'a', '\\', '/', '/', 'g'])
        ⟨0, 6⟩ = .ok (some 5) ∧
      5 ∈ prefixLengths Words.regexpLine
        ['/', 'a', '\\', '/', '/', 'g'] := by
  have countable : Source.Countable
      (.buffer #['/', 'a', '\\', '/', '/', 'g']) := by decide
  have within : Window.Within ⟨0, 6⟩
      (.buffer #['/', 'a', '\\', '/', '/', 'g']) := by decide
  have found : regexpLiteral.matchIn
      (.buffer #['/', 'a', '\\', '/', '/', 'g']) ⟨0, 6⟩ = .ok (some 5) :=
    regexpLiteral_built.matchIn_eq_extent countable within
  have oneLine := (regexp_literals_exact countable within).2.mpr (by
    intro length other
    have same := Option.some.inj (Except.ok.inj (other.symm.trans found))
    subst same
    simp [Window.text, Source.toList])
  exact ⟨countable, within, found, oneLine.mem found⟩

/-- A literal goes on after an escaped line break. -/
theorem regexpLiteral_spans_lines :
    regexpLiteral.matchIn (.buffer #['/', '\\', '\n', '/']) ⟨0, 4⟩ =
        .ok (some 4) ∧
      ¬ regexpLiteral.MatchesExactly (.buffer #['/', '\\', '\n', '/'])
        ⟨0, 4⟩ (prefixLengths Words.regexpLine ['/', '\\', '\n', '/']) := by
  have found : regexpLiteral.matchIn
      (.buffer #['/', '\\', '\n', '/']) ⟨0, 4⟩ = .ok (some 4) :=
    regexpLiteral_built.matchIn_eq_extent (by decide) (by decide)
  refine ⟨found, ?_⟩
  intro exactly
  have onOneLine :=
    (mem_prefixLengths_regexpLine_iff.mp (exactly.mem found)).2
  exact (onOneLine '\n' (by decide)).2 rfl

end Library

end TextPattern
