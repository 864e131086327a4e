import TextPattern.Proofs.Extent.LongestPrefix
import TextPattern.Proofs.FaultFreedom

/-!
# Numbers and names

The patterns for numbers and names are read like regular expressions, although
they choose the first alternative that matches and never give back what a
repetition has taken.  For these expressions both readings agree: the next
character always settles how to go on, so each pattern finds the longest word of
its language with which the text starts.
-/

open scoped Computability

namespace TextPattern

/-! ## The languages -/

namespace Words

open Text (oneChar)

def digit : Language Char :=
  oneChar fun c => '0' ≤ c ∧ c ≤ '9'

def letter : Language Char :=
  oneChar fun c => ('A' ≤ c ∧ c ≤ 'Z') ∨ ('a' ≤ c ∧ c ≤ 'z')

def point : Language Char :=
  oneChar fun c => c = '.'

def integer : Language Char :=
  digit * digit∗

def fraction : Language Char :=
  point * integer

def strictDecimal : Language Char :=
  integer * (1 + point * digit∗)

def decimal : Language Char :=
  strictDecimal + fraction

def nameStart : Language Char :=
  oneChar fun c => ('A' ≤ c ∧ c ≤ 'Z') ∨ ('a' ≤ c ∧ c ≤ 'z') ∨ c = '_'

def namePart : Language Char :=
  oneChar fun c => ('A' ≤ c ∧ c ≤ 'Z') ∨ ('a' ≤ c ∧ c ≤ 'z') ∨
    ('0' ≤ c ∧ c ≤ '9') ∨ c = '_'

def name : Language Char :=
  nameStart * namePart∗

def octInteger : Language Char :=
  oneChar (fun c => c = '0') * (oneChar fun c => '0' ≤ c ∧ c ≤ '7')∗

def decInteger : Language Char :=
  oneChar (fun c => '1' ≤ c ∧ c ≤ '9') * digit∗

def hexDigit : Language Char :=
  oneChar fun c =>
    ('0' ≤ c ∧ c ≤ '9') ∨ ('a' ≤ c ∧ c ≤ 'f') ∨ ('A' ≤ c ∧ c ≤ 'F')

def hexInteger : Language Char :=
  ({['0', 'x']} + {['0', 'X']}) * (hexDigit * hexDigit∗)

def exponentMark : Language Char :=
  oneChar fun c => c = 'e' ∨ c = 'E'

def sign : Language Char :=
  oneChar fun c => c = '+' ∨ c = '-'

def scientificNotation : Language Char :=
  decimal * exponentMark * (1 + sign) * integer

def regexpModifiers : Language Char :=
  letter∗

end Words

/-! ## How their words start and go on -/

namespace Words

open Text (oneChar madeOf Unextended Parted)

theorem oneChar_parted {kind : Char → Prop} {language : Language Char} :
    Parted (oneChar kind) language :=
  Text.oneChar_unextended.parted

theorem integer_le_madeOf : integer ≤ madeOf fun c => '0' ≤ c ∧ c ≤ '9' :=
  have single := Text.oneChar_le_madeOf fun _ digit => digit
  Text.mul_le_madeOf single (Text.kstar_le_madeOf single)

theorem decimal_le_madeOf :
    decimal ≤ madeOf fun c => ('0' ≤ c ∧ c ≤ '9') ∨ c = '.' := by
  have digits : digit ≤ madeOf fun c => ('0' ≤ c ∧ c ≤ '9') ∨ c = '.' :=
    Text.oneChar_le_madeOf fun _ => .inl
  have points : point ≤ madeOf fun c => ('0' ≤ c ∧ c ≤ '9') ∨ c = '.' :=
    Text.oneChar_le_madeOf fun _ => .inr
  have integers := Text.mul_le_madeOf digits (Text.kstar_le_madeOf digits)
  have tails := Text.mul_le_madeOf points (Text.kstar_le_madeOf digits)
  exact sup_le
    (Text.mul_le_madeOf integers (sup_le Text.one_le_madeOf tails))
    (Text.mul_le_madeOf points integers)

theorem point_not_digit {c : Char} (isPoint : c = '.') :
    ¬ ('0' ≤ c ∧ c ≤ '9') := by
  rw [isPoint]
  decide

/-- The fraction of a decimal starts with a point, with which no integer goes
on. -/
theorem integer_parted : Parted integer (1 + point * digit∗) := by
  refine Text.parted_of_madeOf integer_le_madeOf ?_
  rintro c rest (empty | member)
  · cases empty
  · exact point_not_digit (Text.cons_mem_oneChar_mul_iff.mp member).1

/-- A decimal without digits before its point is none with them. -/
theorem strictDecimal_unextended : Unextended strictDecimal fraction := by
  refine Text.unextended_of_starts (fun c => '0' ≤ c ∧ c ≤ '9') ?_ ?_
  · rintro _ ⟨_, ⟨_, ⟨c, isDigit, rfl⟩, _, -, rfl⟩, _, -, rfl⟩
    exact ⟨c, _, rfl, isDigit⟩
  · intro c rest member
    exact point_not_digit (Text.cons_mem_oneChar_mul_iff.mp member).1

theorem sign_parted : Parted (1 + sign) integer := by
  have signs : sign ≤ madeOf fun c => c = '+' ∨ c = '-' :=
    Text.oneChar_le_madeOf fun _ isSign => isSign
  refine Text.parted_of_madeOf (sup_le Text.one_le_madeOf signs) ?_
  intro c rest member isSign
  have isDigit := (Text.cons_mem_oneChar_mul_iff.mp member).1
  rcases isSign with rfl | rfl
  · exact absurd isDigit (by decide)
  · exact absurd isDigit (by decide)

theorem decimal_parted {language : Language Char} :
    Parted decimal (exponentMark * language) := by
  refine Text.parted_of_madeOf decimal_le_madeOf ?_
  intro c rest member inDecimal
  rcases (Text.cons_mem_oneChar_mul_iff.mp member).1 with rfl | rfl
  · exact absurd inDecimal (by decide)
  · exact absurd inDecimal (by decide)

theorem hexMarks_unextended :
    Unextended ({['0', 'x']} : Language Char) {['0', 'X']} := by
  rintro _ more rfl longer
  cases longer

/-- Both marks have two characters, so neither goes on as the other. -/
theorem hexMarks_parted {language : Language Char} :
    Parted ({['0', 'x']} + {['0', 'X']}) language := by
  apply Unextended.parted
  rintro _ more (rfl | rfl) (longer | longer)
  · cases longer
    rfl
  · cases longer
  · cases longer
  · cases longer
    rfl

end Words

/-! ## Tests of one character -/

namespace Predicate

theorem test_digit_iff {c : Char} :
    digit.test c = true ↔ '0' ≤ c ∧ c ≤ '9' := by
  simp only [test, Char.isDigit, Bool.and_eq_true, decide_eq_true_eq]
  rfl

theorem test_alpha_iff {c : Char} :
    alpha.test c = true ↔ ('A' ≤ c ∧ c ≤ 'Z') ∨ ('a' ≤ c ∧ c ≤ 'z') := by
  have upper : c.isUpper = true ↔ 'A' ≤ c ∧ c ≤ 'Z' := decide_eq_true_iff
  have lower : c.isLower = true ↔ 'a' ≤ c ∧ c ≤ 'z' :=
    Bool.and_eq_true_iff.trans
      (and_congr decide_eq_true_iff decide_eq_true_iff)
  calc alpha.test c = true
      ↔ c.isUpper = true ∨ c.isLower = true := Bool.or_eq_true_iff
    _ ↔ _ := or_congr upper lower

theorem test_alphaUnderscore_iff {c : Char} :
    alphaUnderscore.test c = true ↔
      ('A' ≤ c ∧ c ≤ 'Z') ∨ ('a' ≤ c ∧ c ≤ 'z') ∨ c = '_' := by
  have letters := @test_alpha_iff c
  simp only [test, Bool.or_eq_true, beq_iff_eq] at letters ⊢
  rw [letters, or_comm, or_assoc]

theorem test_alphaNumericUnderscore_iff {c : Char} :
    alphaNumericUnderscore.test c = true ↔
      ('A' ≤ c ∧ c ≤ 'Z') ∨ ('a' ≤ c ∧ c ≤ 'z') ∨
        ('0' ≤ c ∧ c ≤ '9') ∨ c = '_' := by
  have letters := @test_alpha_iff c
  have digits := @test_digit_iff c
  simp only [test, Char.isAlphanum, Bool.or_eq_true, beq_iff_eq]
    at letters digits ⊢
  rw [letters, digits, or_comm, or_assoc, or_assoc]

theorem test_hexDigit_iff {c : Char} :
    hexDigit.test c = true ↔
      ('0' ≤ c ∧ c ≤ '9') ∨ ('a' ≤ c ∧ c ≤ 'f') ∨ ('A' ≤ c ∧ c ≤ 'F') := by
  have digits := @test_digit_iff c
  simp only [test, isHexDigit, Bool.or_eq_true, Bool.and_eq_true,
    decide_eq_true_eq] at digits ⊢
  rw [digits, or_assoc]

theorem test_range_iff {lo hi c : Char} :
    (range lo hi).test c = true ↔ lo ≤ c ∧ c ≤ hi := by
  simp only [test, Bool.and_eq_true, decide_eq_true_eq]

theorem test_among_pair_iff {first second c : Char} :
    (among [first, second]).test c = true ↔ c = first ∨ c = second := by
  simp [test]

end Predicate

/-! ## The patterns -/

namespace Library

open Pattern (ofPredicate_takesLongest ofChar_takesLongest
  ofText_takesLongest opt_takesLongest orElse_takesLongest
  seqOf_cons_takesLongest seqOf_singleton_takesLongest andThen_takesLongest
  many_takesLongest many1_takesLongest)
open Words (oneChar_parted)

theorem integer_takesLongest :
    integer.extent.TakesLongest Words.integer :=
  many1_takesLongest
    (ofPredicate_takesLongest fun _ => Predicate.test_digit_iff)
    oneChar_parted

theorem fraction_takesLongest :
    fraction.extent.TakesLongest Words.fraction :=
  andThen_takesLongest (ofChar_takesLongest '.') integer_takesLongest
    oneChar_parted

theorem digits_takesLongest :
    (Pattern.ofPredicate .digit).many.extent.TakesLongest Words.digit∗ :=
  many_takesLongest
    (ofPredicate_takesLongest fun _ => Predicate.test_digit_iff)
    oneChar_parted

theorem strictDecimal_takesLongest :
    strictDecimal.extent.TakesLongest Words.strictDecimal :=
  have tail := andThen_takesLongest (ofChar_takesLongest '.')
    digits_takesLongest oneChar_parted
  andThen_takesLongest integer_takesLongest (opt_takesLongest tail)
    Words.integer_parted

theorem decimal_takesLongest :
    decimal.extent.TakesLongest Words.decimal :=
  orElse_takesLongest strictDecimal_takesLongest fraction_takesLongest
    Words.strictDecimal_unextended

theorem word_takesLongest : word.extent.TakesLongest Words.name :=
  andThen_takesLongest
    (ofPredicate_takesLongest fun _ => Predicate.test_alphaUnderscore_iff)
    (many_takesLongest (ofPredicate_takesLongest fun _ =>
      Predicate.test_alphaNumericUnderscore_iff) oneChar_parted)
    oneChar_parted

theorem octInteger_takesLongest :
    octInteger.extent.TakesLongest Words.octInteger :=
  andThen_takesLongest (ofChar_takesLongest '0')
    (many_takesLongest
      (ofPredicate_takesLongest fun _ => Predicate.test_range_iff)
      oneChar_parted)
    oneChar_parted

theorem decInteger_takesLongest :
    decInteger.extent.TakesLongest Words.decInteger :=
  andThen_takesLongest
    (ofPredicate_takesLongest fun _ => Predicate.test_range_iff)
    digits_takesLongest oneChar_parted

theorem hexInteger_takesLongest :
    hexInteger.extent.TakesLongest Words.hexInteger :=
  have marks := orElse_takesLongest (ofText_takesLongest ['0', 'x'])
    (ofText_takesLongest ['0', 'X']) Words.hexMarks_unextended
  have digits := many1_takesLongest
    (ofPredicate_takesLongest fun _ => Predicate.test_hexDigit_iff)
    oneChar_parted
  andThen_takesLongest marks digits Words.hexMarks_parted

theorem oneOf_pair_takesLongest (first second : Char) :
    (Pattern.oneOf [first, second]).extent.TakesLongest
      (Text.oneChar fun c => c = first ∨ c = second) :=
  ofPredicate_takesLongest fun _ => Predicate.test_among_pair_iff

theorem scientificNotation_takesLongest :
    scientificNotation.extent.TakesLongest Words.scientificNotation := by
  rw [Words.scientificNotation, mul_assoc, mul_assoc]
  have exponent := seqOf_cons_takesLongest
    (opt_takesLongest (oneOf_pair_takesLongest '+' '-'))
    (seqOf_singleton_takesLongest integer_takesLongest) Words.sign_parted
  have marked := seqOf_cons_takesLongest (oneOf_pair_takesLongest 'e' 'E')
    exponent oneChar_parted
  exact seqOf_cons_takesLongest decimal_takesLongest marked
    Words.decimal_parted

theorem regexpModifiers_takesLongest :
    regexpModifiers.extent.TakesLongest Words.regexpModifiers :=
  many_takesLongest
    (ofPredicate_takesLongest fun _ => Predicate.test_alpha_iff)
    oneChar_parted

/-- The patterns for numbers and names, each with the words that it is for. -/
def numbersAndNames : List (Pattern × Language Char) :=
  [(integer, Words.integer),
    (fraction, Words.fraction),
    (strictDecimal, Words.strictDecimal),
    (decimal, Words.decimal),
    (word, Words.name),
    (octInteger, Words.octInteger),
    (decInteger, Words.decInteger),
    (hexInteger, Words.hexInteger),
    (scientificNotation, Words.scientificNotation),
    (regexpModifiers, Words.regexpModifiers)]

theorem numbersAndNames_takeLongest :
    ∀ entry ∈ numbersAndNames,
      entry.1.Built ∧ entry.1.extent.TakesLongest entry.2 := by
  simp only [numbersAndNames, List.forall_mem_cons, List.not_mem_nil,
    false_imp_iff, implies_true, and_true]
  exact ⟨⟨integer_built, integer_takesLongest⟩,
    ⟨fraction_built, fraction_takesLongest⟩,
    ⟨strictDecimal_built, strictDecimal_takesLongest⟩,
    ⟨decimal_built, decimal_takesLongest⟩,
    ⟨word_built, word_takesLongest⟩,
    ⟨octInteger_built, octInteger_takesLongest⟩,
    ⟨decInteger_built, decInteger_takesLongest⟩,
    ⟨hexInteger_built, hexInteger_takesLongest⟩,
    ⟨scientificNotation_built, scientificNotation_takesLongest⟩,
    ⟨regexpModifiers_built, regexpModifiers_takesLongest⟩⟩

/-- A pattern for numbers or names mismatches if the window starts with no word
of its language, and otherwise consumes the longest one. -/
theorem numbers_and_names_longest {source : Source} {window : Window}
    (countable : source.Countable) (within : window.Within source) :
    ∀ entry ∈ numbersAndNames, ∃ result,
      entry.1.matchIn source window = .ok result ∧
      (result = none ↔
        ∀ word ∈ entry.2, ¬ word <+: window.text source) ∧
      ∀ length, result = some length ↔
        IsGreatest (Text.prefixLengths entry.2 (window.text source))
          length := by
  intro entry member
  obtain ⟨built, takes⟩ := numbersAndNames_takeLongest entry member
  refine ⟨_, built.matchIn_eq_extent countable within, ?_,
    fun length => takes.eq_some_iff⟩
  rw [takes.eq_none_iff, Text.prefixLengths_eq_empty_iff]

/-- A decimal and a signed exponent, before a point that no longer counts, in a
window that starts later than its source. -/
theorem numbers_and_names_longest_exponent :
    Source.Countable (.buffer #['x', '1', '.', '5', 'e', '-', '2', '.']) ∧
      Window.Within ⟨1, 8⟩
        (.buffer #['x', '1', '.', '5', 'e', '-', '2', '.']) ∧
      (scientificNotation, Words.scientificNotation) ∈ numbersAndNames ∧
      scientificNotation.matchIn
          (.buffer #['x', '1', '.', '5', 'e', '-', '2', '.']) ⟨1, 8⟩ =
        .ok (some 6) ∧
      IsGreatest (Text.prefixLengths Words.scientificNotation
        ['1', '.', '5', 'e', '-', '2', '.']) 6 := by
  have countable : Source.Countable
      (.buffer #['x', '1', '.', '5', 'e', '-', '2', '.']) := by decide
  have within : Window.Within ⟨1, 8⟩
      (.buffer #['x', '1', '.', '5', 'e', '-', '2', '.']) := by decide
  have listed : (scientificNotation, Words.scientificNotation) ∈
      numbersAndNames := by
    simp [numbersAndNames]
  have found : scientificNotation.matchIn
      (.buffer #['x', '1', '.', '5', 'e', '-', '2', '.']) ⟨1, 8⟩ =
        .ok (some 6) :=
    scientificNotation_built.matchIn_eq_extent countable within
  obtain ⟨result, run, -, longest⟩ :=
    numbers_and_names_longest countable within _ listed
  exact ⟨countable, within, listed, found,
    (longest 6).mp (Except.ok.inj (run.symm.trans found))⟩

end Library

end TextPattern
