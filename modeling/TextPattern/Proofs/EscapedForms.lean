import TextPattern.Text.Escape

/-!
# Reading escaped characters back

An escaped character shows where it ends, whatever follows: a backslash takes
one more character, or a code point up to its brace, and every other character
stands for itself.  So it can be read back, and its first character is the
character itself unless that is a backslash.
-/

namespace TextPattern

namespace Text

/-! ## Code points -/

/-- The value of a digit or a small letter in base sixteen. -/
def hexDigitValue (digit : Char) : Nat :=
  if digit.toNat < 58 then digit.toNat - 48 else digit.toNat - 87

def hexValue (digits : List Char) : Nat :=
  digits.foldl (fun value digit => value * 16 + hexDigitValue digit) 0

theorem hexDigitValue_hexDigit :
    ∀ n < 16, hexDigitValue (hexDigit n) = n := by
  decide

theorem hexDigit_ne_brace : ∀ n < 16, hexDigit n ≠ '\x7d' := by
  decide

theorem hexValue_hexDigits (n : Nat) : hexValue (hexDigits n) = n := by
  induction n using hexDigits.induct with
  | case1 n small =>
      rw [hexDigits, if_pos small, hexValue, List.foldl_cons, List.foldl_nil,
        hexDigitValue_hexDigit n small]
      omega
  | case2 n large ih =>
      have last : n % 16 < 16 := Nat.mod_lt n (by decide)
      rw [hexValue] at ih
      rw [hexDigits, if_neg large, hexValue, List.foldl_append, ih,
        List.foldl_cons, List.foldl_nil, hexDigitValue_hexDigit _ last]
      omega

theorem ne_brace_of_mem_hexDigits {n : Nat} {digit : Char}
    (member : digit ∈ hexDigits n) : digit ≠ '\x7d' := by
  induction n using hexDigits.induct with
  | case1 n small =>
      rw [hexDigits, if_pos small, List.mem_singleton] at member
      rw [member]
      exact hexDigit_ne_brace n small
  | case2 n large ih =>
      rw [hexDigits, if_neg large, List.mem_append, List.mem_singleton]
        at member
      rcases member with earlier | last
      · exact ih earlier
      · rw [last]
        exact hexDigit_ne_brace _ (Nat.mod_lt n (by decide))

/-! ## Characters -/

/-- The character that a letter after a backslash stands for. -/
def unescape : Char → Char
  | '0' => '\x00'
  | 't' => '\t'
  | 'r' => '\r'
  | 'n' => '\n'
  | c => c

/-- Reads an escaped character: the character and what follows. -/
def readEscaped : List Char → Option (Char × List Char)
  | '\\' :: 'u' :: '\x7b' :: rest =>
      let digits := rest.takeWhile (· != '\x7d')
      some (Char.ofNat (hexValue digits), rest.drop (digits.length + 1))
  | '\\' :: letter :: rest => some (unescape letter, rest)
  | c :: rest => some (c, rest)
  | [] => none

theorem readEscaped_plain {c : Char} (plain : c ≠ '\\') (rest : List Char) :
    readEscaped (c :: rest) = some (c, rest) := by
  simp [readEscaped, plain]

theorem readEscaped_letter {letter : Char} (named : letter ≠ 'u')
    (rest : List Char) :
    readEscaped ('\\' :: letter :: rest) = some (unescape letter, rest) := by
  simp [readEscaped, named]

theorem unescape_eq {c letter : Char}
    (named : escapeLetter? c = some letter) :
    letter ≠ 'u' ∧ unescape letter = c := by
  unfold escapeLetter? at named
  -- One case for each named escape, and one without a letter.
  repeat' split at named
  all_goals cases named
  all_goals exact ⟨by decide, Eq.symm ‹_›⟩

theorem unescape_eq_of_marks {quoting : Quoting} {c : Char}
    (marked : quoting.marks c = true) : c ≠ 'u' ∧ unescape c = c := by
  have quote : c = '\'' ∨ c = '"' := by
    simp only [Quoting.marks, Bool.or_eq_true, Bool.and_eq_true, beq_iff_eq]
      at marked
    exact marked.imp And.left And.left
  rcases quote with same | same
  · rw [same]
    exact ⟨by decide, rfl⟩
  · rw [same]
    exact ⟨by decide, rfl⟩

theorem readEscaped_codePoint (c : Char) (rest : List Char) :
    readEscaped (codePoint c ++ rest) = some (c, rest) := by
  have digits : (hexDigits c.toNat ++ '\x7d' :: rest).takeWhile
      (· != '\x7d') = hexDigits c.toNat := by
    rw [List.takeWhile_append_of_pos]
    · simp
    · intro digit member
      exact bne_iff_ne.mpr (ne_brace_of_mem_hexDigits member)
  simp only [codePoint, List.cons_append, List.nil_append, List.append_assoc,
    readEscaped, digits, hexValue_hexDigits, Char.ofNat_toNat]
  rw [List.drop_append, List.drop_of_length_le (Nat.le_succ _),
    Nat.add_sub_cancel_left]
  rfl

/-- An escaped character is read back, whatever follows it. -/
theorem readEscaped_escape (quoting : Quoting) (c : Char) (rest : List Char) :
    readEscaped (escape quoting c ++ rest) = some (c, rest) := by
  unfold escape
  split
  next letter named =>
    obtain ⟨noCodePoint, same⟩ := unescape_eq named
    exact same ▸ readEscaped_letter noCodePoint rest
  next unnamed =>
    have plain : c ≠ '\\' := by
      intro backslash
      rw [backslash] at unnamed
      cases unnamed
    split
    next marked =>
      obtain ⟨noCodePoint, same⟩ := unescape_eq_of_marks marked
      have read := readEscaped_letter noCodePoint rest
      rw [same] at read
      exact read
    next =>
      split
      next => exact readEscaped_plain plain rest
      next => exact readEscaped_codePoint c rest

/-- Only a backslash at the start hides which character is escaped. -/
theorem eq_of_escape_append {quoting : Quoting} {c first : Char}
    {rest others : List Char} (plain : first ≠ '\\')
    (shown : escape quoting c ++ rest = first :: others) :
    c = first ∧ rest = others := by
  have read := readEscaped_escape quoting c rest
  rw [shown, readEscaped_plain plain] at read
  cases read
  exact ⟨rfl, rfl⟩

end Text

end TextPattern
