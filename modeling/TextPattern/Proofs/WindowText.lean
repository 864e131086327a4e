import TextPattern.Window

/-!
# The text of a window

A window is looked at position by position.  Here it becomes the list of its
characters: reading the first position gives the head of the list, copying the
window gives the whole list, and a window that starts later shows what is left
after dropping from the list.  The three kinds of sources differ no more.
-/

namespace TextPattern

namespace Source

/-- The number of characters is itself a count. -/
def Countable (source : Source) : Prop :=
  source.size < Count.limit

instance (source : Source) : Decidable source.Countable :=
  inferInstanceAs (Decidable (_ < _))

@[simp] theorem length_toList (source : Source) :
    source.toList.length = source.size := by
  cases source with
  | buffer chars => simp [toList, size]
  | segment part =>
      have inside := part.inside
      simp only [toList, size, Array.length_toList, Array.size_extract]
      omega
  | reader chars => simp [toList, size]

theorem get?_eq_getElem? (source : Source) (index : Nat) :
    source.get? index = source.toList[index]? := by
  cases source with
  | buffer chars => simp [toList, get?]
  | segment part =>
      have inside := part.inside
      simp only [toList, get?, Array.getElem?_toList, Array.getElem?_extract]
      congr 1
      simp only [Nat.min_eq_left inside]
  | reader chars => simp [toList, get?]

theorem read_eq_ok {source : Source} {index : Nat} {c : Char}
    (found : source.toList[index]? = some c) : source.read index = .ok c := by
  simp [read, get?_eq_getElem?, found]

/-- Reading one by one gives the characters in order. -/
theorem readMany_eq_ok {source : Source} {count index : Nat}
    (bound : index + count ≤ source.size) :
    source.readMany index count =
      .ok ((source.toList.drop index).take count) := by
  induction count generalizing index with
  | zero => simp [readMany]
  | succ count ih =>
      have within : index < source.toList.length := by
        rw [length_toList]
        omega
      have head : source.read index = .ok source.toList[index] :=
        read_eq_ok (List.getElem?_eq_getElem within)
      have tail : source.readMany (index + 1) count =
          .ok ((source.toList.drop (index + 1)).take count) :=
        ih (by omega)
      rw [List.drop_eq_getElem_cons within]
      simp only [readMany, head, tail]
      rfl

/-- A copy holds the characters between its bounds, whatever the kind of the
source. -/
theorem copy_eq_ok {source : Source} {first stop : Nat}
    (ordered : first ≤ stop) (bound : stop ≤ source.size) :
    source.copy first stop =
      .ok ((source.toList.take stop).drop first) := by
  rw [List.drop_take]
  cases source with
  | buffer chars =>
      have accepted : first ≤ stop ∧ stop ≤ chars.size := ⟨ordered, bound⟩
      simp [copy, toList, accepted, List.extract_eq_take_drop]
  | segment part =>
      have accepted : first ≤ stop ∧ stop ≤ part.stop - part.start :=
        ⟨ordered, bound⟩
      have inside := part.inside
      simp only [copy, toList, accepted, and_self, if_true,
        Array.toList_extract, List.extract_eq_take_drop, List.drop_take,
        List.take_take, List.drop_drop, Except.ok.injEq]
      congr 1
      omega
  | reader chars =>
      have total : first + (stop - first) ≤ (reader chars).size := by omega
      simp only [copy, readMany_eq_ok total]

end Source

namespace Window

/-- The characters that a window shows. -/
def text (window : Window) (source : Source) : List Char :=
  (source.toList.take window.stop).drop window.first

theorem length_text {window : Window} {source : Source}
    (within : window.Within source) :
    (window.text source).length = window.stop - window.first := by
  simp [text, Nat.min_eq_left within.2]

@[simp] theorem text_whole (source : Source) :
    (whole source).text source = source.toList := by
  simp [text, whole, List.take_of_length_le]

/-- A window that starts later shows the rest of the text. -/
theorem text_advance (first stop count : Nat) (source : Source) :
    text ⟨first + count, stop⟩ source =
      (text ⟨first, stop⟩ source).drop count := by
  simp [text]

theorem copy_eq_text {window : Window} {source : Source}
    (within : window.Within source) :
    source.copy window.first window.stop = .ok (window.text source) :=
  Source.copy_eq_ok within.1 within.2

/-- Reading inside a window gives the character at that place of its text. -/
theorem read_eq_ok {window : Window} {source : Source} {index : Nat}
    {c : Char} {rest : List Char} (started : window.first ≤ index)
    (shown : text ⟨index, window.stop⟩ source = c :: rest) :
    window.read source index = .ok c := by
  have head : (text ⟨index, window.stop⟩ source)[0]? = some c := by
    rw [shown]
    rfl
  simp only [text, List.getElem?_drop, List.getElem?_take, Nat.add_zero]
    at head
  split at head
  next before => simp [read, started, before, Source.read_eq_ok head]
  next => cases head

end Window

end TextPattern
