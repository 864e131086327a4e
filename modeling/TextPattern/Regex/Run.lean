import TextPattern.Regex.Program

/-!
# Running programs on a text

All ways through the expression are followed together, one character at a
time.  The threads are kept in order of preference, and an accepting thread
ends those that are preferred less, so the last acceptance recorded belongs to
the match that trying the choices one by one would find first.
-/

namespace TextPattern

namespace Regex

/-- A thread that waits for a character of the set. -/
structure Thread where
  set : CharSet
  next : Nat

namespace Program

/-- Follows the instructions on the stack that consume nothing, each at most
once: the waiting threads in order of preference, added before `threads` in
reverse, and whether a thread accepts.  Every instruction leaves at most two to
follow, which bounds the number of steps. -/
def follow (code : Code) (before after : Option Char) :
    Nat → List Nat → Array Bool → List Thread → List Thread × Bool
  | 0, _, _, threads => (threads.reverse, false)
  | _ + 1, [], _, threads => (threads.reverse, false)
  | steps + 1, number :: stack, seen, threads =>
      if seen.getD number true then
        follow code before after steps stack seen threads
      else
        let seen := seen.setIfInBounds number true
        match code[number]? with
        | none => follow code before after steps stack seen threads
        | some .accept => (threads.reverse, true)
        | some (.consume set next) =>
            follow code before after steps stack seen (⟨set, next⟩ :: threads)
        | some (.check condition next) =>
            let stack :=
              if condition.holds before after then next :: stack else stack
            follow code before after steps stack seen threads
        | some (.choose first second) =>
            follow code before after steps (first :: second :: stack) seen
              threads

/-- The threads at a position between two characters, and whether one
accepts there. -/
def threads (program : Program) (before after : Option Char)
    (starts : List Nat) : List Thread × Bool :=
  follow program.code before after
    (starts.length + 2 * program.code.size + 1) starts
    (Array.replicate program.code.size false) []

def advance (threads : List Thread) (c : Char) : List Nat :=
  threads.filterMap fun thread =>
    if thread.set.contains c then some thread.next else none

/-- The length of the preferred match, where `best` is what has been found so
far and `consumed` the number of characters before the rest of the text. -/
def runFrom (program : Program) (before : Option Char) (starts : List Nat)
    (best : Option Nat) (consumed : Nat) : List Char → Option Nat
  | [] =>
      if (program.threads before none starts).2 then some consumed else best
  | c :: rest =>
      let (threads, accepted) := program.threads before (some c) starts
      let best := if accepted then some consumed else best
      match advance threads c with
      | [] => best
      | starts => runFrom program (some c) starts best (consumed + 1) rest

/-- The length of the preferred match at the start of a text. -/
def run (program : Program) (text : List Char) : Option Nat :=
  program.runFrom none [program.entry] none 0 text

theorem runFrom_le {program : Program} {before : Option Char}
    {starts : List Nat} {best : Option Nat} {consumed length : Nat}
    {rest : List Char} (recorded : ∀ held, best = some held → held ≤ consumed)
    (found : program.runFrom before starts best consumed rest = some length) :
    length ≤ consumed + rest.length := by
  induction rest generalizing before starts best consumed with
  | nil =>
      simp only [runFrom] at found
      split at found
      · simp only [Option.some.injEq] at found
        omega
      · exact Nat.le_trans (recorded length found) (Nat.le_add_right _ _)
  | cons c rest ih =>
      simp only [runFrom] at found
      have kept : ∀ held,
          (if (program.threads before (some c) starts).2 then some consumed
            else best) = some held → held ≤ consumed := by
        intro held equality
        split at equality
        · simp only [Option.some.injEq] at equality
          omega
        · exact recorded held equality
      split at found
      · have bound := kept length found
        omega
      · have bound := ih (fun held equality => by
          have := kept held equality
          omega) found
        simp only [List.length_cons]
        omega

/-- A match does not reach past the end of the text. -/
theorem run_le {program : Program} {text : List Char} {length : Nat}
    (found : program.run text = some length) : length ≤ text.length := by
  have bound := runFrom_le (by simp) found
  omega

end Program

end Regex

end TextPattern
