import TextPattern.Recipe

/-!
# Sessions

A session keeps named patterns and the source to match against.  Patterns do
not change: giving a name to a new pattern leaves the patterns built from the
old one as they were.
-/

namespace TextPattern

/-- Named patterns, the latest first, and the current source. -/
structure Session where
  bindings : List (String × Pattern)
  source : Source

namespace Session

def empty : Session :=
  ⟨[], .buffer #[]⟩

def find? (session : Session) (name : String) : Option Pattern :=
  session.bindings.lookup name

/-- What can be done in a session. -/
inductive Step where
  | define (name : String) (recipe : Recipe)
  | load (source : Source)
  /-- Matches in a window of the source, or in all of it. -/
  | attempt (recipe : Recipe) (window : Option Window)

inductive Answer where
  | defined (pattern : Pattern)
  | loaded (size : Nat)
  | attempted (result : Except Fault (Option Nat))
  | rejected (error : BuildError)

/-- Takes one step.  A recipe that fails leaves the session as it was. -/
def step (session : Session) : Step → Session × Answer
  | .define name recipe =>
      match recipe.build with
      | .error error => (session, .rejected error)
      | .ok pattern =>
          ({ session with bindings := (name, pattern) :: session.bindings },
            .defined pattern)
  | .load source => ({ session with source }, .loaded source.size)
  | .attempt recipe window =>
      match recipe.build with
      | .error error => (session, .rejected error)
      | .ok pattern =>
          let window := window.getD (.whole session.source)
          (session, .attempted (pattern.matchIn session.source window))

end Session

end TextPattern
