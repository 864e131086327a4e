import TextPattern.Count

/-!
# Arguments of the command line

Arguments are taken from left to right.  A request for the version or the help
text ends the reading at once; all other faults of the arguments are found
before anything else happens.
-/

namespace TextPattern

namespace Cli

/-- What is wrong with the arguments. -/
inductive UsageError where
  | unknownArgument (argument : String)
  | missingValue (option : String)
  | invalidValue (option value : String)
  | repeated (option : String)
  | unexpectedValue (option : String)
  | conflict (option other : String)
deriving DecidableEq, Repr

def UsageError.message : UsageError → String
  | unknownArgument argument => "unexpected argument '" ++ argument ++ "'"
  | missingValue option => "a value is required for '" ++ option ++ "'"
  | invalidValue option value =>
      "invalid value '" ++ value ++ "' for '" ++ option ++ "'"
  | repeated option =>
      "the argument '" ++ option ++ "' cannot be used multiple times"
  | unexpectedValue option => "unexpected value for '" ++ option ++ "'"
  | conflict option other =>
      "the argument '" ++ option ++ "' cannot be used with '" ++ other ++ "'"

/-- Where a pattern comes from. -/
inductive Selection where
  | named (name : String)
  | regex (expression : String)
  | compile (expression : String)
deriving DecidableEq, Repr

/-- What the arguments ask for. -/
structure Request where
  selection : Option Selection
  text : Option String
  begin : Nat
  scan : Bool
  describe : Bool
  list : Bool
deriving DecidableEq, Repr

inductive Command where
  | showVersion
  | showHelp
  | perform (request : Request)
deriving DecidableEq, Repr

inductive ValueOption where
  | pattern
  | regex
  | compile
  | begin
deriving DecidableEq, Repr

inductive Switch where
  | scan
  | describe
  | list
  | help
  | version
deriving DecidableEq, Repr

def ValueOption.name : ValueOption → String
  | pattern => "--pattern"
  | regex => "--regex"
  | compile => "--compile"
  | begin => "--begin"

def Switch.name : Switch → String
  | scan => "--scan"
  | describe => "--describe"
  | list => "--list"
  | help => "--help"
  | version => "--version"

def ValueOption.ofLetter? : Char → Option ValueOption
  | 'p' => some pattern
  | 'r' => some regex
  | 'c' => some compile
  | 'b' => some begin
  | _ => none

def Switch.ofLetter? : Char → Option Switch
  | 's' => some scan
  | 'd' => some describe
  | 'l' => some list
  | 'h' => some help
  | 'V' => some version
  | _ => none

def ValueOption.ofName? (name : String) : Option ValueOption :=
  [pattern, regex, compile, begin].find? fun option => option.name == name

def Switch.ofName? (name : String) : Option Switch :=
  [scan, describe, list, help, version].find?
    fun switch => switch.name == name

/-- A count as an argument: decimal digits, perhaps after a plus sign. -/
def parseCount? (value : String) : Option Nat :=
  let digits :=
    match value.toList with
    | '+' :: digits => digits
    | digits => digits
  if digits.isEmpty || !digits.all Char.isDigit then none
  else
    let count :=
      digits.foldl (fun count c => count * 10 + (c.toNat - 48)) 0
    if count < Count.limit then some count else none

/-- The arguments taken so far. -/
structure Taken where
  pattern : Option String := none
  regex : Option String := none
  compile : Option String := none
  begin : Option Nat := none
  text : Option String := none
  scan : Bool := false
  describe : Bool := false
  list : Bool := false

namespace Taken

def setValue (taken : Taken) (option : ValueOption) (value : String) :
    Except UsageError Taken :=
  match option with
  | .pattern =>
      if taken.pattern.isSome then .error (.repeated option.name)
      else .ok { taken with pattern := some value }
  | .regex =>
      if taken.regex.isSome then .error (.repeated option.name)
      else .ok { taken with regex := some value }
  | .compile =>
      if taken.compile.isSome then .error (.repeated option.name)
      else .ok { taken with compile := some value }
  | .begin =>
      if taken.begin.isSome then .error (.repeated option.name)
      else
        match parseCount? value with
        | some count => .ok { taken with begin := some count }
        | none => .error (.invalidValue option.name value)

def setText (taken : Taken) (text : String) : Except UsageError Taken :=
  if taken.text.isSome then .error (.unknownArgument text)
  else .ok { taken with text := some text }

/-- The pattern that was asked for.  It is given in one way at most. -/
def selection (taken : Taken) : Except UsageError (Option Selection) :=
  match taken.pattern, taken.regex, taken.compile with
  | none, none, none => .ok none
  | some name, none, none => .ok (some (.named name))
  | none, some expression, none => .ok (some (.regex expression))
  | none, none, some expression => .ok (some (.compile expression))
  | some _, some _, _ => .error (.conflict "--pattern" "--regex")
  | some _, none, some _ => .error (.conflict "--pattern" "--compile")
  | none, some _, some _ => .error (.conflict "--regex" "--compile")

def command (taken : Taken) : Except UsageError Command := do
  let selection ← taken.selection
  return .perform {
    selection
    text := taken.text
    begin := taken.begin.getD 0
    scan := taken.scan
    describe := taken.describe
    list := taken.list }

end Taken

/-- What a switch does: it is taken, or it ends the reading. -/
inductive Switched where
  | taken (taken : Taken)
  | done (command : Command)

def Switch.apply (taken : Taken) (switch : Switch) :
    Except UsageError Switched :=
  match switch with
  | .help => .ok (.done .showHelp)
  | .version => .ok (.done .showVersion)
  | .scan =>
      if taken.scan then .error (.repeated switch.name)
      else .ok (.taken { taken with scan := true })
  | .describe =>
      if taken.describe then .error (.repeated switch.name)
      else .ok (.taken { taken with describe := true })
  | .list =>
      if taken.list then .error (.repeated switch.name)
      else .ok (.taken { taken with list := true })

inductive Lettered where
  | taken (taken : Taken)
  | done (command : Command)
  /-- The last letter is an option whose value is the next argument. -/
  | waiting (taken : Taken) (option : ValueOption)

/-- Takes the letters after one minus sign.  Switches may stand together, and
what follows the letter of an option with a value is that value, perhaps after
an equals sign. -/
def takeLetters (taken : Taken) : List Char → Except UsageError Lettered
  | [] => .ok (.taken taken)
  | letter :: rest =>
      match Switch.ofLetter? letter, ValueOption.ofLetter? letter with
      | some switch, _ =>
          match switch.apply taken with
          | .error error => .error error
          | .ok (.done command) => .ok (.done command)
          | .ok (.taken taken) => takeLetters taken rest
      | none, some option =>
          match rest with
          | [] => .ok (.waiting taken option)
          | '=' :: value => do
              return .taken (← taken.setValue option (.ofList value))
          | value => do
              return .taken (← taken.setValue option (.ofList value))
      | none, none => .error (.unknownArgument (.ofList ['-', letter]))

def takeLong (taken : Taken) (argument : List Char) :
    Except UsageError Lettered :=
  let name := String.ofList (argument.takeWhile (· != '='))
  let value : Option String :=
    match argument.dropWhile (· != '=') with
    | _ :: value => some (.ofList value)
    | [] => none
  match Switch.ofName? name, ValueOption.ofName? name with
  | some switch, _ =>
      match value with
      | some _ => .error (.unexpectedValue name)
      | none =>
          match switch.apply taken with
          | .error error => .error error
          | .ok (.done command) => .ok (.done command)
          | .ok (.taken taken) => .ok (.taken taken)
  | none, some option =>
      match value with
      | some value => do return .taken (← taken.setValue option value)
      | none => .ok (.waiting taken option)
  | none, none => .error (.unknownArgument (.ofList argument))

def takeArgument (taken : Taken) (argument : String) :
    Except UsageError Lettered :=
  match argument.toList with
  | '-' :: '-' :: rest => takeLong taken ('-' :: '-' :: rest)
  | '-' :: letter :: rest => takeLetters taken (letter :: rest)
  | _ => do return .taken (← taken.setText argument)

/-- Whether an argument can be the value of the option before it. -/
def isValue (argument : String) : Bool :=
  match argument.toList with
  | '-' :: _ :: _ => false
  | _ => true

/-- Takes the arguments after the end of the options. -/
def takeTexts (taken : Taken) : List String → Except UsageError Command
  | [] => taken.command
  | argument :: arguments => do
      takeTexts (← taken.setText argument) arguments

/-- Takes the arguments from left to right.  An option whose value is still
missing takes the next argument. -/
def takeAll (taken : Taken) (waiting : Option ValueOption) :
    List String → Except UsageError Command
  | [] =>
      match waiting with
      | some option => .error (.missingValue option.name)
      | none => taken.command
  | argument :: arguments =>
      match waiting with
      | some option =>
          if isValue argument then do
            takeAll (← taken.setValue option argument) none arguments
          else .error (.missingValue option.name)
      | none =>
          if argument = "--" then takeTexts taken arguments
          else
            match takeArgument taken argument with
            | .error error => .error error
            | .ok (.done command) => .ok command
            | .ok (.taken taken) => takeAll taken none arguments
            | .ok (.waiting taken option) =>
                takeAll taken (some option) arguments

def parseArguments (arguments : List String) :
    Except UsageError Command :=
  takeAll {} none arguments

end Cli

end TextPattern
