import TextPattern.Cli.Arguments
import TextPattern.Pattern.Describe
import TextPattern.Recipe
import TextPattern.Scan

/-!
# The command line

A run of the command line is a function from the arguments and the bytes of
the standard input to a report.  The standard input counts only when a text is
needed and no argument gives it.
-/

namespace TextPattern

namespace Cli

/-- What a run leaves behind. -/
structure Report where
  code : Nat
  stdout : String
  stderr : String
deriving DecidableEq, Repr

inductive RunError where
  | unknownName (name : String)
  | nothingSelected
  | unbuilt (error : BuildError)
  | invalidText
  | offsetPastEnd (offset size : Nat)
  | fault (fault : Fault)
deriving DecidableEq, Repr

def RunError.message : RunError → List Char
  | unknownName name =>
      "Unknown pattern '".toList ++ name.toList
        ++ "'. Use --list to see the names.".toList
  | nothingSelected =>
      "One of --pattern, --regex or --compile is required.".toList
  | unbuilt error => error.message
  | invalidText => "stream did not contain valid UTF-8".toList
  | offsetPastEnd offset size =>
      "Offset ".toList ++ Text.decimal offset
        ++ " is past the end of the text (".toList ++ Text.decimal size
        ++ " chars).".toList
  | fault _ => "internal fault".toList

def line (text : List Char) : String :=
  String.ofList (text ++ ['\n'])

def Selection.pattern : Selection → Except RunError Pattern
  | named name =>
      match Library.Entry.ofName? name with
      | some entry => .ok entry.pattern
      | none => .error (.unknownName name)
  | regex expression =>
      (Pattern.ofRegex expression.toList).mapError .unbuilt
  | compile expression =>
      (Dialect.compile expression.toList).mapError .unbuilt

def Request.pattern (request : Request) : Except RunError Pattern :=
  match request.selection with
  | some selection => selection.pattern
  | none => .error .nothingSelected

/-- The text to match: an argument or the standard input. -/
def Request.readText (request : Request) (input : ByteArray) :
    Except RunError String :=
  match request.text with
  | some text => .ok text
  | none =>
      match String.fromUTF8? input with
      | some text => .ok text
      | none => .error .invalidText

def Command.readsInput : Command → Bool
  | perform request => !request.list && request.text.isNone
  | _ => false

def spanLine (span : Span) : String :=
  line (Text.decimal span.first ++ ['.', '.'] ++ Text.decimal span.stop
    ++ ' ' :: Text.quoteText span.text)

def scanOutput (pattern : Pattern) (source : Source) (window : Window) :
    Except Fault String := do
  return String.join ((← pattern.spans source window).map spanLine)

def matchOutput (pattern : Pattern) (source : Source) (window : Window) :
    Except Fault String := do
  match ← pattern.matchIn source window with
  | none => return line "mismatch".toList
  | some length =>
      let text ← source.copy window.first (← Count.add window.first length)
      return line ("match: ".toList ++ Text.decimal length
        ++ ' ' :: Text.quoteText text)

def Request.matchText (request : Request) (pattern : Pattern)
    (text : String) : Except RunError String :=
  let source := Source.ofString text
  if source.size < request.begin then
    .error (.offsetPastEnd request.begin source.size)
  else
    let window : Window := ⟨request.begin, source.size⟩
    let output :=
      if request.scan then scanOutput pattern source window
      else matchOutput pattern source window
    output.mapError .fault

/-- The names of the ready-made patterns, one a line. -/
def listing : String :=
  String.join (Library.Entry.all.map fun entry => line entry.name.toList)

/-- The report of a run that printed something and then failed. -/
def failure (printed : String) (error : RunError) : Report :=
  ⟨1, printed, line ("Error: ".toList ++ error.message)⟩

def Request.run (request : Request) (input : ByteArray) : Report :=
  if request.list then ⟨0, listing, ""⟩
  else
    match request.pattern with
    | .error error => failure "" error
    | .ok pattern =>
        let printed := if request.describe then line pattern.describe else ""
        let output := do
          request.matchText pattern (← request.readText input)
        match output with
        | .error error => failure printed error
        | .ok output => ⟨0, printed ++ output, ""⟩

def versionText : String :=
  "charmatch 0.1.0\n"

def optionHelp : List (String × String) :=
  [("-p, --pattern <NAME>", "Named pattern from the built-in library"),
    ("-r, --regex <EXPR>  ",
      "Regular expression handed to the host regex engine"),
    ("-c, --compile <EXPR>",
      "Regular expression translated into combinators"),
    ("-b, --begin <BEGIN> ", "Character offset to match at [default: 0]"),
    ("-s, --scan          ",
      "Scan left to right, printing every non-empty match"),
    ("-d, --describe      ", "Print the pattern before matching"),
    ("-l, --list          ", "List the named patterns and exit"),
    ("-h, --help          ", "Print help"),
    ("-V, --version       ", "Print version")]

def helpText : String :=
  String.join (
    ["Character-level pattern combinators for building scanners and ",
      "tokenizers\n\n",
      "Usage: charmatch [OPTIONS] [TEXT]\n\n",
      "Arguments:\n",
      "  [TEXT]  Text to match; read from stdin when omitted\n\n",
      "Options:\n"]
    ++ optionHelp.map fun (option, effect) =>
      "  " ++ option ++ "  " ++ effect ++ "\n")

def Command.run (command : Command) (input : ByteArray) : Report :=
  match command with
  | showVersion => ⟨0, versionText, ""⟩
  | showHelp => ⟨0, helpText, ""⟩
  | perform request => request.run input

def usageReport (error : UsageError) : Report :=
  ⟨2, "", "error: " ++ error.message ++ "\n"⟩

/-- A run of the command line. -/
def run (arguments : List String) (input : ByteArray) : Report :=
  match parseArguments arguments with
  | .error error => usageReport error
  | .ok command => command.run input

end Cli

end TextPattern
