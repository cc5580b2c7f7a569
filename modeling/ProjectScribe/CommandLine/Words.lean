import ProjectScribe.CommandLine.Arguments
import ProjectScribe.Text.Pieces

/-!
# The words of a command line

Options have a long name after two hyphens, and some a letter after one; letters may be run
together. An option that takes a value finds it after an equals sign, directly behind its letter,
or in the next word. After a word of two hyphens, and wherever no option stands, words are project
files.

What an option or a run of project files says takes effect only when the next of them begins, or
at the end: so a missing value is found out late, and an unknown option before it.
-/
namespace ProjectScribe.CommandLine

/-- The options without a value. -/
inductive Switch where
  | strict
  | requireFiles
  | timestamp
  | verbose
  | quiet
  | help
  | version
deriving DecidableEq, Repr

/-- The options with a value. -/
inductive Choice where
  | output
  | root
  | settings
  | authoritative
deriving DecidableEq, Repr

/-- The options by their long names. -/
def longOption? : String → Option (Switch ⊕ Choice)
  | "strict" => some (.inl .strict)
  | "require-files" => some (.inl .requireFiles)
  | "timestamp" => some (.inl .timestamp)
  | "verbose" => some (.inl .verbose)
  | "quiet" => some (.inl .quiet)
  | "help" => some (.inl .help)
  | "version" => some (.inl .version)
  | "output" => some (.inr .output)
  | "root" => some (.inr .root)
  | "settings" => some (.inr .settings)
  | "authoritative-config" => some (.inr .authoritative)
  | _ => none

/-- The options by their letters. -/
def shortOption? : Char → Option (Switch ⊕ Choice)
  | 'o' => some (.inr .output)
  | 'v' => some (.inl .verbose)
  | 'q' => some (.inl .quiet)
  | 'h' => some (.inl .help)
  | 'V' => some (.inl .version)
  | _ => none

/-- What has been said but has not taken effect yet. -/
inductive Pending where
  | nothing
  /-- An option, with its value if that is there already. -/
  | choice (choice : Choice) (value : Option String)
  /-- A run of project files. -/
  | projects (names : List String)
deriving DecidableEq, Repr

/-- How far a command line has been read. -/
structure State where
  arguments : Arguments := {}
  pending : Pending := .nothing
  /-- Whether all that follows is project files. -/
  isTrailing : Bool := false
deriving DecidableEq, Repr

namespace State

/-- The value that an option has already. -/
def valueOf (arguments : Arguments) : Choice → Option String
  | .output => arguments.output
  | .root => arguments.root
  | .settings => arguments.settingsFile
  | .authoritative => arguments.authoritative

/-- Arguments with a value for an option. -/
def withValue (arguments : Arguments) (value : String) : Choice → Arguments
  | .output => { arguments with output := some value }
  | .root => { arguments with root := some value }
  | .settings => { arguments with settingsFile := some value }
  | .authoritative => { arguments with authoritative := some value }

/-- Give an option its value. No option is given twice, and a path is not empty. -/
def choose (state : State) (choice : Choice) (value : String) : Except UsageError State :=
  if (valueOf state.arguments choice).isSome then .error .conflict
  else if value = "" ∧ choice ≠ .authoritative then .error .invalidValue
  else .ok { state with arguments := withValue state.arguments value choice }

/-- Let what is pending take effect. -/
def settle (state : State) : Except UsageError State :=
  let settled := { state with pending := .nothing }
  match state.pending with
  | .nothing => .ok settled
  | .choice _ none => .error .invalidValue
  | .choice choice (some value) => settled.choose choice value
  | .projects names =>
    if "" ∈ names then .error .invalidValue
    else
      let arguments := { state.arguments with projects := state.arguments.projects ++ names }
      .ok { settled with arguments := arguments }

/-- Turn on a switch that is off. -/
def turnOn (isOn : Bool) (state : State) : Except UsageError State :=
  if isOn then .error .conflict else .ok state

/-- What a switch does. Only the one for more output may be repeated. -/
def flip (state : State) (switch : Switch) : Except UsageError State := do
  let settled ← state.settle
  let arguments := settled.arguments
  match switch with
  | .strict =>
    turnOn arguments.isStrict { settled with arguments := { arguments with isStrict := true } }
  | .requireFiles =>
    turnOn arguments.requiresFiles
      { settled with arguments := { arguments with requiresFiles := true } }
  | .timestamp =>
    turnOn arguments.emitsTimestamp
      { settled with arguments := { arguments with emitsTimestamp := true } }
  | .quiet =>
    turnOn arguments.isQuiet { settled with arguments := { arguments with isQuiet := true } }
  | .verbose =>
    let verbosity := min 255 (arguments.verbosity + 1)
    return { settled with arguments := { arguments with verbosity := verbosity } }
  | .help => throw .displayHelp
  | .version => throw .displayVersion

/-- What an option with a value does: it takes the attached value, or waits for one. -/
def start (state : State) (choice : Choice) (attached : Option String) :
    Except UsageError State := do
  let settled ← state.settle
  match attached with
  | some value => settled.choose choice value
  | none => return { settled with pending := .choice choice none }

/-- The value that stands behind the letter of an option. -/
def attachedValue : List Char → Option String
  | [] => none
  | '=' :: value => some (String.ofList value)
  | value => some (String.ofList value)

/-- What letters run together do. -/
def readLetters (state : State) : List Char → Except UsageError State
  | [] => .ok state
  | letter :: rest =>
    match shortOption? letter with
    | none => .error .unknownArgument
    | some (.inl switch) => do readLetters (← state.flip switch) rest
    | some (.inr choice) => state.start choice (attachedValue rest)

/-- What a long name does, with the value attached to it. -/
def readName (state : State) (text : List Char) : Except UsageError State :=
  let (name, attached) := match Text.cutAt '=' text with
    | some (name, value) => (name, some (String.ofList value))
    | none => (text, none)
  match longOption? (String.ofList name), attached with
  | none, _ => .error .unknownArgument
  | some (.inl _), some _ => .error .tooManyValues
  | some (.inl switch), none => state.flip switch
  | some (.inr choice), attached => state.start choice attached

/-- What a word does that is no option: it is the value that an option waits for, or a project
file. -/
def readOther (state : State) (word : String) : Except UsageError State :=
  match state.pending, state.isTrailing with
  | .choice choice none, false => .ok { state with pending := .choice choice (some word) }
  | .projects names, _ => .ok { state with pending := .projects (names ++ [word]) }
  | _, _ => do
    let settled ← state.settle
    return { settled with pending := .projects [word] }

/-- What a word does. -/
def readWord (state : State) (word : String) : Except UsageError State :=
  if state.isTrailing then state.readOther word
  else match word.toList with
    | ['-', '-'] => .ok { state with isTrailing := true }
    | '-' :: '-' :: name => state.readName name
    | '-' :: letter :: rest => state.readLetters (letter :: rest)
    | _ => state.readOther word

end State

/-- What a command line asks for. It names at least one project file, and no more than one with an
output file. -/
def Arguments.parse (words : List String) : Except UsageError Arguments := do
  let state ← words.foldlM State.readWord {}
  let arguments := (← state.settle).arguments
  if arguments.projects.isEmpty then throw .missingArgument
  else if arguments.output.isSome && 1 < arguments.projects.length then throw .conflict
  else return arguments

example : Arguments.parse ["-vo", "x", "a"] =
    .ok { projects := ["a"], output := some "x", verbosity := 1 } := by rfl
example : Arguments.parse ["-o", "x", "-o"] = .error .invalidValue := by rfl
example : Arguments.parse ["--output", "--x"] = .error .unknownArgument := by rfl

end ProjectScribe.CommandLine
