import ProjectScribe.Conversion.Job
import ProjectScribe.Conversion.ProjectFile

/-!
# Arguments of the program

What the command line asks for: project files, options that override settings, and how much is
told on the way.
-/
namespace ProjectScribe.CommandLine

open Conversion (Failure Job)
open Storage (FileTree)

/-- What the command line asks for. -/
structure Arguments where
  projects : List String := []
  output : Option String := none
  root : Option String := none
  settingsFile : Option String := none
  authoritative : Option String := none
  isStrict : Bool := false
  requiresFiles : Bool := false
  emitsTimestamp : Bool := false
  /-- How often more output is asked for. -/
  verbosity : Nat := 0
  isQuiet : Bool := false
deriving DecidableEq, Repr

/-- Why a command line is not carried out. -/
inductive UsageError where
  | displayHelp
  | displayVersion
  | missingArgument
  | unknownArgument
  | invalidValue
  | tooManyValues
  | conflict
deriving DecidableEq, Repr

namespace Arguments

/-- Settings with what the command line says about them. Switches only turn things on. -/
def override (arguments : Arguments) (settings : Settings) : Settings :=
  { settings with
    root := arguments.root.or settings.root
    authoritative := arguments.authoritative.getD settings.authoritative
    isStrict := settings.isStrict || arguments.isStrict
    requiresFiles := settings.requiresFiles || arguments.requiresFiles
    emitsTimestamp := settings.emitsTimestamp || arguments.emitsTimestamp }

/-- The settings of a run: those of the settings file, if there is one, overridden. -/
def settings (arguments : Arguments) (tree : FileTree) : Except Failure Settings :=
  match arguments.settingsFile with
  | none => .ok (arguments.override {})
  | some path => (Conversion.readSettings tree path).map arguments.override

/-- The jobs of a run, one for each project file. -/
def jobs (arguments : Arguments) : List Job :=
  arguments.projects.map fun project => Job.make project arguments.output

/-- How much is logged: warnings at one, and information from two on. -/
def logLevel (arguments : Arguments) : Nat := 1 + arguments.verbosity

end Arguments

end ProjectScribe.CommandLine
