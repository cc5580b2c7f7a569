import ProjectScribe.CommandLine.Words
import ProjectScribe.Conversion.Batch

/-!
# Runs of the program

A run reads its settings, converts its projects and ends with a status: 0 if all went well, 1 if
something failed, 2 if the command line was not understood. The log goes to the error output, one
line for each line of a record, as far as it is asked for.
-/
namespace ProjectScribe.CommandLine

open Conversion (convertAll)
open Storage (FileTree)

/-- What a run leaves behind. -/
structure Ending where
  status : Nat
  /-- The lines of the error output. -/
  log : List String
  tree : FileTree

/-- The name of a severity in the error output. -/
def severityName : Severity → String
  | .error => "ERROR"
  | .warning => "WARN"
  | .information => "INFO"

/-- Whether a record is shown. -/
def isShown (arguments : Arguments) (record : LogRecord) : Bool :=
  !arguments.isQuiet &&
    match record.severity with
    | .error | .warning => true
    | .information => 2 ≤ arguments.logLevel

/-- The lines that a record takes in the error output. -/
def recordLines (record : LogRecord) : List String :=
  (Text.lines (severityName record.severity ++ " - " ++ record.text).toList).map String.ofList

/-- The lines of the error output. -/
def logLines (arguments : Arguments) (records : List LogRecord) : List String :=
  (records.filter (isShown arguments)).flatMap recordLines

/-- Carry out a command line at a time. -/
def carryOut (arguments : Arguments) (tree : FileTree) (now : Nat) : Ending :=
  match arguments.settings tree with
  | .error failure => ⟨1, logLines arguments [⟨.error, failure.message⟩], tree⟩
  | .ok settings =>
    let batch := convertAll tree arguments.jobs settings now
    ⟨if batch.value.1.isSuccess then 0 else 1, logLines arguments batch.notes, batch.value.2⟩

/-- The status of a run that ends with its command line. -/
def UsageError.status : UsageError → Nat
  | displayHelp | displayVersion => 0
  | _ => 2

/-- Run the program with the words of a command line at a time. -/
def run (words : List String) (tree : FileTree) (now : Nat) : Ending :=
  match Arguments.parse words with
  | .error error => ⟨error.status, [], tree⟩
  | .ok arguments => carryOut arguments tree now

end ProjectScribe.CommandLine
