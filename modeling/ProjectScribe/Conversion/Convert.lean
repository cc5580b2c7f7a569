import ProjectScribe.Conversion.Job
import ProjectScribe.Conversion.ProjectFile
import ProjectScribe.Json.Pretty
import ProjectScribe.Project.State
import ProjectScribe.Script.Assembly

/-!
# Converting a project

A job reads the first project that its file declares, validates it, writes its script and leaves
this in the output file. An invalid project is passed over, or makes the job fail where validation
is strict; its state is logged in either case.
-/
namespace ProjectScribe.Conversion

open Storage (FileTask FileTree WriteOutcome)

/-- What became of a job that did not fail. -/
inductive Status where
  | converted (outcome : WriteOutcome)
  | skipped (invalid : Invalid)
deriving DecidableEq, Repr

/-- A result with the records logged on the way. -/
abbrev Logged := Reported LogRecord

/-- What remains of a job: its status or why it failed, and the files after it. -/
structure Finished where
  result : Except Failure Status
  tree : FileTree

/-- Log a piece of information. -/
def inform (text : String) : Logged Unit := Reported.note ⟨.information, text⟩

/-- Log a warning. -/
def warn (text : String) : Logged Unit := Reported.note ⟨.warning, text⟩

/-- Log an error. -/
def complain (text : String) : Logged Unit := Reported.note ⟨.error, text⟩

/-- Log what has a record. -/
def logAll (records : List LogRecord) : Logged Unit := ⟨(), records⟩

/-- Log how many things of a project file were not known. -/
def logUnknown (path : String) (count : Nat) : Logged Unit :=
  if count = 0 then pure ()
  else inform (path ++ ": " ++ toString count ++ " unrecognized construct(s) ignored")

/-- Log that a project file declares projects after the first, which is the one converted. -/
def logExtra (path first : String) (count : Nat) : Logged Unit :=
  if count = 0 then pure ()
  else warn (path ++ " declares " ++ toString count ++ " additional project(s), only '" ++ first ++
    "' is converted")

/-- Log that a project is invalid, and its state. -/
def logInvalid (path : String) (project : Project) (invalid : Invalid) : Logged Unit := do
  complain (path ++ ": " ++ invalid.message)
  complain ("Project state:\n" ++ project.state.lines)

/-- The script of a project, written at a time. -/
def scriptFor (tree : FileTree) (job : Job) (settings : Settings) (now : Nat) (project : Project) :
    Logged String := do
  let projectDir := Path.directory job.projectFile
  let tables := readTables tree (settings.localMappingDir projectDir) settings.rootMappingDir
  let source : Script.Source :=
    ⟨project, tables, settings, originName job.projectFile settings⟩
  let draft := source.scriptText now
  logAll (draft.notes.filterMap Script.Remark.record)
  return draft.value

/-- Write a text into the file with a path, unless it has that text already. -/
def writeText (tree : FileTree) (path text : String) (mode : Option Nat) :
    Logged (Except Failure WriteOutcome × FileTree) :=
  match (FileTask.writeIfChanged path (Storage.bytesOf text) mode).perform tree with
  | (.error error, tree) => return (.error (.ofAccess error), tree)
  | (.ok .unchanged, tree) => return (.ok .unchanged, tree)
  | (.ok outcome, tree) => do
    inform ("Wrote " ++ path)
    return (.ok outcome, tree)

/-- Leave a script in the output file of a job. -/
def writeScript (tree : FileTree) (job : Job) (settings : Settings) (script : String) :
    Logged Finished := do
  let (outcome, tree) ← writeText tree job.output script settings.permissions
  match outcome with
  | .error failure => return ⟨.error failure, tree⟩
  | .ok .unchanged =>
    inform (job.output ++ " unchanged")
    return ⟨.ok (.converted .unchanged), tree⟩
  | .ok outcome => return ⟨.ok (.converted outcome), tree⟩

/-- Convert a project that a job has read. -/
def convertProject (tree : FileTree) (job : Job) (settings : Settings) (now : Nat)
    (project : Project) : Logged Finished := do
  let verdict := project.validate settings
  logAll (verdict.notes.map SharedIdentifier.record)
  match verdict.value with
  | some invalid =>
    logInvalid job.projectFile project invalid
    if settings.isStrict then return ⟨.error (.invalid invalid), tree⟩
    else
      warn ("Skipping " ++ job.projectFile)
      return ⟨.ok (.skipped invalid), tree⟩
  | none =>
    let script ← scriptFor tree job settings now project
    writeScript tree job settings script

/-- Do a job at a time. -/
def convert (tree : FileTree) (job : Job) (settings : Settings) (now : Nat) : Logged Finished := do
  inform ("Converting " ++ job.projectFile)
  let reading := readProjects tree job.projectFile
  logAll (Reading.records reading.notes)
  match reading.value with
  | .error failure => return ⟨.error failure, tree⟩
  | .ok [] => return ⟨.error (.noProject job.projectFile), tree⟩
  | .ok (project :: others) =>
    logUnknown job.projectFile (reading.notes.countP (·.isUnknown))
    logExtra job.projectFile project.name others.length
    convertProject tree job settings now project

end ProjectScribe.Conversion
