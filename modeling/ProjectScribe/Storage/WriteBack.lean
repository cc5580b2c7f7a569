import ProjectScribe.Storage.FileTree

/-!
# Writing a file back

A file is written only if its content changes. The new content goes to a scratch file in the same
directory first and gets the requested mode there. Then the old file is moved to the same name with
`.previous` after it, in place of whatever file has that name, and the scratch file to the name
itself. Each step is done wholly or not at all; when one fails, the scratch file is removed, and
nothing else is undone.
-/
namespace ProjectScribe.Storage

/-- A path that could not be read or written, and why. -/
inductive AccessError where
  | read (path : String) (cause : Cause)
  | write (path : String) (cause : Cause)
deriving DecidableEq, Repr

/-- What became of a file. -/
inductive WriteOutcome where
  | unchanged
  /-- The file is new or has a new content; an old one was kept under the given path. -/
  | written (backup : Option String)
deriving DecidableEq, Repr

/-- What follows the name of a file in the name of its backup. -/
def backupSuffix : String := ".previous"

/-- Where the old content of a file is kept. -/
def backupPath (output : String) : String := output ++ backupSuffix

/-- The mode of a file for which none is requested. -/
def defaultMode : Nat := 0o644

/-- The part of a requested mode that a file can have. -/
def effectiveMode (mode : Option Nat) : Nat := mode.getD defaultMode % 0o10000

/-- The mode of a scratch file, which is for its writer only. -/
def scratchMode : Nat := 0o600

/-- The names of scratch files. -/
def scratchName (n : Nat) : String := ".tmp" ++ String.ofList (List.replicate n '0')

namespace FileTree

/-- Whether a file with a path is there already: its bytes, or none if there is no such file. -/
def existing? (tree : FileTree) (path : String) : Except AccessError (Option Bytes) :=
  match tree.read path with
  | .ok bytes => .ok (some bytes)
  | .error .notFound => .ok none
  | .error cause => .error (.read path cause)

/-- The directory for a file with a path, which has to exist. -/
def directoryFor (tree : FileTree) (path : String) : Except AccessError Location :=
  match tree.locate (Path.directory path) with
  | .error cause => .error (.write path cause)
  | .ok location =>
    if tree.isDirectory location then .ok location else .error (.write path .notADirectory)

/-- The location for a file with a path that is about to be written. -/
def slotFor (tree : FileTree) (path : String) : Except AccessError Location :=
  match tree.slot path with
  | .ok location => .ok location
  | .error cause => .error (.write path cause)

/-- The location of a file that is about to be moved to a path. -/
def sourceFor (tree : FileTree) (path target : String) : Except AccessError Location :=
  match tree.locate path with
  | .ok location => .ok location
  | .error cause => .error (.write target cause)

/-- Whether nothing stands under a name in a directory. -/
def isFree (tree : FileTree) (directory : Location) (name : String) : Bool :=
  (tree.find? (directory ++ [name])).isNone

/-- A location in a directory for a scratch file. There are more names than entries, so that one
of them is free. -/
def scratchLocation (tree : FileTree) (directory : Location) : Location :=
  let free := (List.range (tree.entries.length + 1)).find? fun n =>
    tree.isFree directory (scratchName n)
  directory ++ [scratchName (free.getD 0)]

end FileTree

/-- A task on files: what it gives or why it fails, and the files that it leaves in either case. -/
abbrev FileTask (α : Type) := ExceptT AccessError (StateM FileTree) α

namespace FileTask

variable {α β : Type}

/-- Carry out a task on the files of a tree. -/
def perform (task : FileTask α) (tree : FileTree) : Except AccessError α × FileTree :=
  task.run.run tree

/-- Ask something about the files, which leaves them as they are. -/
def ask (question : FileTree → Except AccessError α) : FileTask α := do
  match question (← get) with
  | .ok answer => return answer
  | .error error => throw error

/-- An empty file of its own in the directory for a file with a path. -/
def createScratch (output : String) : FileTask Location := do
  let directory ← ask (·.directoryFor output)
  let scratch := (← get).scratchLocation directory
  modify (·.put scratch (.file [] scratchMode))
  return scratch

/-- Fill a scratch file. -/
def fill (scratch : Location) (content : Bytes) : FileTask Unit :=
  modify (·.put scratch (.file content scratchMode))

/-- Give a file a mode. -/
def setMode (location : Location) (mode : Nat) : FileTask Unit :=
  modify fun tree =>
    match tree.find? location with
    | some (.file bytes _) => tree.put location (.file bytes mode)
    | _ => tree

/-- Move the file at a location to a path, in place of whatever file is there. -/
def moveTo (source : Location) (path : String) : FileTask Unit := do
  let target ← ask (·.slotFor path)
  modify (·.move source target)

/-- Move the file with a path to its backup if it is there, and tell the path of that. -/
def keepOld (output : String) : Bool → FileTask (Option String)
  | false => return none
  | true => do
    let source ← ask (·.sourceFor output (backupPath output))
    moveTo source (backupPath output)
    return some (backupPath output)

/-- A task after whose failure nothing is left at a location. -/
def removingOnFailure (location : Location) (task : FileTask α) : FileTask α :=
  tryCatch task fun error => do
    modify (·.remove location)
    throw error

/-- Let a scratch file take the place of the file with a path, which is moved to its backup if it
is there. -/
def takePlace (scratch : Location) (output : String) (isThere : Bool) : FileTask WriteOutcome := do
  let backup ← keepOld output isThere
  moveTo scratch output
  return .written backup

/-- Write bytes into a scratch file with a mode, which takes the place of the file with a path or is
removed. -/
def writeScratch (output : String) (content : Bytes) (mode : Nat) (isThere : Bool) :
    FileTask WriteOutcome := do
  let scratch ← createScratch output
  removingOnFailure scratch do
    fill scratch content
    setMode scratch mode
    takePlace scratch output isThere

/-- Write bytes into the file with a path, unless it has them already. -/
def writeIfChanged (output : String) (content : Bytes) (mode : Option Nat) :
    FileTask WriteOutcome := do
  let old ← ask (·.existing? output)
  if old = some content then return .unchanged
  writeScratch output content (effectiveMode mode) old.isSome

theorem perform_modify (change : FileTree → FileTree) (tree : FileTree) :
    (modify change : FileTask Unit).perform tree = (.ok (), change tree) := rfl

/-- Two tasks in order: the second is carried out on what the first leaves, unless that fails. -/
theorem perform_bind (first : FileTask α) (next : α → FileTask β) (tree : FileTree) :
    (first >>= next).perform tree =
      match first.perform tree with
      | (.ok a, after) => (next a).perform after
      | (.error error, after) => (.error error, after) := by
  simp only [perform, ExceptT.run_bind, StateT.run_bind]
  cases first.run.run tree with
  | mk result after => cases result <;> rfl

theorem perform_ask (question : FileTree → Except AccessError α) (tree : FileTree) :
    (ask question).perform tree = (question tree, tree) := by
  rw [ask, perform_bind]
  change (match question tree with | .ok answer => pure answer | .error error => throw error :
    FileTask α).perform tree = _
  cases question tree <;> rfl

theorem perform_removingOnFailure (location : Location) (task : FileTask α) (tree : FileTree) :
    (removingOnFailure location task).perform tree =
      match task.perform tree with
      | (.ok a, after) => (.ok a, after)
      | (.error error, after) => (.error error, after.remove location) := by
  simp only [perform, removingOnFailure, ExceptT.run_tryCatch, StateT.run_bind]
  cases task.run.run tree with
  | mk result after => cases result <;> rfl

end FileTask

end ProjectScribe.Storage
