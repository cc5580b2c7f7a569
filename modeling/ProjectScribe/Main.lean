import ProjectScribe.CommandLine.Program
import ProjectScribe.Conversion.Touched
import Std.Time.DateTime.Timestamp

/-!
# The program

What the files that a run touches hold is looked up first; the run itself is computed from that;
then the files that it changed are written.
-/
namespace ProjectScribe.CommandLine

open Storage (Entry FileTree Location)

/-- A location as a path from the top. -/
def pathText (location : Location) : String := "/" ++ "/".intercalate location

/-- A tree with what stands at a location on the disk, unless the tree has something there. -/
def look (tree : FileTree) (location : Location) : IO FileTree := do
  if (tree.find? location).isSome then return tree
  else
    let path := (← IO.currentDir) / pathText location
    if ← path.isDir then return tree.put location .directory
    else if ← path.pathExists then
      match ← (IO.FS.readBinFile path).toBaseIO with
      | .ok bytes => return tree.put location (.file bytes.data.toList Storage.defaultMode)
      -- What the disk refuses is refused by the tree too.
      | .error (.permissionDenied ..) => return tree.put location (.file [] 0)
      | .error error => throw error
    else return tree

/-- A tree with what stands along names from a location on the disk. -/
def lookAlong (tree : FileTree) (location : Location) : List String → IO FileTree
  | [] => return tree
  | name :: rest =>
    match tree.enter location name with
    | .error _ => return tree
    | .ok next => do lookAlong (← look tree next) next rest

/-- A tree with what stands along a path on the disk. -/
def lookUp (tree : FileTree) (path : String) : IO FileTree :=
  lookAlong tree (tree.startOf path) (FileTree.namesOf path)

/-- The tree of the current directory, with what stands along paths from it. -/
def lookUpAll (tree : FileTree) (paths : List String) : IO FileTree := paths.foldlM lookUp tree

/-- The rights that three bits of a mode give. -/
def rights (bits : Nat) : IO.AccessRight :=
  { read := bits / 4 % 2 = 1, write := bits / 2 % 2 = 1, execution := bits % 2 = 1 }

/-- Write a file by way of another one beside it, so that it is never seen half written. -/
def writeFile (location : Location) (bytes : Storage.Bytes) (mode : Nat) : IO Unit := do
  let path := pathText location
  let scratch := path ++ ".scratch"
  IO.FS.writeBinFile scratch ⟨bytes.toArray⟩
  IO.setAccessRights scratch
    { user := rights (mode / 64), group := rights (mode / 8), other := rights mode }
  IO.FS.rename scratch path

/-- Whether an entry stands at a location because the file there was moved to it. -/
def isBackup (before : FileTree) (location : Location) (entry : Entry) : Bool :=
  before.entries.any fun (source, old) =>
    pathText location = Storage.backupPath (pathText source) && old = entry

/-- Bring the disk from one tree to another. -/
def apply (before after : FileTree) : IO Unit := do
  let changed := after.entries.filter fun (location, entry) => before.find? location ≠ some entry
  let (moved, written) := changed.partition fun (location, entry) => isBackup before location entry
  for (location, _) in moved do
    let target := pathText location
    IO.FS.rename (target.dropEnd Storage.backupSuffix.length).toString target
  for (location, entry) in written do
    match entry with
    | .file bytes mode => writeFile location bytes mode
    | .directory => pure ()

/-- The tree of the current directory, with what a run touches. -/
def lookUpRun (arguments : Arguments) : IO FileTree := do
  let home := FileTree.namesOf (toString (← IO.currentDir))
  let empty : FileTree := { entries := [], home }
  let tree ← lookUpAll (empty.putDirectories [] home) arguments.settingsFile.toList
  match arguments.settings tree with
  | .error _ => return tree
  | .ok settings => lookUpAll tree (arguments.jobs.flatMap (·.paths settings))

/-- What is printed when a run ends with its command line. -/
def UsageError.text : UsageError → String
  | displayHelp => "usage: vcproj2cmake [OPTIONS] <PROJECT>..."
  | displayVersion => "vcproj2cmake " ++ Script.version
  | missingArgument => "error: no project file given"
  | unknownArgument => "error: unknown option"
  | invalidValue => "error: missing or empty value"
  | tooManyValues => "error: value for an option that takes none"
  | conflict => "error: options that exclude each other"

/-- Run the program with the words of a command line. -/
def runProgram (words : List String) : IO UInt32 := do
  match Arguments.parse words with
  | .error error =>
    if error.status = 0 then IO.println error.text else IO.eprintln error.text
    return error.status.toUInt32
  | .ok arguments =>
    let before ← lookUpRun arguments
    let now := (← Std.Time.Timestamp.now).toSecondsSinceUnixEpoch.val.toNat
    let ending := carryOut arguments before now
    for line in ending.log do
      IO.eprintln line
    apply before ending.tree
    return ending.status.toUInt32

end ProjectScribe.CommandLine

/-- The entry point of the program. -/
def main (words : List String) : IO UInt32 := ProjectScribe.CommandLine.runProgram words
