import ProjectScribe.Path.Components

/-!
# File trees

A file tree says what stands at each location: nothing, a directory, or a file with its bytes and
its mode. Every path is seen from a home directory. A path leads to a location only through
directories that exist, so two dots after a missing directory lead nowhere, and a path that ends
with a slash leads to a directory.

All files belong to whoever runs the program, who may read them as their modes say, or whatever
these say if privileged. Directories have no modes: each can be searched and changed.
-/
namespace ProjectScribe.Storage

/-- A location: the names on the way to it from the top. -/
abbrev Location := List String

/-- The content of a file. -/
abbrev Bytes := List UInt8

/-- The bytes of a text in UTF-8. -/
def bytesOf (text : String) : Bytes := text.toUTF8.data.toList

/-- The text that bytes are in UTF-8, if they are one. -/
def textOf? (bytes : Bytes) : Option String := String.fromUTF8? ⟨bytes.toArray⟩

/-- What stands at a location. -/
inductive Entry where
  | directory
  | file (bytes : Bytes) (mode : Nat)
deriving DecidableEq

/-- What stands at each location, the directory from which paths are seen, and whether they are seen
by someone who may read every file, whatever its mode. -/
structure FileTree where
  entries : List (Location × Entry)
  home : Location
  isPrivileged : Bool := false
deriving DecidableEq

/-- Why a file cannot be reached or used. -/
inductive Cause where
  | notFound
  | notADirectory
  | isADirectory
  | permissionDenied
  | invalidData
  | invalidName
  | invalidPath
deriving DecidableEq, Repr

/-- A cause in words. -/
def Cause.describe : Cause → String
  | notFound => "no such file or directory"
  | notADirectory => "not a directory"
  | isADirectory => "is a directory"
  | permissionDenied => "permission denied"
  | invalidData => "not a text in UTF-8"
  | invalidName => "file name too long"
  | invalidPath => "path with a null character"

namespace FileTree

section Entries

/-- What stands at a location. The top is always a directory. -/
def find? (tree : FileTree) (location : Location) : Option Entry :=
  if location = [] then some .directory
  else (tree.entries.find? (·.1 = location)).map (·.2)

/-- Whether a directory stands at a location. -/
def isDirectory (tree : FileTree) (location : Location) : Bool :=
  tree.find? location = some .directory

/-- A tree with nothing at a location. -/
def remove (tree : FileTree) (location : Location) : FileTree :=
  { tree with entries := tree.entries.filter (·.1 ≠ location) }

/-- A tree with an entry at a location. -/
def put (tree : FileTree) (location : Location) (entry : Entry) : FileTree :=
  { tree with entries := (tree.remove location).entries ++ [(location, entry)] }

/-- A tree with directories along names below a location, except where something stands. -/
def putDirectories (tree : FileTree) (above : Location) : List String → FileTree
  | [] => tree
  | name :: rest =>
    let location := above ++ [name]
    (if (tree.find? location).isSome then tree else tree.put location .directory).putDirectories
      location rest

/-- A tree with a file at a location, and directories above it. -/
def putFile (tree : FileTree) (location : Location) (bytes : Bytes) (mode : Nat) : FileTree :=
  (tree.putDirectories [] location.dropLast).put location (.file bytes mode)

theorem find?_top (tree : FileTree) : tree.find? [] = some .directory := rfl

/-- Nothing stands where something was removed, and everything else stands as before. -/
theorem find?_remove {tree : FileTree} {location other : Location} (below : location ≠ []) :
    (tree.remove location).find? other =
      if other = location then none else tree.find? other := by
  by_cases top : other = []
  · subst top
    rw [find?_top, find?_top, if_neg (Ne.symm below)]
  simp only [find?, remove, top, if_false, List.find?_filter]
  split
  · next same =>
    subst same
    simp
  · next different =>
    congr 2
    funext entry
    by_cases hit : entry.1 = other
    · simp [hit, different]
    · simp [hit]

/-- What is put at a location stands there, and everything else stands as before. -/
theorem find?_put {tree : FileTree} {location other : Location} {entry : Entry}
    (below : location ≠ []) :
    (tree.put location entry).find? other =
      if other = location then some entry else tree.find? other := by
  by_cases top : other = []
  · subst top
    rw [find?_top, find?_top, if_neg (Ne.symm below)]
  have removed : (tree.remove location).find? other =
      if other = location then none else tree.find? other := find?_remove below
  simp only [find?, top, if_false] at removed
  simp only [find?, put, top, if_false, List.find?_append]
  split
  · next same =>
    subst same
    simp only [if_true, Option.map_eq_none_iff] at removed
    simp [removed]
  · next different =>
    simp only [different, if_false] at removed
    have absent : List.find? (fun pair : Location × Entry => pair.1 = other) [(location, entry)]
        = none := by
      simp [Ne.symm different]
    rw [absent, Option.or_none, removed]

/-- The last thing put at a location counts alone. -/
theorem put_put (tree : FileTree) (location : Location) (first second : Entry) :
    (tree.put location first).put location second = tree.put location second := by
  simp [put, remove, List.filter_append, List.filter_filter]

/-- What is put where nothing stands is wholly undone by removing it. -/
theorem remove_put {tree : FileTree} {location : Location} {entry : Entry}
    (free : tree.find? location = none) : (tree.put location entry).remove location = tree := by
  have below : location ≠ [] := by
    rintro rfl
    exact nomatch free
  have absent : ∀ held ∈ tree.entries, held.1 ≠ location := by
    simpa [find?, below] using free
  have kept : tree.entries.filter (fun held => !decide (held.1 = location)) = tree.entries :=
    List.filter_eq_self.mpr fun held listed => by simp [absent held listed]
  simp [put, remove, List.filter_append, kept]

end Entries

section Paths

/-- The names on a path. -/
def namesOf (path : String) : List String :=
  ((Path.segments path).filter (!·.isEmpty)).map String.ofList

/-- Where a path starts: at the top with a leading slash, and else at home. -/
def startOf (tree : FileTree) (path : String) : Location :=
  if Path.isRooted path then [] else tree.home

/-- Whether a path ends with a slash. -/
def endsWithSlash (path : String) : Bool := path.toList.getLast? == some '/'

/-- How many bytes a name may have. -/
def longestName : Nat := 255

/-- How many bytes a path may have. -/
def longestPath : Nat := 4095

/-- Why no file can have a path, whatever the tree. -/
def pathDefect (path : String) : Option Cause :=
  if path.toList.contains '\x00' then some .invalidPath
  else if path = "" then some .notFound
  else if longestPath < path.utf8ByteSize then some .invalidName
  else none

/-- The location that a name leads to from another, whether something stands there or not. -/
def enter (tree : FileTree) (location : Location) (name : String) : Except Cause Location :=
  if !tree.isDirectory location then .error .notADirectory
  else if name = "." then .ok location
  else if name = ".." then .ok location.dropLast
  else if longestName < name.utf8ByteSize then .error .invalidName
  else .ok (location ++ [name])

/-- The location that a name leads to from another, where something stands. -/
def step (tree : FileTree) (location : Location) (name : String) : Except Cause Location := do
  let next ← tree.enter location name
  if (tree.find? next).isSome then return next else throw .notFound

/-- The location that names lead to from another. -/
def follow (tree : FileTree) : Location → List String → Except Cause Location
  | location, [] => .ok location
  | location, name :: rest => do tree.follow (← tree.step location name) rest

/-- Refuse a path that no file can have. -/
def checkPath (path : String) : Except Cause Unit :=
  match pathDefect path with
  | some cause => .error cause
  | none => .ok ()

/-- The location that a path leads to, where something stands. -/
def locate (tree : FileTree) (path : String) : Except Cause Location := do
  checkPath path
  let location ← tree.follow (tree.startOf path) (namesOf path)
  if endsWithSlash path && !tree.isDirectory location then throw .notADirectory
  else return location

/-- The location at which a file with a path would stand: in a directory that exists, and not in
place of a directory. -/
def slot (tree : FileTree) (path : String) : Except Cause Location := do
  checkPath path
  match (namesOf path).reverse with
  | [] => throw .isADirectory
  | name :: above =>
    let directory ← tree.follow (tree.startOf path) above.reverse
    let location ← tree.enter directory name
    if endsWithSlash path then throw .notADirectory
    else if tree.isDirectory location then throw .isADirectory
    else return location

/-- The bytes and the mode of the file that a path leads to. -/
def fileAt (tree : FileTree) (path : String) : Except Cause (Bytes × Nat) := do
  let location ← tree.locate path
  match tree.find? location with
  | some (.file bytes mode) => return (bytes, mode)
  | some .directory => throw .isADirectory
  | none => throw .notFound

/-- Whether a file may be read: every one by someone privileged, and else one whose mode lets its
owner read. -/
def mayRead (tree : FileTree) (mode : Nat) : Bool := tree.isPrivileged || mode.testBit 8

/-- The bytes of the file that a path leads to, if it may be read. -/
def read (tree : FileTree) (path : String) : Except Cause Bytes := do
  let (bytes, mode) ← tree.fileAt path
  if tree.mayRead mode then return bytes else throw .permissionDenied

/-- The text of the file that a path leads to. -/
def readText (tree : FileTree) (path : String) : Except Cause String := do
  match textOf? (← tree.read path) with
  | some text => return text
  | none => throw .invalidData

/-- The file at one location moved to another. -/
def move (tree : FileTree) (source target : Location) : FileTree :=
  match tree.find? source with
  | some entry => (tree.remove source).put target entry
  | none => tree

/-- What is moved stands at the target alone, and everything else stands as before. -/
theorem find?_move {tree : FileTree} {source target other : Location} {entry : Entry}
    (stands : tree.find? source = some entry) (belowSource : source ≠ [])
    (belowTarget : target ≠ []) :
    (tree.move source target).find? other =
      if other = target then some entry
      else if other = source then none else tree.find? other := by
  unfold move
  rw [stands]
  change ((tree.remove source).put target entry).find? other = _
  rw [find?_put belowTarget, find?_remove belowSource]

end Paths

end FileTree

end ProjectScribe.Storage
