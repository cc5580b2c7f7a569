import ProjectScribe.Text.Pieces

/-!
# Paths and their components

A path is a text whose segments stand between slashes. Empty segments and dots inside it name
nothing; a leading slash, a leading dot, two dots and every other segment are its components. Two
paths are the same when their components are.

A path is never resolved here: two dots stay where they are, and no file is consulted.
-/
namespace ProjectScribe.Path

/-- What a path is made of. -/
inductive Component where
  /-- The leading slash. -/
  | root
  /-- A leading dot. -/
  | here
  /-- Two dots. -/
  | up
  /-- Any other non-empty segment. -/
  | name (text : String)
deriving DecidableEq, Repr

/-- The text of one component. -/
def Component.text : Component → String
  | .root => "/"
  | .here => "."
  | .up => ".."
  | .name text => text

/-- The texts between the slashes. -/
def segments (path : String) : List (List Char) := Text.pieces (· == '/') path.toList

/-- Whether the path starts with a slash. -/
def isRooted (path : String) : Bool := path.toList.head? == some '/'

/-- The component that a segment is, wherever it stands: empty segments and dots are none. -/
def segmentComponent (segment : List Char) : Option Component :=
  if segment == [] || segment == ['.'] then none
  else if segment == ['.', '.'] then some .up
  else some (.name (String.ofList segment))

/-- The component with which a path begins, if that is a slash or a dot. -/
def leading (path : String) : List Component :=
  if isRooted path then [.root]
  else if (segments path).head? == some ['.'] then [.here]
  else []

/-- The components of a path, in order. -/
def components (path : String) : List Component :=
  leading path ++ (segments path).filterMap segmentComponent

/-- Two paths with the same components. -/
def same (left right : String) : Bool := components left == components right

/-- The last component, if it is a name. -/
def fileName (path : String) : Option String :=
  match (components path).getLast? with
  | some (.name text) => some text
  | _ => none

/-- A file name cut at its last dot: what stands before it and, unless that is empty, what
follows it. -/
def cutExtension (name : String) : String × Option String :=
  match Text.cutAt '.' name.toList.reverse with
  | none => (name, none)
  | some (after, before) =>
    if before.isEmpty then (name, none)
    else (String.ofList before.reverse, some (String.ofList after.reverse))

/-- What follows the last dot of the file name. A name with no dot but its first has none. -/
def extension (path : String) : Option String :=
  (fileName path).bind fun name => (cutExtension name).2

/-- The file name without its extension. -/
def stem (path : String) : Option String :=
  (fileName path).map fun name => (cutExtension name).1

/-- Whether the segment at a place is a component of its path. -/
def isSignificant : List Char × Nat → Bool
  | (segment, place) => segment != [] && (segment != ['.'] || place == 0)

/-- The path without its last component and without the slashes and dots before that; none if
the path has no component but a leading slash. -/
def parent (path : String) : Option String :=
  match (segments path).zipIdx.reverse.dropWhile (!isSignificant ·) with
  | [] => none
  | _ :: before =>
    match before.dropWhile (!isSignificant ·) with
    | [] => some (if isRooted path then "/" else "")
    | kept => some (String.ofList (Text.join ['/'] (kept.reverse.map (·.1))))

/-- The directory that holds the last component: the parent, or a dot if that is empty. -/
def directory (path : String) : String :=
  match parent path with
  | none | some "" => "."
  | some dir => dir

/-- A path continued by another. A path with a leading slash replaces what it continues. -/
def join (base continuation : String) : String :=
  if isRooted continuation || base.toList.isEmpty then continuation
  else if base.toList.getLast? == some '/' then base ++ continuation
  else base ++ "/" ++ continuation

example : components "/a/./b//../c" =
    [.root, .name "a", .name "b", .up, .name "c"] := by decide
example : parent "a/./b" = some "a" ∧ parent "//a" = some "/" ∧ parent "/" = none ∧
    parent "./b/" = some "." ∧ parent "b" = some "" := by decide
example : extension "x/.ext" = none ∧ extension "x.y." = some "" ∧
    stem "x.tar.gz" = some "x.tar" := by decide
example : join "a" "b" = "a/b" ∧ join "a/" "" = "a/" ∧ join "a" "" = "a/" ∧
    join "a" "/b" = "/b" ∧ join "" "b" = "b" := by decide

end ProjectScribe.Path
