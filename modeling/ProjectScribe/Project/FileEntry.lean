import ProjectScribe.Path.Components
import ProjectScribe.Text.Letters

/-!
# Files of a project

A file takes part in the build as a unit of its own if it is not excluded and its extension is
that of a source file.
-/
namespace ProjectScribe

/-- What a configuration says about a single file. -/
structure FileOverride where
  excludedFromBuild : Bool := false
deriving DecidableEq, Repr

/-- A file that a project lists. -/
structure FileEntry where
  path : String
  override : Option FileOverride := none
  /-- Why a custom build tool takes the file out of the build, if one does. -/
  customBuild : Option String := none
deriving DecidableEq, Repr

namespace FileEntry

/-- The extensions of source files. -/
def sourceExtensions : List String := ["c", "cc", "cpp", "cxx", "c++"]

/-- The extensions of header files. -/
def headerExtensions : List String := ["h", "hh", "hpp", "hxx", "h++", "inl", "tlh", "tli"]

/-- The extension of a file in lower case. -/
def extension (file : FileEntry) : Option String := (Path.extension file.path).map Text.lower

/-- Whether a file is a header. -/
def isHeader (file : FileEntry) : Bool := file.extension.any (· ∈ headerExtensions)

/-- Whether a file is excluded from the build, or built by a tool of its own. -/
def isExcluded (file : FileEntry) : Bool :=
  file.customBuild.isSome || file.override.any (·.excludedFromBuild)

/-- Whether a file is compiled as a unit of its own. -/
def isBuildUnit (file : FileEntry) : Bool :=
  !file.isExcluded && file.extension.any (· ∈ sourceExtensions)

example : isBuildUnit { path := "src/a.CPP" } = true := by decide
example : isHeader { path := "src/a.h" } = true := by decide

end FileEntry

end ProjectScribe
