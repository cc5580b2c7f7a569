import ProjectScribe.Path.Components

/-!
# Settings of a conversion

What a conversion may do in more than one way, with the choice that holds unless another is made.
-/
namespace ProjectScribe

/-- The settings of a conversion. -/
structure Settings where
  /-- The build type whose configuration decides what scripts cannot vary. -/
  authoritative : String := "Debug"
  /-- Whether an invalid project ends the whole run. -/
  isStrict : Bool := false
  /-- Whether a project without files is invalid. -/
  requiresFiles : Bool := false
  /-- The mode of written files. -/
  permissions : Option Nat := none
  /-- Whether scripts tell when they were written. -/
  emitsTimestamp : Bool := false
  /-- Whether scripts tell from which project file they come. -/
  emitsOrigin : Bool := true
  /-- The directory that holds the mapping tables, below a project's or the root directory. -/
  mappingDir : String := "cmake/vcproj2cmake"
  /-- The root directory of the source tree. -/
  root : Option String := none
  /-- The oldest version of the build tool that scripts admit. -/
  minimumVersion : String := "2.8.12"
deriving DecidableEq, Repr

namespace Settings

/-- The root directory, which is the current one unless another is set. -/
def rootDir (settings : Settings) : String := settings.root.getD "."

/-- Where the mapping tables of a project stand. -/
def localMappingDir (settings : Settings) (projectDir : String) : String :=
  Path.join projectDir settings.mappingDir

/-- Where the mapping tables of the whole source tree stand. -/
def rootMappingDir (settings : Settings) : String := Path.join settings.rootDir settings.mappingDir

end Settings

end ProjectScribe
