import ProjectScribe.Project.Configuration
import ProjectScribe.Project.FilterTree

/-!
# Projects

What a project file declares, whichever format it has: a name, configurations and a tree of
filters with the files.
-/
namespace ProjectScribe

/-- How a project is bound to a source control system. -/
structure SourceControl where
  projectName : Option String := none
  localPath : Option String := none
  provider : Option String := none
  auxPath : Option String := none
deriving DecidableEq, Repr

/-- A binding without a project name is none. -/
def SourceControl.isPresent (binding : SourceControl) : Bool :=
  binding.projectName.any (· ≠ "")

/-- A project. -/
structure Project where
  name : String := ""
  dialect : Option Dialect := none
  guid : Option String := none
  rootNamespace : Option String := none
  keyword : Option String := none
  sourceControl : SourceControl := {}
  configurations : List Configuration := []
  filters : FilterTree := default
  hasBuildUnits : Bool := false
deriving DecidableEq, Repr

namespace Project

/-- A project with the mark that says whether any file is compiled as a unit of its own. -/
def markBuildUnits (project : Project) : Project :=
  { project with hasBuildUnits := project.filters.files.any FileEntry.isBuildUnit }

/-- Each element of a list at its first place only. -/
def distinct : List String → List String
  | [] => []
  | first :: rest => first :: (distinct rest).filter (· ≠ first)

/-- The platforms of the configurations, each once, in the order in which they come up. -/
def platforms (project : Project) : List String :=
  distinct (project.configurations.map (·.platform))

/-- The configuration that decides what scripts cannot vary: the first whose build type has the
given name, up to case, or else the first of all. -/
def authoritative (project : Project) (name : String) : Option Configuration :=
  (project.configurations.find? fun configuration =>
    Text.sameLetters configuration.buildType name).or project.configurations.head?

end Project

end ProjectScribe
