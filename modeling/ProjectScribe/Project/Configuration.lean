import ProjectScribe.Project.Kinds
import ProjectScribe.Text.Blank
import ProjectScribe.Text.Pieces

/-!
# Configurations

A configuration belongs to a pair of a build type and a platform and says how its code is
compiled and linked.
-/
namespace ProjectScribe

/-- Preprocessor definitions: values by keys, in the order of the keys. -/
structure Defines where
  entries : List (String × String) := []
deriving DecidableEq, Repr

namespace Defines

/-- A value written under a key into a list that is ordered by keys. -/
def insertInto (key value : String) : List (String × String) → List (String × String)
  | [] => [(key, value)]
  | (other, kept) :: rest =>
    if key < other then (key, value) :: (other, kept) :: rest
    else if key = other then (key, value) :: rest
    else (other, kept) :: insertInto key value rest

/-- Write a value under a key, in place of the one that is there. -/
def insert (defines : Defines) (key value : String) : Defines :=
  ⟨insertInto key value defines.entries⟩

/-- The value of a key. -/
def find? (defines : Defines) (key : String) : Option String :=
  (defines.entries.find? (·.1 = key)).map (·.2)

end Defines

/-- A directory in which headers are sought, and marks for its place among them. -/
structure IncludeDirectory where
  path : String
  isBefore : Bool := false
  isAfter : Bool := false
  isSystem : Bool := false
deriving DecidableEq, Repr

/-- The use of a precompiled header, its source and the file into which it is compiled. -/
structure PrecompiledHeader where
  mode : HeaderMode := default
  header : Option String := none
  binary : Option String := none
deriving DecidableEq, Repr

/-- Options that only one family of tools understands. -/
structure ToolOptions where
  flags : List String := []
  disabledWarnings : List String := []
deriving DecidableEq, Repr

/-- How code is compiled. -/
structure CompilerSettings where
  includeDirs : List IncludeDirectory := []
  defines : Defines := {}
  rtti : Bool := true
  exceptionHandling : ExceptionHandling := default
  optimization : Optimization := default
  warningLevel : WarningLevel := default
  warningsAsErrors : Bool := false
  precompiled : PrecompiledHeader := {}
  options : ToolOptions := {}
deriving DecidableEq, Repr

/-- How a program is linked. -/
structure LinkerSettings where
  dependencies : List String := []
  libraryDirs : List String := []
  moduleDefinition : Option String := none
  programDatabase : Option String := none
  isIncremental : Bool := false
  optimizesReferences : Bool := false
  options : ToolOptions := {}
deriving DecidableEq, Repr

/-- One configuration of a project. -/
structure Configuration where
  buildType : String := ""
  platform : String := ""
  kind : TargetKind := default
  mfc : LibraryUsage := default
  atl : LibraryUsage := default
  charset : CharacterSet := default
  optimizesWhole : Bool := false
  usesDebugRuntime : Bool := false
  compilers : List CompilerSettings := []
  linkers : List LinkerSettings := []
deriving DecidableEq, Repr

namespace Configuration

/-- The configuration that a name of the form `build type|platform` declares. -/
def ofName (name : String) : Configuration :=
  match Text.cutAt '|' name.toList with
  | some (buildType, platform) =>
    { buildType := String.ofList (Text.trim buildType)
      platform := String.ofList (Text.trim platform) }
  | none => { buildType := String.ofList (Text.trim name.toList) }

/-- The build type and the platform with a bar between them. -/
def fullName (configuration : Configuration) : String :=
  configuration.buildType ++ "|" ++ configuration.platform

/-- Whether a configuration is the one of a build type and a platform. -/
def isOf (configuration : Configuration) (buildType platform : String) : Bool :=
  configuration.buildType = buildType && configuration.platform = platform

example : (ofName "Release MinDependency|Win32").fullName = "Release MinDependency|Win32" := by
  decide

end Configuration

end ProjectScribe
