import ProjectScribe.Project.Basic
import ProjectScribe.Report
import ProjectScribe.Script.Identifier
import ProjectScribe.Settings.Basic
import ProjectScribe.Text.Blank

/-!
# Valid projects

A project is valid if its format is known, it has a name and configurations, no two of these have
the same build type and platform, and it has files where files are required. The first thing that
is missing, in this order, makes it invalid.

Build types that share an identifier do not make a project invalid, but their properties collide
in the script, which is noted.
-/
namespace ProjectScribe

/-- What makes a project invalid. -/
inductive Defect where
  | noDialect
  | noName
  | noConfigurations
  | repeatedConfiguration (fullName : String)
  | noFiles
deriving DecidableEq, Repr

/-- A defect in words. -/
def Defect.reason : Defect → String
  | noDialect => "originating dialect is not set"
  | noName => "project name is missing"
  | noConfigurations => "no configurations declared"
  | repeatedConfiguration fullName =>
    "configuration " ++ fullName ++ " is declared more than once"
  | noFiles => "project lists no files"

/-- An invalid project, by its label, and what makes it invalid. -/
structure Invalid where
  project : String
  defect : Defect
deriving DecidableEq, Repr

/-- The message about an invalid project. -/
def Invalid.message (invalid : Invalid) : String :=
  "project '" ++ invalid.project ++ "' failed validation: " ++ invalid.defect.reason

/-- Two build types of a project with one identifier. -/
structure SharedIdentifier where
  project : String
  first : String
  second : String
  identifier : String
deriving DecidableEq, Repr

/-- The record about a shared identifier. -/
def SharedIdentifier.record (shared : SharedIdentifier) : LogRecord :=
  ⟨.warning, shared.project ++ ": build types '" ++ shared.first ++ "' and '" ++ shared.second ++
    "' share the identifier " ++ shared.identifier⟩

namespace Project

/-- How messages name a project. -/
def label (project : Project) : String :=
  if project.name = "" then "<unnamed>" else project.name

/-- The first configuration with the build type and the platform of an earlier one. -/
def firstRepeated (before : List Configuration) : List Configuration → Option Configuration
  | [] => none
  | configuration :: rest =>
    if before.any fun earlier => earlier.isOf configuration.buildType configuration.platform then
      some configuration
    else firstRepeated (before ++ [configuration]) rest

/-- The build types that share an identifier with another one that came before them. The first
build type with an identifier stands for it. -/
def sharedIdentifiers (label : String) (first : List (String × String)) :
    List String → List SharedIdentifier
  | [] => []
  | buildType :: rest =>
    let identifier := Script.configurationIdentifier buildType
    match first.find? (·.1 = identifier) with
    | none => sharedIdentifiers label (first ++ [(identifier, buildType)]) rest
    | some (_, other) =>
      if other = buildType then sharedIdentifiers label first rest
      else ⟨label, other, buildType, identifier⟩ :: sharedIdentifiers label first rest

/-- What makes a project invalid, before its identifiers are looked at. -/
def declarationDefect (project : Project) : Option Defect :=
  if project.dialect.isNone then some .noDialect
  else if Text.isAllBlank project.name.toList then some .noName
  else if project.configurations.isEmpty then some .noConfigurations
  else (firstRepeated [] project.configurations).map (.repeatedConfiguration ·.fullName)

/-- What makes a project invalid, if anything does. -/
def validate (project : Project) (settings : Settings) :
    Reported SharedIdentifier (Option Invalid) :=
  match project.declarationDefect with
  | some defect => pure (some ⟨project.label, defect⟩)
  | none =>
    ⟨if settings.requiresFiles && project.filters.files.isEmpty then
        some ⟨project.label, .noFiles⟩
      else none,
      sharedIdentifiers project.label [] (project.configurations.map (·.buildType))⟩

end Project

end ProjectScribe
