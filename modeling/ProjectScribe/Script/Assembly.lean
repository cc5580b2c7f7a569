import ProjectScribe.Mapping.Table
import ProjectScribe.Project.Basic
import ProjectScribe.Script.BuildVariable
import ProjectScribe.Script.Flags
import ProjectScribe.Script.Identifier
import ProjectScribe.Script.Instruction
import ProjectScribe.Settings.Basic

/-!
# The script of a project

A script has a head, which prepares the build and names the project, and a body: settings of the
directory, sources, target and a block for each configuration. The head finds out the platform if
the project has several or its body asks for one.

What a script cannot vary by configuration comes from the authoritative configuration.
-/
namespace ProjectScribe.Script

open Instruction (listed setVariable setList includeFile appendProperty setProperty under openIf?
  closeIf?)
open Mapping (PlatformTokens Table Tables)

/-- The first line of every script, by which tools tell scripts from files written by hand. -/
def marker : String :=
  "# This file was automatically generated by vcproj2cmake - DO NOT EDIT, changes will be lost on the next conversion!"

/-- The version that scripts name as the one that wrote them. -/
def version : String := "0.3.0"

/-- The policies of the build tool that scripts set. -/
def policies : List (String × String) := [("CMP0005", "NEW"), ("CMP0043", "OLD")]

/-- The places at which a script takes in files of its users. -/
inductive Hook where
  | preProject
  | postSources
  | postDefinitions
  | postTarget
deriving DecidableEq, Repr

/-- The name of the file that a script takes in at a place. -/
def Hook.fileName : Hook → String
  | preProject => "hook_pre_project.txt"
  | postSources => "hook_post_sources.txt"
  | postDefinitions => "hook_post_definitions.txt"
  | postTarget => "hook_post_target.txt"

/-- All places, in the order in which they come. -/
def Hook.all : List Hook := [preProject, postSources, postDefinitions, postTarget]

/-- What a script is made from. -/
structure Source where
  project : Project
  tables : Tables
  settings : Settings
  /-- How the script names the project file. -/
  fileName : String

namespace Source

/-- The names by which texts refer to the project. -/
def names (source : Source) : ProjectNames := ⟨source.project.name, source.fileName⟩

/-- The name of the target, which is that of the project. -/
def target (source : Source) : String := source.project.name

/-- The authoritative configuration. -/
def authoritative (source : Source) : Option Configuration :=
  source.project.authoritative source.settings.authoritative

/-- Whether the project is built for more than one platform. -/
def isMultiPlatform (source : Source) : Bool := 1 < source.project.platforms.length

section Tokens

/-- Tokens translated and then placed on platforms by a table. -/
def place (source : Source) (table : Table) (tokens : List String) : Draft PlatformTokens := do
  let translated ← translateAll source.names tokens
  return translated.foldl (fun gathered token => table.resolveInto token gathered) .empty

/-- The directories in which a configuration seeks headers. -/
def includeDirs (source : Source) (configuration : Configuration) : Draft PlatformTokens :=
  source.place source.tables.includeDirs
    (configuration.compilers.flatMap fun compiler => compiler.includeDirs.map (·.path))

/-- The directories in which a configuration seeks libraries. -/
def libraryDirs (source : Source) (configuration : Configuration) : Draft PlatformTokens :=
  source.place source.tables.libraryDirs (configuration.linkers.flatMap (·.libraryDirs))

/-- The libraries that a configuration links. -/
def dependencies (source : Source) (configuration : Configuration) : Draft PlatformTokens :=
  source.place source.tables.dependencies (configuration.linkers.flatMap (·.dependencies))

/-- Definitions to which others are added unless there is one with their key. -/
def addDefines (defines : List (String × String)) : List (String × String) → List (String × String)
  | [] => defines
  | (key, value) :: rest =>
    if defines.any (·.1 = key) then addDefines defines rest
    else addDefines (defines ++ [(key, value)]) rest

/-- The definitions of a configuration, one for each key: those of its compilers in order, and
those that its character set brings with it. -/
def distinctDefines (configuration : Configuration) : List (String × String) :=
  addDefines [] ((configuration.compilers.flatMap (·.defines.entries)) ++
    (charsetDefines configuration.charset).map fun key => (key, ""))

/-- What a definition is where a token stands for its key: the key itself keeps its value. -/
def definitionText (key value token : String) : String :=
  if token = key ∧ value ≠ "" then key ++ "=" ++ value else token

/-- A definition placed on platforms by its key, with its value translated. -/
def placeDefine (source : Source) (gathered : PlatformTokens) (definition : String × String) :
    Draft PlatformTokens := do
  let (key, raw) := definition
  let value ← translate source.names raw
  let pairs := (source.tables.defines.resolve key).toList.flatMap fun (platform, tokens) =>
    tokens.map fun token => (platform, definitionText key value token)
  return gathered.pushAll pairs

/-- The definitions of a configuration by platforms. -/
def defines (source : Source) (configuration : Configuration) : Draft PlatformTokens :=
  Reported.fold source.placeDefine .empty (distinctDefines configuration)

end Tokens

/-- The condition of a platform, unless it stands for every platform. -/
def platformCondition (platform : String) : Option String :=
  if platform = Mapping.everyPlatform then none else some platform

/-- Instructions for the tokens of each platform, each under the condition of its platform. -/
def byPlatform (tokens : PlatformTokens) (body : String → List String → List Instruction) :
    List Instruction :=
  tokens.toList.flatMap fun (platform, list) => under (platformCondition platform) (body platform list)

/-- The file of a user taken in at a place. -/
def hook (place : Hook) : Instruction :=
  includeFile ("$\x7bV2C_CONFIG_DIR_LOCAL\x7d/" ++ place.fileName) true

section Head

/-- The first lines: the marker, and what the script tells about itself. -/
def banner (source : Source) (now : Nat) : List Instruction :=
  [.line marker] ++
    (if source.settings.emitsOrigin then
      [.comment ("Converted from " ++ source.fileName ++ " by vcproj2cmake " ++ version)] else []) ++
    (if source.settings.emitsTimestamp then
      [.comment ("Generated at " ++ toString now ++ " (seconds since the Unix epoch)")] else []) ++
    [.blank]

/-- The first lines are the same at all times if they do not tell when they were written. -/
theorem banner_timeless (source : Source) (timeless : source.settings.emitsTimestamp = false)
    (now later : Nat) : source.banner later = source.banner now := by
  simp [banner, timeless]

/-- What a script needs from the build tool: a version, policies, and where to find modules. -/
def requirements (source : Source) : List Instruction :=
  [.command "cmake_minimum_required" ["VERSION", source.settings.minimumVersion], .blank] ++
    (policies.flatMap fun (policy, value) =>
      under (some ("POLICY " ++ policy)) [.command "cmake_policy" ["SET", policy, value]]) ++
    [.blank] ++
    under (some "NOT V2C_MASTER_PROJECT_SOURCE_DIR")
      [setVariable "V2C_MASTER_PROJECT_SOURCE_DIR" "$\x7bCMAKE_SOURCE_DIR\x7d"] ++
    [setVariable "V2C_CONFIG_DIR_LOCAL"
        ("$\x7bCMAKE_CURRENT_SOURCE_DIR\x7d/" ++ source.settings.mappingDir),
      .command "list" ["APPEND", "CMAKE_MODULE_PATH",
        "$\x7bV2C_MASTER_PROJECT_SOURCE_DIR\x7d/" ++ source.settings.mappingDir ++ "/Modules",
        "$\x7bV2C_CONFIG_DIR_LOCAL\x7d"],
      includeFile "vcproj2cmake_defs" true, .blank]

/-- The lines that find out the platform, if they are needed. -/
def platformBlock (isNeeded : Bool) : List Instruction :=
  if isNeeded then platformDerivation.map .line ++ [.blank] else []

/-- Everything before the body. -/
def head (source : Source) (now : Nat) (asksForPlatform : Bool) : List Instruction :=
  source.banner now ++ source.requirements ++
    [hook .preProject, .command "project" [source.project.name], .blank] ++
    platformBlock (source.isMultiPlatform || asksForPlatform)

end Head

section Body

/-- The flag of a class library that a directory uses, if it uses one. -/
def mfcFlag : LibraryUsage → List Instruction
  | .notUsed => []
  | .static => [setVariable "CMAKE_MFC_FLAG" "1"]
  | .dynamic => [setVariable "CMAKE_MFC_FLAG" "2"]

/-- The settings of the directory, from the authoritative configuration. -/
def directorySettings (source : Source) : Draft (List Instruction) :=
  match source.authoritative with
  | none => pure []
  | some configuration => do
    let includes ← source.includeDirs configuration
    let libraries ← source.libraryDirs configuration
    return mfcFlag configuration.mfc ++
      byPlatform includes (fun _ dirs => listed "include_directories" [] dirs) ++
      byPlatform libraries (fun _ dirs => listed "link_directories" [] dirs) ++ [.blank]

/-- The variable that lists the files of a filter. -/
def sourcesVariable (group : String) : String :=
  if group = "" then "SOURCES_files" else "SOURCES_files_" ++ variablePart group

/-- A reference to a variable. -/
def reference (name : String) : String := "$\x7b" ++ name ++ "\x7d"

/-- A value with a backslash before each quote. -/
def escapeQuotes (value : String) : String :=
  String.ofList (Text.replaceChar '"' ['\\', '"'] value.toList)

/-- A value in which each backslash stands twice. -/
def doubleBackslashes (value : String) : String :=
  String.ofList (Text.replaceChar '\\' ['\\', '\\'] value.toList)

/-- The name of a group of sources between quotes. -/
def groupLiteral (group : String) : String :=
  "\"" ++ escapeQuotes (doubleBackslashes group) ++ "\""

/-- The instructions for the files of a filter that are not excluded, if there are any. -/
def groupSources (source : Source) (place : Nat) : Draft (List Instruction) := do
  let filters := source.project.filters
  let paths := (filters.filesAt place).filter (!·.isExcluded)
  let files ← translateAll source.names (paths.map (·.path))
  if files.isEmpty then return []
  else
    let group := filters.pathOf place
    let name := sourcesVariable group
    return setList name files ++
      (if group = "" then []
        else [.verbatim "source_group" [groupLiteral group, "FILES", reference name]]) ++
      [.command "list" ["APPEND", "SOURCES", reference name]]

/-- The sources, filter by filter from the root down. -/
def sources (source : Source) : Draft (List Instruction) := do
  let groups ← Reported.forEach source.groupSources
    (FilterTree.root :: source.project.filters.walk)
  return groups.flatten ++ [hook .postSources, .blank]

/-- The command that creates a target of a kind, if targets of this kind can be created. -/
def creation? (target : String) : TargetKind → Option Instruction
  | .application => some (.command "add_executable" [target, "$\x7bSOURCES\x7d"])
  | .dynamicLibrary => some (.command "add_library" [target, "SHARED", "$\x7bSOURCES\x7d"])
  | .staticLibrary => some (.command "add_library" [target, "STATIC", "$\x7bSOURCES\x7d"])
  | .unknown => none

/-- The command that creates the target, if the project has one. -/
def creation (source : Source) : Draft (Option Instruction) := do
  if source.project.hasBuildUnits then
    let kind := (source.authoritative.map (·.kind)).getD .unknown
    let command? := creation? source.target kind
    Reported.noteIf command?.isNone (.noLinkLanguage source.project.name)
    return command?
  else
    Reported.note (.noSources source.project.name)
    return none

/-- The libraries that the target links, from the authoritative configuration. -/
def linkLibraries (source : Source) : Draft (List Instruction) :=
  match source.authoritative with
  | none => pure []
  | some configuration => do
    let libraries ← source.dependencies configuration
    return byPlatform libraries fun _ names =>
      listed "target_link_libraries" [source.target] names

/-- The fields of a source control binding, by the properties that hold them. -/
def bindingFields (binding : SourceControl) : List (String × Option String) :=
  [("VS_SCC_PROJECTNAME", binding.projectName), ("VS_SCC_LOCALPATH", binding.localPath),
    ("VS_SCC_PROVIDER", binding.provider), ("VS_SCC_AUXPATH", binding.auxPath)]

/-- The source control binding of the target. -/
def bindings (source : Source) : List Instruction :=
  let binding := source.project.sourceControl
  if binding.isPresent then
    (bindingFields binding).flatMap fun (property, value) =>
      value.toList.map fun value => setProperty source.target property (escapeQuotes value)
  else []

/-- The target, what it links, and its source control binding. -/
def targetSection (source : Source) : Draft (List Instruction) := do
  match ← source.creation with
  | none => return [.blank]
  | some command =>
    let libraries ← source.linkLibraries
    return command :: libraries ++ source.bindings ++ [.blank]

/-- A value for one configuration only. -/
def onlyIn (identifier value : String) : String :=
  "$<$<CONFIG:" ++ identifier ++ ">:" ++ value ++ ">"

/-- The directories of a configuration that the directory does not have already. -/
def extraIncludes (source : Source) (identifier : String)
    (ofDirectory ofConfiguration : PlatformTokens) : List Instruction :=
  byPlatform ofConfiguration fun platform dirs =>
    let already := (ofDirectory.get? platform).getD []
    appendProperty source.target "INCLUDE_DIRECTORIES"
      ((dirs.filter (· ∉ already)).map (onlyIn identifier))

/-- The flags of a configuration, for the tools that take them. -/
def flagSection (source : Source) (identifier : String) (compile link : List String) :
    List Instruction :=
  if compile.isEmpty && link.isEmpty then []
  else under (some "MSVC")
    (appendProperty source.target "COMPILE_OPTIONS" (compile.map (onlyIn identifier)) ++
      if link.isEmpty then []
      else [.command "set_property" ["TARGET", source.target, "APPEND_STRING", "PROPERTY",
        "LINK_FLAGS_" ++ identifier, " " ++ " ".intercalate link]])

/-- The condition for the platform of a configuration, if there are several. -/
def configurationCondition (source : Source) (configuration : Configuration) : Option String :=
  if source.isMultiPlatform then
    some (platformVariable ++ " STREQUAL " ++ argument configuration.platform)
  else none

/-- The block of a configuration. -/
def configurationBlock (source : Source) (ofDirectory : PlatformTokens)
    (configuration : Configuration) : Draft (List Instruction) := do
  let identifier := configurationIdentifier configuration.buildType
  let defined ← source.defines configuration
  let includes ← source.includeDirs configuration
  let compile ← translateAll source.names
    (configuration.compilers.flatMap (compileFlags · configuration.optimizesWhole))
  let link ← translateAll source.names
    (configuration.linkers.flatMap (linkFlags · configuration.optimizesWhole))
  return [.comment ("Configuration \"" ++ configuration.fullName ++ "\"")] ++
    under (source.configurationCondition configuration)
      (under (some ("TARGET " ++ argument source.target))
        (byPlatform defined (fun _ values =>
            appendProperty source.target ("COMPILE_DEFINITIONS_" ++ identifier) values) ++
          source.extraIncludes identifier ofDirectory includes ++
          source.flagSection identifier compile link)) ++
    [.blank]

/-- The directories in which the authoritative configuration seeks headers. -/
def directoryIncludes (source : Source) : Draft PlatformTokens :=
  match source.authoritative with
  | some configuration => source.includeDirs configuration
  | none => pure .empty

/-- Everything after the head. -/
def body (source : Source) : Draft (List Instruction) := do
  let directory ← source.directorySettings
  let sources ← source.sources
  let target ← source.targetSection
  let ofDirectory ← source.directoryIncludes
  let blocks ← Reported.forEach (source.configurationBlock ofDirectory)
    source.project.configurations
  return directory ++ sources ++ [hook .postDefinitions, .blank] ++ target ++ blocks.flatten ++
    [hook .postTarget]

end Body

/-- Whether the body of a script asks for the platform. -/
def asksForPlatform (remarks : List Remark) : Bool := remarks.contains .platformUsed

/-- The script of a project, written at a time. -/
def script (source : Source) (now : Nat) : Draft (List Instruction) := do
  let body := source.body
  return source.head now (asksForPlatform body.notes) ++ (← body)

/-- The text of the script of a project, written at a time. -/
def scriptText (source : Source) (now : Nat) : Draft String := do
  return text (← source.script now)

/-- A script that does not tell when it was written is the same at all times. -/
theorem scriptText_timeless (source : Source) (timeless : source.settings.emitsTimestamp = false)
    (now later : Nat) : source.scriptText later = source.scriptText now := by
  simp [scriptText, script, head, source.banner_timeless timeless now later]

end Source

end ProjectScribe.Script
