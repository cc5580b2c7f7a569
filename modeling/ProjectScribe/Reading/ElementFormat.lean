import ProjectScribe.Project.Basic
import ProjectScribe.Reading.Choice
import ProjectScribe.Reading.Classification
import ProjectScribe.Xml.Element

/-!
# The newer format

Settings are texts of elements. Configurations are declared first; groups of settings then apply
to those that their condition selects. Files and filters are items, which stand in the project
file and in a companion file. What the companion says about an item replaces what the project
file says about it, and items that only the companion has are added at the end.
-/
namespace ProjectScribe.Reading.ElementFormat

open Xml (Element)

/-- The kinds of items that are files. -/
def fileKinds : List String :=
  ["ClCompile", "ClInclude", "ResourceCompile", "CustomBuild", "None", "Midl", "Text", "Image",
    "Xml", "Manifest", "Library", "MASM"]

/-- The kinds of items that are no files. -/
def otherKinds : List String :=
  ["ProjectReference", "Reference", "COMReference", "ProjectCapability", "Filter"]

/-- What is known about filters. -/
def filterMetadata : List String :=
  ["UniqueIdentifier", "Extensions", "SourceControlFiles", "ParseFiles"]

/-- What is known about files. -/
def fileMetadata : List String :=
  ["Filter", "ExcludedFromBuild", "PrecompiledHeader", "PrecompiledHeaderFile", "SubType",
    "DependentUpon", "Command", "Message", "Outputs", "AdditionalInputs", "FileType",
    "DeploymentContent", "ObjectFileName", "LinkObjects", "AdditionalIncludeDirectories",
    "PreprocessorDefinitions", "DisableSpecificWarnings", "ForcedIncludeFiles", "CompileAs",
    "WarningLevel", "Optimization", "TreatOutputAsContent"]

/-- Elements of projects that scripts do without. -/
def ignoredProjectElements : List String :=
  ["Import", "ImportGroup", "ProjectExtensions", "Target", "UsingTask"]

/-- Global properties that scripts do without. -/
def ignoredGlobals : List String :=
  ["VCProjectVersion", "WindowsTargetPlatformVersion", "TargetFrameworkVersion", "ProjectGuid_",
    "VCTargetsPath", "IgnoreWarnCompileDuplicatedFilename"]

/-- Properties of configurations that scripts do without. -/
def ignoredConfigurationProperties : List String :=
  ["PlatformToolset", "CLRSupport", "SpectreMitigation", "VCToolsVersion", "EnableASAN",
    "PreferredToolArchitecture"]

/-- General properties that scripts do without. -/
def ignoredGeneralProperties : List String :=
  ["_ProjectFileVersion", "OutDir", "IntDir", "TargetName", "TargetExt", "GenerateManifest",
    "EmbedManifest", "IncludePath", "LibraryPath", "ExecutablePath", "CodeAnalysisRuleSet",
    "CodeAnalysisRules", "CodeAnalysisRuleAssemblies", "RunCodeAnalysis", "IgnoreImportLibrary",
    "LinkKeyFile", "LinkDelaySign", "ExtensionsToDeleteOnClean", "PostBuildEventUseInBuild",
    "PreBuildEventUseInBuild", "PreLinkEventUseInBuild"]

/-- Definitions of tools that scripts do without. -/
def ignoredTools : List String :=
  ["ResourceCompile", "Midl", "PreBuildEvent", "PostBuildEvent", "PreLinkEvent", "Manifest",
    "Bscmake", "ProjectReference", "CustomBuildStep", "Xdcmake"]

/-- Elements of the compiler that scripts do without. -/
def ignoredCompilerElements : List String :=
  ["MinimalRebuild", "BasicRuntimeChecks", "DebugInformationFormat", "ProgramDataBaseFileName",
    "ObjectFileName", "AssemblerListingLocation", "BrowseInformation", "FunctionLevelLinking",
    "IntrinsicFunctions", "FavorSizeOrSpeed", "OmitFramePointers", "StringPooling",
    "BufferSecurityCheck", "CompileAs", "TreatWChar_tAsBuiltInType",
    "ForceConformanceInForLoopScope", "SuppressStartupBanner", "WholeProgramOptimization",
    "EnableEnhancedInstructionSet", "FloatingPointModel", "InlineFunctionExpansion",
    "SmallerTypeCheck", "StructMemberAlignment", "ForcedIncludeFiles", "CallingConvention",
    "ShowIncludes", "OpenMPSupport", "DisableLanguageExtensions", "MultiProcessorCompilation",
    "SDLCheck", "ConformanceMode", "LanguageStandard", "ErrorReporting"]

/-- Elements of the linker that scripts do without. -/
def ignoredLinkerElements : List String :=
  ["OutputFile", "GenerateDebugInformation", "SubSystem", "TargetMachine", "ImportLibrary",
    "RandomizedBaseAddress", "DataExecutionPrevention", "EnableCOMDATFolding",
    "IgnoreSpecificDefaultLibraries", "IgnoreAllDefaultLibraries", "LinkTimeCodeGeneration",
    "SuppressStartupBanner", "MapFileName", "GenerateMapFile", "StackReserveSize",
    "HeapReserveSize", "BaseAddress", "DelayLoadDLLs", "EntryPointSymbol", "UACExecutionLevel",
    "LargeAddressAware", "ErrorReporting"]

/-- The text of an element without the blanks around it. -/
def textOf (element : Element) : String := trimmed element.text

/-- Note an element unless it is one of those that another may hold. -/
def noteUnlessKnown (known : List String) (owner name : String) : Reading Unit :=
  Reported.noteIf (name ∉ known) (.unknownElement .vcxproj owner name)

section Conditions

/-- What a condition asks of a configuration: a build type and, if it names one, a platform. -/
structure Selection where
  buildType : String
  platform : Option String
deriving DecidableEq, Repr

/-- Whether a configuration is selected. -/
def Selection.selects (selection : Selection) (configuration : Configuration) : Bool :=
  configuration.buildType = selection.buildType &&
    selection.platform.all (configuration.platform = ·)

/-- The selection that stands on the right of the equality in a condition. -/
def Selection.ofCondition? (condition : String) : Option Selection :=
  (Text.cutAtText "==".toList condition.toList).map fun (_, right) =>
    let bare := Text.trim (Text.strip (· == '\'') (Text.trim right))
    match Text.cutAt '|' bare with
    | some (buildType, platform) => ⟨String.ofList buildType, some (String.ofList platform)⟩
    | none => ⟨String.ofList bare, none⟩

/-- Which configurations a group applies to: all of them without a condition, and none under a
condition that cannot be read. -/
def selected (condition : Option String) (configurations : List Configuration) :
    Reading (Configuration → Bool) :=
  match condition with
  | none => pure fun _ => true
  | some condition =>
    match Selection.ofCondition? condition with
    | none => do
      Reported.note (.unreadableCondition condition)
      return fun _ => false
    | some selection => do
      Reported.noteIf (!configurations.any selection.selects) (.unmatchedCondition condition)
      return selection.selects

/-- A step for every configuration that a condition selects. -/
def forSelected (condition : Option String) (step : Configuration → Reading Configuration)
    (project : Project) : Reading Project := do
  let isSelected ← selected condition project.configurations
  let configurations ← Reported.forEach
    (fun configuration => if isSelected configuration then step configuration
      else pure configuration) project.configurations
  return { project with configurations := configurations }

end Conditions

section Settings

/-- Change the compiler of a configuration, which has one from then on. -/
def updateCompiler (configuration : Configuration)
    (change : CompilerSettings → Reading CompilerSettings) : Reading Configuration :=
  match configuration.compilers with
  | [] => do return { configuration with compilers := [← change {}] }
  | first :: others => do return { configuration with compilers := (← change first) :: others }

/-- Change the linker of a configuration, which has one from then on. -/
def updateLinker (configuration : Configuration)
    (change : LinkerSettings → Reading LinkerSettings) : Reading Configuration :=
  match configuration.linkers with
  | [] => do return { configuration with linkers := [← change {}] }
  | first :: others => do return { configuration with linkers := (← change first) :: others }

/-- What one element of the compiler says about it. -/
def readCompilerElement (name value : String) (compiler : CompilerSettings) :
    Reading CompilerSettings :=
  match name with
  | "AdditionalIncludeDirectories" =>
    let dirs := (ownItems value).map fun dir => { path := Path.normal dir }
    pure { compiler with includeDirs := dirs }
  | "PreprocessorDefinitions" =>
    let defines := ((ownItems value).map definition).foldl
      (fun defines (key, value) => defines.insert key value) compiler.defines
    pure { compiler with defines := defines }
  | "RuntimeTypeInfo" => pure { compiler with rtti := isYes value }
  | "ExceptionHandling" => do
    return { compiler with exceptionHandling := ← exceptionHandlings.decode value }
  | "Optimization" => do return { compiler with optimization := ← optimizations.decode value }
  | "WarningLevel" => do return { compiler with warningLevel := ← warningLevels.decode value }
  | "TreatWarningAsError" => pure { compiler with warningsAsErrors := isYes value }
  | "PrecompiledHeader" => do
    return { compiler with precompiled.mode := ← headerModes.decode value }
  | "PrecompiledHeaderFile" =>
    pure { compiler with precompiled.header := some (Path.normal value) }
  | "PrecompiledHeaderOutputFile" =>
    pure { compiler with precompiled.binary := some (Path.normal value) }
  | "DisableSpecificWarnings" =>
    pure { compiler with options.disabledWarnings := ownItems value }
  | "AdditionalOptions" => pure { compiler with options.flags := ownWords value }
  | name => do
    noteUnlessKnown ignoredCompilerElements "ClCompile" name
    return compiler

/-- What one element of the compiler says. Of the run-time library only whether it is one for
debugging is kept, and that in the configuration. -/
def readCompilerSetting (configuration : Configuration) (element : Element) :
    Reading Configuration := do
  if element.name = "RuntimeLibrary" then
    return { configuration with usesDebugRuntime := ← debugRuntime (textOf element) }
  else updateCompiler configuration (readCompilerElement element.name (textOf element))

/-- What one element of a linker says. -/
def readLinkerElement (tool name value : String) (linker : LinkerSettings) :
    Reading LinkerSettings :=
  match name with
  | "AdditionalDependencies" =>
    pure { linker with dependencies := (ownItems value).map libraryName }
  | "AdditionalLibraryDirectories" =>
    pure { linker with libraryDirs := (ownItems value).map Path.normal }
  | "ModuleDefinitionFile" => pure { linker with moduleDefinition := some (Path.normal value) }
  | "ProgramDatabaseFile" => pure { linker with programDatabase := some (Path.normal value) }
  | "OptimizeReferences" => pure { linker with optimizesReferences := isYes value }
  | "AdditionalOptions" => pure { linker with options.flags := ownWords value }
  | name => do
    noteUnlessKnown ignoredLinkerElements tool name
    return linker

/-- What one definition of a tool says. -/
def readToolDefinition (configuration : Configuration) (tool : Element) :
    Reading Configuration := do
  if tool.name = "ClCompile" then
    Reported.fold readCompilerSetting configuration tool.children
  else if tool.name = "Link" ∨ tool.name = "Lib" then
    Reported.fold (fun configuration element => updateLinker configuration
      (readLinkerElement tool.name element.name (textOf element))) configuration tool.children
  else
    noteUnlessKnown ignoredTools "ItemDefinitionGroup" tool.name
    return configuration

/-- What one property of a configuration says. -/
def readConfigurationProperty (configuration : Configuration) (element : Element) :
    Reading Configuration :=
  let value := textOf element
  match element.name with
  | "ConfigurationType" => do return { configuration with kind := ← targetKinds.decode value }
  | "UseDebugLibraries" => pure { configuration with usesDebugRuntime := isYes value }
  | "CharacterSet" => do return { configuration with charset := ← characterSets.decode value }
  | "UseOfMfc" => do return { configuration with mfc := ← libraryUsages.decode value }
  | "UseOfAtl" => do return { configuration with atl := ← libraryUsages.decode value }
  | "WholeProgramOptimization" => pure { configuration with optimizesWhole := isYes value }
  | name => do
    noteUnlessKnown ignoredConfigurationProperties "PropertyGroup Configuration" name
    return configuration

/-- What one general property says. -/
def readGeneralProperty (configuration : Configuration) (element : Element) :
    Reading Configuration := do
  if element.name = "LinkIncremental" then
    updateLinker configuration fun linker =>
      pure { linker with isIncremental := isYes (textOf element) }
  else
    noteUnlessKnown ignoredGeneralProperties "PropertyGroup" element.name
    return configuration

end Settings

section Items

/-- Something that is said about an item. -/
structure Metadata where
  name : String
  value : String
deriving DecidableEq, Repr

/-- An item: its kind, the path that it includes, and what is said about it. -/
structure Item where
  kind : String
  path : String
  metadata : List Metadata
deriving DecidableEq, Repr

/-- Whether two items are of one kind and include one path, up to case. -/
def Item.isSame (left right : Item) : Bool :=
  left.kind = right.kind && Text.sameLetters (Path.normal left.path) (Path.normal right.path)

/-- The first thing of a name that is said about an item. -/
def Item.find? (item : Item) (name : String) : Option String :=
  (item.metadata.find? (·.name = name)).map (·.value)

/-- The item that an element states. -/
def Item.ofElement (element : Element) : Item where
  kind := element.name
  path := element.valueOf "Include"
  metadata := element.children.map fun part => ⟨part.name, textOf part⟩

/-- The items of a group. -/
def itemsOf (group : Element) : List Item := group.children.map Item.ofElement

/-- What the first item that is the same says, replaced by what the given one says; none if there
is no such item. -/
def replaceFirst (item : Item) : List Item → Option (List Item)
  | [] => none
  | known :: rest =>
    if known.isSame item then some ({ known with metadata := item.metadata } :: rest)
    else (replaceFirst item rest).map (known :: ·)

/-- The items of a companion's group merged into known ones: the known ones as they become, and
the new ones. -/
def mergeItems (known : List Item) : List Item → List Item × List Item
  | [] => (known, [])
  | item :: rest =>
    match replaceFirst item known with
    | some known => mergeItems known rest
    | none =>
      let (known, added) := mergeItems known rest
      (known, item :: added)

/-- Known items after a companion's group, whose new items follow them. -/
def mergeGroup (known incoming : List Item) : List Item :=
  let (known, added) := mergeItems known incoming
  known ++ added

/-- What one element of a companion file adds to known items. -/
def readCompanionPart (known : List Item) (element : Element) : Reading (List Item) := do
  if element.name = "ItemGroup" then return mergeGroup known (itemsOf element)
  else
    noteUnlessKnown ["PropertyGroup", "Import"] "Project (filters)" element.name
    return known

end Items

section Declarations

/-- The configuration that an element declares. Fields in it replace the parts of its name. -/
def readDeclaration (element : Element) : Reading Configuration :=
  Reported.fold
    (fun configuration part =>
      if part.name = "Configuration" then pure { configuration with buildType := textOf part }
      else if part.name = "Platform" then pure { configuration with platform := textOf part }
      else do
        noteUnlessKnown [] "ProjectConfiguration" part.name
        return configuration)
    (Configuration.ofName (element.valueOf "Include")) element.children

/-- The configuration that an element declares, added to a project. -/
def addDeclaration (project : Project) (element : Element) : Reading Project := do
  if element.name = "ProjectConfiguration" then
    let configuration ← readDeclaration element
    return { project with configurations := project.configurations ++ [configuration] }
  else
    noteUnlessKnown [] "ItemGroup" element.name
    return project

/-- What one global property says. -/
def readGlobal (project : Project) (element : Element) : Reading Project :=
  let value := textOf element
  match element.name with
  | "ProjectName" => pure { project with name := value }
  | "ProjectGuid" => pure { project with guid := some value }
  | "RootNamespace" => pure { project with rootNamespace := some value }
  | "Keyword" => pure { project with keyword := some value }
  | "SccProjectName" => pure { project with sourceControl.projectName := some value }
  | "SccLocalPath" => pure { project with sourceControl.localPath := some value }
  | "SccProvider" => pure { project with sourceControl.provider := some value }
  | "SccAuxPath" => pure { project with sourceControl.auxPath := some value }
  | name => do
    noteUnlessKnown ignoredGlobals "PropertyGroup Globals" name
    return project

/-- What one element of a project file says: about the project, or which items it has. -/
def readProjectPart (state : Project × List Item) (element : Element) :
    Reading (Project × List Item) := do
  let (project, known) := state
  let label := element.value? "Label"
  let condition := element.value? "Condition"
  if element.name = "ItemGroup" then
    if label = some "ProjectConfigurations" then
      return (← Reported.fold addDeclaration project element.children, known)
    else return (project, known ++ itemsOf element)
  else if element.name = "PropertyGroup" then
    if label = some "Globals" then
      return (← Reported.fold readGlobal project element.children, known)
    else if label = some "Configuration" then
      return (← forSelected condition (fun configuration =>
        Reported.fold readConfigurationProperty configuration element.children) project, known)
    else if label = some "UserMacros" then return state
    else
      return (← forSelected condition (fun configuration =>
        Reported.fold readGeneralProperty configuration element.children) project, known)
  else if element.name = "ItemDefinitionGroup" then
    return (← forSelected condition (fun configuration =>
      Reported.fold readToolDefinition configuration element.children) project, known)
  else
    noteUnlessKnown ignoredProjectElements "Project" element.name
    return state

end Declarations

section Filters

/-- The names of the filters on a path, from the outermost inwards. -/
def filterNames (path : String) : List String :=
  ((Text.pieces (fun c => c == '\\' || c == '/') path.toList).filter (!·.isEmpty)).map
    String.ofList

/-- The place of the first filter with a name, up to case, directly below a place. -/
def childNamed (tree : FilterTree) (place : Nat) (name : String) : Option Nat :=
  (tree.childrenOf place).find? fun child =>
    (tree.node? child).any fun node => Text.sameLetters node.name name

/-- The place that names lead to from a place, in a tree that has filters for all of them. -/
def descend (tree : FilterTree) (place : Nat) : List String → FilterTree × Nat
  | [] => (tree, place)
  | name :: rest =>
    match childNamed tree place name with
    | some child => descend tree child rest
    | none => descend (tree.addChild place { name := name }) tree.size rest

/-- The place of the filter with a path, in a tree that has this filter. -/
def ensureFilter (tree : FilterTree) (path : String) : FilterTree × Nat :=
  descend tree FilterTree.root (filterNames path)

/-- Why the files of a filter are left out, if they are: the reason of the innermost filter that
has one. -/
def inheritedSkipReason? (tree : FilterTree) (place : Nat) : Option SkipReason :=
  (tree.ancestry place).findSome? fun node => filterSkipReason? node.name node.isTracked

/-- What a filter item says, written into a tree. -/
def addFilter (tree : FilterTree) (item : Item) : Reading FilterTree := do
  let (tree, place) := ensureFilter tree item.path
  let tree := match item.find? "Extensions" with
    | some value => tree.modify place fun node =>
      { node with extensions := some (items isSemicolon value) }
    | none => tree
  let tree := match item.find? "SourceControlFiles" with
    | some value => tree.modify place fun node => { node with isTracked := isYes value }
    | none => tree
  let _ ← Reported.forEach
    (fun (part : Metadata) => noteUnlessKnown filterMetadata "Filter" part.name) item.metadata
  return tree

/-- What is said about a file item, written into the file. -/
def readFileMetadata (kind : String) (file : FileEntry) (part : Metadata) : Reading FileEntry := do
  if part.name = "ExcludedFromBuild" ∧ isYes part.value then
    return { file with override := some ⟨true⟩ }
  else
    noteUnlessKnown fileMetadata kind part.name
    return file

/-- The file with a path that a file item states. -/
def readFile (item : Item) (path : String) : Reading FileEntry := do
  let file ← Reported.fold (readFileMetadata item.kind) { path := path } item.metadata
  return if item.kind = "CustomBuild" then
    { file with customBuild := some "CustomBuild item" } else file

/-- The place of the filter that an item names, in a tree that has this filter. An item that names
none stands in the root. -/
def ensureFilterOf (tree : FilterTree) (item : Item) : FilterTree × Nat :=
  match item.find? "Filter" with
  | none | some "" => (tree, FilterTree.root)
  | some filter => ensureFilter tree filter

/-- A tree with the file that a file item states, unless the file is left out. -/
def addFile (tree : FilterTree) (item : Item) (path : String) : Reading FilterTree := do
  let (tree, place) := ensureFilterOf tree item
  match (inheritedSkipReason? tree place).or (skipReason? path) with
  | some reason =>
    Reported.note (.skipped path reason)
    return tree
  | none =>
    let file ← readFile item path
    Reported.noteIf file.isExcluded (.excluded path)
    return tree.addFile place file

/-- What an item that is no filter says, written into a tree. -/
def addItem (tree : FilterTree) (item : Item) : Reading FilterTree := do
  if item.kind ∈ otherKinds then return tree
  else if item.kind ∉ fileKinds then
    noteUnlessKnown [] "ItemGroup" item.kind
    return tree
  else
    let path := Path.normal item.path
    if path = "" then return tree else addFile tree item path

/-- The tree that items state. All filter items come before all others. -/
def treeOfItems (all : List Item) : Reading FilterTree := do
  let tree ← Reported.fold addFilter .empty (all.filter (·.kind = "Filter"))
  Reported.fold addItem tree (all.filter (·.kind ≠ "Filter"))

end Filters

section Projects

/-- A name for a project without one: its root namespace, or else the given name. -/
def nameOf (project : Project) (fallback : String) : String :=
  if project.name ≠ "" then project.name
  else match project.rootNamespace with
    | none | some "" => fallback
    | some name => name

/-- A project with its name and the tree of its items. -/
def finish (fallback : String) (project : Project) (all : List Item) : Reading Project := do
  let filters ← treeOfItems all
  let complete := { project with name := nameOf project fallback, filters := filters }
  return complete.markBuildUnits

/-- The root of a document, if it is a project. -/
def projectElement? (document : Element) : Option Element :=
  if document.name = "Project" then some document else none

/-- The items known after a companion file. -/
def readCompanion (known : List Item) (companion : Option Element) : Reading (List Item) :=
  match companion.bind projectElement? with
  | none => pure known
  | some element => Reported.fold readCompanionPart known element.children

/-- The project that a document and its companion declare, if the document is a project. -/
def readProjects (document : Element) (companion : Option Element) (fallback : String) :
    Reading (List Project) :=
  match projectElement? document with
  | some element => do
    let (project, known) ←
      Reported.fold readProjectPart ({ dialect := some .vcxproj }, []) element.children
    let all ← readCompanion known companion
    return [← finish fallback project all]
  | none => do
    Reported.noteIf (companion.bind projectElement?).isSome (.unmatchedCompanion 0)
    return []

end Projects

end ProjectScribe.Reading.ElementFormat
