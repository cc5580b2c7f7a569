import ProjectScribe.Project.Basic
import ProjectScribe.Reading.Choice
import ProjectScribe.Reading.Classification
import ProjectScribe.Xml.Element

/-!
# The older format

Settings are attributes of elements `Tool`, which stand in elements `Configuration`; files stand
in nested filters. A filter whose files are left out leaves out those of the filters in it too,
for the same reason.
-/
namespace ProjectScribe.Reading.AttributeFormat

open Xml (Attribute Element)

/-- The name of the tool that compiles. -/
def compilerTool : String := "VCCLCompilerTool"

/-- The names of the tools that link. -/
def linkerTools : List String := ["VCLinkerTool", "VCLibrarianTool"]

/-- The name of the tool that builds a file in its own way. -/
def customBuildTool : String := "VCCustomBuildTool"

/-- Tools that scripts do without. -/
def ignoredTools : List String :=
  ["VCPreBuildEventTool", "VCPreLinkEventTool", "VCPostBuildEventTool", "VCXMLDataGeneratorTool",
    "VCWebServiceProxyGeneratorTool", "VCMIDLTool", "VCManagedResourceCompilerTool",
    "VCResourceCompilerTool", "VCALinkTool", "VCManifestTool", "VCXDCMakeTool", "VCBscMakeTool",
    "VCFxCopTool", "VCAppVerifierTool", "VCWebDeploymentTool", "VCManagedWrapperGeneratorTool",
    "VCAuxiliaryManagedWrapperGeneratorTool", "VCNMakeTool"]

/-- Attributes of projects that scripts do without. -/
def ignoredProjectAttributes : List String :=
  ["ProjectType", "Version", "TargetFrameworkVersion", "AssemblyReferenceSearchPaths"]

/-- Elements of projects that scripts do without. -/
def ignoredProjectElements : List String :=
  ["Platforms", "ToolFiles", "References", "Globals"]

/-- Attributes of configurations that scripts do without. -/
def ignoredConfigurationAttributes : List String :=
  ["OutputDirectory", "IntermediateDirectory", "ATLMinimizesCRunTimeLibraryUsage",
    "InheritedPropertySheets", "BuildLogFile", "ManagedExtensions", "DeleteExtensionsOnClean",
    "ExcludedFromBuild", "ReferencesPath"]

/-- Attributes of the compiler that scripts do without. -/
def ignoredCompilerAttributes : List String :=
  ["MinimalRebuild", "BasicRuntimeChecks", "DebugInformationFormat",
    "Detect64BitPortabilityProblems", "ProgramDataBaseFileName", "ObjectFile",
    "AssemblerListingLocation", "BrowseInformation", "BrowseInformationFile",
    "EnableFunctionLevelLinking", "EnableIntrinsicFunctions", "FavorSizeOrSpeed",
    "OmitFramePointers", "StringPooling", "BufferSecurityCheck", "CompileAs",
    "TreatWChar_tAsBuiltInType", "ForceConformanceInForLoopScope", "SuppressStartupBanner",
    "WholeProgramOptimization", "EnableEnhancedInstructionSet", "FloatingPointModel",
    "FloatingPointExceptions", "GeneratePreprocessedFile", "InlineFunctionExpansion",
    "SmallerTypeCheck", "StructMemberAlignment", "UndefinePreprocessorDefinitions",
    "ForcedIncludeFiles", "CallingConvention", "ShowIncludes", "OpenMP",
    "DisableLanguageExtensions", "UseFullPaths", "ExpandAttributedSource", "AssemblerOutput",
    "XMLDocumentationFileName", "GenerateXMLDocumentationFiles", "IgnoreStandardIncludePath",
    "KeepComments", "ErrorReporting", "EnableFiberSafeOptimizations", "DefaultCharIsUnsigned",
    "CompileAsManaged", "UseUnicodeResponseFiles"]

/-- Attributes of the linker that scripts do without. -/
def ignoredLinkerAttributes : List String :=
  ["OutputFile", "GenerateDebugInformation", "SubSystem", "TargetMachine", "GenerateManifest",
    "ManifestFile", "ImportLibrary", "RandomizedBaseAddress", "DataExecutionPrevention",
    "EnableCOMDATFolding", "IgnoreDefaultLibraryNames", "IgnoreAllDefaultLibraries",
    "LinkTimeCodeGeneration", "SuppressStartupBanner", "MapFileName", "GenerateMapFile",
    "MapExports", "StackReserveSize", "HeapReserveSize", "BaseAddress", "FixedBaseAddress",
    "DelayLoadDLLs", "LinkLibraryDependencies", "UseLibraryDependencyInputs",
    "UseUnicodeResponseFiles", "ErrorReporting", "AllowIsolation", "EntryPointSymbol",
    "ProfileGuidedDatabase", "TurnOffAssemblyGeneration", "AssemblyDebug", "UACExecutionLevel",
    "Version", "LargeAddressAware", "ResourceOnlyDLL", "SetChecksum", "SwapRunFromNet"]

/-- The attributes of a file. -/
def fileAttributes : List String :=
  ["RelativePath", "FileType", "SubType", "DeploymentContent"]

/-- Note an attribute unless it is one of those that an element may have. -/
def noteUnlessKnown (known : List String) (owner name : String) : Reading Unit :=
  Reported.noteIf (name ∉ known) (.unknownAttribute .vcproj owner name)

/-- Note an element unless it is one of those that another may hold. -/
def noteElementUnlessKnown (known : List String) (owner name : String) : Reading Unit :=
  Reported.noteIf (name ∉ known) (.unknownElement .vcproj owner name)

section Tools

/-- What one attribute of the compiler says. Of the run-time library only whether it is one for
debugging is kept, and that in the configuration. -/
def readCompilerAttribute (state : Configuration × CompilerSettings) (entry : Attribute) :
    Reading (Configuration × CompilerSettings) :=
  let (configuration, compiler) := state
  let value := entry.value
  match entry.name with
  | "Name" => pure state
  | "AdditionalIncludeDirectories" =>
    let dirs := (items isListMark value).map fun dir => { path := Path.normal dir }
    pure (configuration, { compiler with includeDirs := dirs })
  | "PreprocessorDefinitions" =>
    let defines := ((items isListMark value).map definition).foldl
      (fun defines (key, value) => defines.insert key value) compiler.defines
    pure (configuration, { compiler with defines := defines })
  | "RuntimeTypeInfo" => pure (configuration, { compiler with rtti := isYes value })
  | "ExceptionHandling" => do
    return (configuration,
      { compiler with exceptionHandling := ← exceptionHandlings.decode value })
  | "Optimization" => do
    return (configuration, { compiler with optimization := ← optimizations.decode value })
  | "WarningLevel" => do
    return (configuration, { compiler with warningLevel := ← warningLevels.decode value })
  | "WarnAsError" => pure (configuration, { compiler with warningsAsErrors := isYes value })
  | "UsePrecompiledHeader" => do
    return (configuration,
      { compiler with precompiled.mode := ← headerModes.decode value })
  | "PrecompiledHeaderThrough" =>
    pure (configuration, { compiler with precompiled.header := some (Path.normal value) })
  | "PrecompiledHeaderFile" =>
    pure (configuration, { compiler with precompiled.binary := some (Path.normal value) })
  | "RuntimeLibrary" => do
    return ({ configuration with usesDebugRuntime := ← debugRuntime value }, compiler)
  | "DisableSpecificWarnings" =>
    pure (configuration, { compiler with options.disabledWarnings := items isListMark value })
  | "AdditionalOptions" =>
    pure (configuration, { compiler with options.flags := words value })
  | name => do
    noteUnlessKnown ignoredCompilerAttributes compilerTool name
    return state

/-- The compiler that a tool sets up, added to its configuration. -/
def readCompiler (configuration : Configuration) (tool : Element) : Reading Configuration := do
  let (configuration, compiler) ←
    Reported.fold readCompilerAttribute (configuration, {}) tool.attributes
  return { configuration with compilers := configuration.compilers ++ [compiler] }

/-- What one attribute of a linker says. -/
def readLinkerAttribute (tool : String) (linker : LinkerSettings) (entry : Attribute) :
    Reading LinkerSettings :=
  let value := entry.value
  match entry.name with
  | "Name" => pure linker
  | "AdditionalDependencies" =>
    pure { linker with dependencies := ((words value).map libraryName).filter (· ≠ "") }
  | "AdditionalLibraryDirectories" =>
    pure { linker with libraryDirs := (items isListMark value).map Path.normal }
  | "ModuleDefinitionFile" => pure { linker with moduleDefinition := some (Path.normal value) }
  | "ProgramDatabaseFile" => pure { linker with programDatabase := some (Path.normal value) }
  | "LinkIncremental" => pure { linker with isIncremental := isOn value }
  | "OptimizeReferences" => pure { linker with optimizesReferences := isOn value }
  | "AdditionalOptions" => pure { linker with options.flags := words value }
  | name => do
    noteUnlessKnown ignoredLinkerAttributes tool name
    return linker

/-- The linker that a tool sets up. -/
def readLinker (tool : Element) : Reading LinkerSettings :=
  Reported.fold (readLinkerAttribute (tool.valueOf "Name")) {} tool.attributes

end Tools

section Configurations

/-- What one attribute of a configuration says. -/
def readConfigurationAttribute (configuration : Configuration) (entry : Attribute) :
    Reading Configuration :=
  let value := entry.value
  match entry.name with
  | "Name" => pure configuration
  | "ConfigurationType" => do return { configuration with kind := ← targetKinds.decode value }
  | "UseOfMFC" => do return { configuration with mfc := ← libraryUsages.decode value }
  | "UseOfATL" => do return { configuration with atl := ← libraryUsages.decode value }
  | "CharacterSet" => do return { configuration with charset := ← characterSets.decode value }
  | "WholeProgramOptimization" => pure { configuration with optimizesWhole := isYes value }
  | name => do
    noteUnlessKnown ignoredConfigurationAttributes "Configuration" name
    return configuration

/-- What one element of a configuration says. -/
def readTool (configuration : Configuration) (tool : Element) : Reading Configuration := do
  if tool.name ≠ "Tool" then
    Reported.note (.unknownElement .vcproj "Configuration" tool.name)
    return configuration
  else
    let name := tool.valueOf "Name"
    if name = compilerTool then readCompiler configuration tool
    else if name ∈ linkerTools then
      let linker ← readLinker tool
      return { configuration with linkers := configuration.linkers ++ [linker] }
    else
      Reported.noteIf (name ∉ ignoredTools)
        (.unknownElement .vcproj "Configuration" ("Tool Name=" ++ name))
      return configuration

/-- A configuration. -/
def readConfiguration (element : Element) : Reading Configuration := do
  let configuration ← Reported.fold readConfigurationAttribute
    (Configuration.ofName (element.valueOf "Name")) element.attributes
  Reported.fold readTool configuration element.children

/-- The configuration that an element declares, added to others. -/
def addConfiguration (configurations : List Configuration) (element : Element) :
    Reading (List Configuration) := do
  if element.name = "Configuration" then
    return configurations ++ [← readConfiguration element]
  else
    Reported.note (.unknownElement .vcproj "Configurations" element.name)
    return configurations

end Configurations

section Files

/-- What one attribute of a file's configuration says. -/
def readFileSetting (file : FileEntry) (entry : Attribute) : Reading FileEntry :=
  match entry.name with
  | "Name" => pure file
  | "ExcludedFromBuild" =>
    pure (if isYes entry.value then { file with override := some ⟨true⟩ } else file)
  | name => do
    noteUnlessKnown [] "FileConfiguration" name
    return file

/-- What a file's configuration says. A custom build tool in it builds the file. -/
def readFileConfiguration (file : FileEntry) (element : Element) : Reading FileEntry := do
  let file ← Reported.fold readFileSetting file element.attributes
  if element.children.any fun tool =>
      tool.name = "Tool" && tool.value? "Name" = some customBuildTool then
    return { file with customBuild := some ("custom build tool in " ++ element.valueOf "Name") }
  else return file

/-- What one attribute of a filter says. -/
def readFilterAttribute (filter : FilterNode) (entry : Attribute) : Reading FilterNode :=
  match entry.name with
  | "Name" | "UniqueIdentifier" | "ParseFiles" => pure filter
  | "Filter" => pure { filter with extensions := some (items isSemicolon entry.value) }
  | "SourceControlFiles" => pure { filter with isTracked := isYes entry.value }
  | name => do
    noteUnlessKnown [] "Filter" name
    return filter

/-- Why the files of a filter are left out, if they are. -/
def ownSkipReason? (filter : Element) : Option SkipReason :=
  filterSkipReason? (filter.valueOf "Name") ((filter.value? "SourceControlFiles").all isYes)

mutual

/-- What stands in a filter, added in order to a tree below a place. A reason given from above
leaves out all files. -/
def readFilter (place : Nat) (skip : Option SkipReason) (tree : FilterTree) :
    List Element → Reading FilterTree
  | [] => pure tree
  | entry :: rest => do
    let tree ← readEntry place skip tree entry
    readFilter place skip tree rest

/-- A filter or a file, added to a tree below a place. The files that stand in a file join it in
its filter, before it. -/
def readEntry (place : Nat) (skip : Option SkipReason) (tree : FilterTree) :
    Element → Reading FilterTree
  | .mk name attributes text children => do
    let element : Element := .mk name attributes text children
    if name = "Filter" then
      let filter ← Reported.fold readFilterAttribute
        ({ name := element.valueOf "Name" } : FilterNode) attributes
      readFilter tree.size (skip.or (ownSkipReason? element)) (tree.addChild place filter) children
    else if name = "File" then
      let path := Path.normal (element.valueOf "RelativePath")
      if path = "" then
        Reported.note (.unknownElement .vcproj "Filter" "File without RelativePath")
        return tree
      else match skip.or (skipReason? path) with
        | some reason =>
          Reported.note (.skipped path reason)
          return tree
        | none =>
          let _ ← Reported.forEach
            (fun (entry : Attribute) => noteUnlessKnown fileAttributes "File" entry.name)
            attributes
          let (file, tree) ← readFileParts place skip { path := path } tree children
          Reported.noteIf file.isExcluded (.excluded path)
          return tree.addFile place file
    else
      Reported.note (.unknownElement .vcproj "Filter" name)
      return tree

/-- What stands in a file: its configurations, and other files, which join it in its filter. -/
def readFileParts (place : Nat) (skip : Option SkipReason) (file : FileEntry)
    (tree : FilterTree) : List Element → Reading (FileEntry × FilterTree)
  | [] => pure (file, tree)
  | part :: rest => do
    if part.name = "FileConfiguration" then
      let file ← readFileConfiguration file part
      readFileParts place skip file tree rest
    else if part.name = "File" then
      let tree ← readEntry place skip tree part
      readFileParts place skip file tree rest
    else
      Reported.note (.unknownElement .vcproj "File" part.name)
      readFileParts place skip file tree rest

end

end Files

section Projects

/-- What one attribute of a project says. -/
def readProjectAttribute (project : Project) (entry : Attribute) : Reading Project :=
  let value := entry.value
  match entry.name with
  | "Name" => pure { project with name := value }
  | "ProjectGUID" => pure { project with guid := some value }
  | "RootNamespace" => pure { project with rootNamespace := some value }
  | "Keyword" => pure { project with keyword := some value }
  | "SccProjectName" => pure { project with sourceControl.projectName := some value }
  | "SccLocalPath" => pure { project with sourceControl.localPath := some value }
  | "SccProvider" => pure { project with sourceControl.provider := some value }
  | "SccAuxPath" => pure { project with sourceControl.auxPath := some value }
  | name => do
    noteUnlessKnown ignoredProjectAttributes "VisualStudioProject" name
    return project

/-- What one element of a project says. -/
def readProjectPart (project : Project) (element : Element) : Reading Project := do
  if element.name = "Configurations" then
    let configurations ←
      Reported.fold addConfiguration project.configurations element.children
    return { project with configurations := configurations }
  else if element.name = "Files" then
    let filters ← readFilter FilterTree.root none project.filters element.children
    return { project with filters := filters }
  else
    noteElementUnlessKnown ignoredProjectElements "VisualStudioProject" element.name
    return project

/-- The project that an element declares. -/
def readProject (element : Element) : Reading Project := do
  let project ← Reported.fold readProjectAttribute { dialect := some .vcproj } element.attributes
  let project ← Reported.fold readProjectPart project element.children
  return project.markBuildUnits

/-- The projects that a document declares, wherever in it their elements stand. -/
def readProjects (document : Element) : Reading (List Project) :=
  Reported.forEach readProject
    (document.withDescendants.filter (·.name = "VisualStudioProject"))

end Projects

end ProjectScribe.Reading.AttributeFormat
