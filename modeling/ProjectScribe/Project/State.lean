import ProjectScribe.Project.Basic
import ProjectScribe.Json.Value

/-!
# The written state of a project

A project as a JSON value, with one member for each field and choices written by their labels.
-/
namespace ProjectScribe

open Json (Value)

/-- A search directory as a value. -/
def IncludeDirectory.state (directory : IncludeDirectory) : Value :=
  .record [("path", .text directory.path), ("before", .boolean directory.isBefore),
    ("after", .boolean directory.isAfter), ("system", .boolean directory.isSystem)]

/-- Definitions as an object with a member for each key. -/
def Defines.state (defines : Defines) : Value :=
  .record (defines.entries.map fun (key, value) => (key, .text value))

/-- The use of a precompiled header as a value. -/
def PrecompiledHeader.state (precompiled : PrecompiledHeader) : Value :=
  .record [("mode", .text precompiled.mode.label),
    ("header", .optionalText precompiled.header), ("binary", .optionalText precompiled.binary)]

/-- Options of one family of tools as a value. There is one family only. -/
def ToolOptions.state (options : ToolOptions) : Value :=
  .record [("family", .text "Msvc"), ("flags", .texts options.flags),
    ("disabled_warnings", .texts options.disabledWarnings)]

/-- Compiler settings as a value. -/
def CompilerSettings.state (compiler : CompilerSettings) : Value :=
  .record [("include_dirs", .array (compiler.includeDirs.map (·.state))),
    ("defines", compiler.defines.state), ("rtti", .boolean compiler.rtti),
    ("exception_handling", .text compiler.exceptionHandling.label),
    ("optimization", .text compiler.optimization.label),
    ("warning_level", .text compiler.warningLevel.label),
    ("warnings_as_errors", .boolean compiler.warningsAsErrors),
    ("pch", compiler.precompiled.state), ("specific", compiler.options.state)]

/-- Linker settings as a value. -/
def LinkerSettings.state (linker : LinkerSettings) : Value :=
  .record [("dependencies", .texts linker.dependencies), ("library_dirs", .texts linker.libraryDirs),
    ("module_definition_file", .optionalText linker.moduleDefinition),
    ("program_database", .optionalText linker.programDatabase),
    ("incremental", .boolean linker.isIncremental),
    ("optimize_references", .boolean linker.optimizesReferences),
    ("specific", linker.options.state)]

/-- A configuration as a value. -/
def Configuration.state (configuration : Configuration) : Value :=
  .record [("build_type", .text configuration.buildType),
    ("platform", .text configuration.platform), ("kind", .text configuration.kind.label),
    ("use_mfc", .text configuration.mfc.label), ("use_atl", .text configuration.atl.label),
    ("charset", .text configuration.charset.label),
    ("whole_program_optimization", .boolean configuration.optimizesWhole),
    ("debug_runtime", .boolean configuration.usesDebugRuntime),
    ("compilers", .array (configuration.compilers.map (·.state))),
    ("linkers", .array (configuration.linkers.map (·.state)))]

/-- What is said about a single file as a value. -/
def FileOverride.state (override : FileOverride) : Value :=
  .record [("excluded_from_build", .boolean override.excludedFromBuild)]

/-- A file as a value. -/
def FileEntry.state (file : FileEntry) : Value :=
  .record [("path", .text file.path),
    ("config_override", (file.override.map (·.state)).getD .null),
    ("custom_build", .optionalText file.customBuild)]

/-- A filter as a value. -/
def FilterNode.state (node : FilterNode) : Value :=
  .record [("name", .text node.name), ("extensions", (node.extensions.map .texts).getD .null),
    ("scc_tracked", .boolean node.isTracked), ("parent", (node.parent.map .natural).getD .null),
    ("children", .array (node.children.map .natural)),
    ("files", .array (node.files.map (·.state)))]

/-- A tree of filters as a value. -/
def FilterTree.state (tree : FilterTree) : Value :=
  .record [("nodes", .array (tree.nodes.map (·.state)))]

/-- A source control binding as a value. -/
def SourceControl.state (binding : SourceControl) : Value :=
  .record [("project_name", .optionalText binding.projectName),
    ("local_path", .optionalText binding.localPath), ("provider", .optionalText binding.provider),
    ("aux_path", .optionalText binding.auxPath)]

/-- A project as a value. -/
def Project.state (project : Project) : Value :=
  .record [("name", .text project.name),
    ("dialect", .optionalText (project.dialect.map (·.label))),
    ("guid", .optionalText project.guid), ("root_namespace", .optionalText project.rootNamespace),
    ("keyword", .optionalText project.keyword), ("scc", project.sourceControl.state),
    ("configurations", .array (project.configurations.map (·.state))),
    ("filters", project.filters.state), ("has_build_units", .boolean project.hasBuildUnits)]

end ProjectScribe
