import ProjectScribe.Proofs.Script.Placement
import ProjectScribe.Proofs.Script.Standing

/-!
# What the body of a script consists of

Each instruction in the body of a script has one of a few forms, and what it says comes from the
project in a known way. This is shown part by part, so that a property of all instructions of a
body is known from its forms.
-/
namespace ProjectScribe.Script

open Instruction (under listed setVariable setList includeFile appendProperty
  setProperty)
open Mapping (everyPlatform PlatformTokens Table)

namespace Source

/-- The flags for the compiler in the block of a configuration. -/
def compilerFlags (source : Source) (configuration : Configuration) : List String :=
  (translateAll source.names
    (configuration.compilers.flatMap (compileFlags · configuration.optimizesWhole))).value

/-- The flags for the linker in the block of a configuration. -/
def linkerFlags (source : Source) (configuration : Configuration) : List String :=
  (translateAll source.names
    (configuration.linkers.flatMap (linkFlags · configuration.optimizesWhole))).value

/-- The forms of instructions in the body of a script. -/
inductive Forms (source : Source) : Instruction → Prop where
  | blank : Forms source .blank
  | closeIf : Forms source .closeIf
  | hook (place : Hook) : Forms source (hook place)
  | heading (configuration : Configuration) :
    Forms source (.comment ("Configuration \"" ++ configuration.fullName ++ "\""))
  /-- The start of a block for a platform that a table names. -/
  | ofPlatform {platform : String} (named : source.tables.Names platform) :
    Forms source (.openIf platform)
  | ofConfiguration {configuration : Configuration} {condition : String}
    (guarded : source.configurationCondition configuration = some condition) :
    Forms source (.openIf condition)
  | ofTarget : Forms source (.openIf (Context.existence source.target))
  | ofCompiler : Forms source (.openIf "MSVC")
  | library (value : String) : Forms source (setVariable "CMAKE_MFC_FLAG" value)
  | headers {configuration : Configuration} {platform : String} {dirs : List String}
    (bucket : (platform, dirs) ∈ (source.includeDirs configuration).value.toList) :
    Forms source (.command "include_directories" dirs)
  | libraryDirs {configuration : Configuration} {platform : String} {dirs : List String}
    (bucket : (platform, dirs) ∈ (source.libraryDirs configuration).value.toList) :
    Forms source (.command "link_directories" dirs)
  | sources (place : Nat) :
    Forms source (.command "set" (sourcesVariable (source.project.filters.pathOf place) ::
      source.builtPaths place))
  | group (name : String) :
    Forms source (.verbatim "source_group"
      [groupLiteral name, "FILES", reference (sourcesVariable name)])
  | gathered (name : String) :
    Forms source (.command "list" ["APPEND", "SOURCES", reference (sourcesVariable name)])
  | creation {name : String} (creates : name = "add_executable" ∨ name = "add_library")
    (arguments : List String) : Forms source (.command name arguments)
  | linked {configuration : Configuration} {platform : String} {names : List String}
    (bucket : (platform, names) ∈ (source.dependencies configuration).value.toList) :
    Forms source (.command "target_link_libraries" (source.target :: names))
  | binding (property value : String) : Forms source (setProperty source.target property value)
  | definitions {configuration : Configuration} {platform : String} {values : List String}
    (among : configuration ∈ source.project.configurations)
    (bucket : (platform, values) ∈ (source.defines configuration).value.toList) :
    Forms source (.command "set_property" (["TARGET", source.target, "APPEND", "PROPERTY",
      "COMPILE_DEFINITIONS_" ++ configurationIdentifier configuration.buildType] ++ values))
  | extraHeaders {configuration : Configuration} {platform : String} {dirs extra : List String}
    (among : configuration ∈ source.project.configurations)
    (bucket : (platform, dirs) ∈ (source.includeDirs configuration).value.toList)
    (within : extra ⊆ dirs) :
    Forms source (.command "set_property" (["TARGET", source.target, "APPEND", "PROPERTY",
      "INCLUDE_DIRECTORIES"] ++
        extra.map (onlyIn (configurationIdentifier configuration.buildType))))
  | compilerFlags {configuration : Configuration}
    (among : configuration ∈ source.project.configurations) :
    Forms source (.command "set_property" (["TARGET", source.target, "APPEND", "PROPERTY",
      "COMPILE_OPTIONS"] ++ (source.compilerFlags configuration).map
        (onlyIn (configurationIdentifier configuration.buildType))))
  | linkerFlags {configuration : Configuration}
    (among : configuration ∈ source.project.configurations) :
    Forms source (.command "set_property" ["TARGET", source.target, "APPEND_STRING", "PROPERTY",
      "LINK_FLAGS_" ++ configurationIdentifier configuration.buildType,
      " " ++ " ".intercalate (source.linkerFlags configuration)])

variable {source : Source} {instructions : List Instruction}

section Parts

/-- Commands for platforms have the known forms if a table names the platforms. -/
theorem forms_byPlatform {tokens : PlatformTokens} {table : Table}
    {body : String → List String → List Instruction}
    (among : table ∈ [source.tables.includeDirs, source.tables.dependencies,
      source.tables.libraryDirs, source.tables.defines])
    (named : ∀ platform list, (platform, list) ∈ tokens.toList →
      platform = everyPlatform ∨ table.Names platform)
    (parts : ∀ platform list, (platform, list) ∈ tokens.toList →
      ∀ instruction ∈ body platform list, Forms source instruction) :
    ∀ instruction ∈ byPlatform tokens body, Forms source instruction := by
  refine forall_mem_byPlatform ?_ parts .closeIf
  intro platform list bucket text conditioned
  unfold platformCondition at conditioned
  split at conditioned
  · exact nomatch conditioned
  · next apart =>
    obtain rfl := Option.mem_some.mp conditioned
    exact .ofPlatform ⟨table, among, (named _ _ bucket).resolve_left apart⟩

theorem forms_directorySettings (source : Source) :
    ∀ instruction ∈ source.directorySettings.value, Forms source instruction := by
  unfold directorySettings
  split
  · simp
  · next configuration authoritative =>
    have library : ∀ instruction ∈ mfcFlag configuration.mfc, Forms source instruction := by
      cases configuration.mfc with
      | notUsed => simp [mfcFlag]
      | static => simpa [mfcFlag] using .library "1"
      | dynamic => simpa [mfcFlag] using .library "2"
    simp only [Reported.value_bind, Reported.value_pure, List.forall_mem_append,
      List.forall_mem_singleton]
    refine ⟨⟨⟨library, ?_⟩, ?_⟩, .blank⟩
    · exact forms_byPlatform (by simp) (fun _ _ => platform_of_place)
        fun _ _ bucket => forall_mem_listed (.headers bucket)
    · exact forms_byPlatform (by simp) (fun _ _ => platform_of_place)
        fun _ _ bucket => forall_mem_listed (.libraryDirs bucket)

theorem forms_sources (source : Source) :
    ∀ instruction ∈ source.sources.value, Forms source instruction := by
  have group : ∀ place, ∀ instruction ∈ (source.groupSources place).value,
      Forms source instruction := by
    intro place
    rw [value_groupSources]
    dsimp only
    split
    · simp
    · simp only [List.forall_mem_append, List.forall_mem_singleton]
      refine ⟨⟨forall_mem_listed (.sources place), ?_⟩, .gathered _⟩
      split
      · simp
      · simpa using .group _
  rw [value_sources]
  simp only [List.forall_mem_append, List.forall_mem_cons]
  exact ⟨List.forall_mem_flatMap.mpr fun place _ => group place, .hook _, .blank, by simp⟩

theorem forms_targetSection (source : Source) :
    ∀ instruction ∈ source.targetSection.value, Forms source instruction := by
  have kinds : ∀ {kind command}, creation? source.target kind = some command →
      Forms source command := by
    intro kind command creates
    cases kind with
    | application => exact Option.some.inj creates ▸ .creation (.inl rfl) _
    | dynamicLibrary | staticLibrary => exact Option.some.inj creates ▸ .creation (.inr rfl) _
    | unknown => exact nomatch creates
  have creation : ∀ instruction ∈ source.creation.value.toList, Forms source instruction := by
    intro instruction listed
    have creates := Option.mem_toList.mp listed
    unfold Source.creation at creates
    split at creates
    · exact kinds creates
    · exact nomatch creates
  have libraries : ∀ instruction ∈ source.linkLibraries.value, Forms source instruction := by
    unfold linkLibraries
    split
    · simp
    · simp only [Reported.value_bind, Reported.value_pure]
      exact forms_byPlatform (by simp) (fun _ _ => platform_of_place)
        fun _ _ bucket => forall_mem_listed (.linked bucket)
  have bindings : ∀ instruction ∈ source.bindings, Forms source instruction := by
    unfold Source.bindings
    dsimp only
    split
    · refine List.forall_mem_flatMap.mpr fun (property, value) _ => ?_
      refine List.forall_mem_map.mpr fun value _ => .binding _ _
    · simp
  rw [value_targetSection, behindCreation]
  refine List.forall_mem_append.mpr ⟨creation, ?_⟩
  split
  · simp only [List.forall_mem_append, List.forall_mem_singleton]
    exact ⟨⟨libraries, bindings⟩, .blank⟩
  · simpa using .blank

theorem forms_configurationBlock {configuration : Configuration} (ofDirectory : PlatformTokens)
    (among : configuration ∈ source.project.configurations) :
    ∀ instruction ∈ (source.configurationBlock ofDirectory configuration).value,
      Forms source instruction := by
  let identifier := configurationIdentifier configuration.buildType
  have definitions : ∀ instruction ∈ byPlatform (source.defines configuration).value
      (fun _ values =>
        appendProperty source.target ("COMPILE_DEFINITIONS_" ++ identifier) values),
      Forms source instruction :=
    forms_byPlatform (by simp) (fun _ _ => platform_of_defines)
      fun _ _ bucket => forall_mem_listed (.definitions among bucket)
  have includes : ∀ instruction ∈ source.extraIncludes identifier ofDirectory
      (source.includeDirs configuration).value, Forms source instruction :=
    forms_byPlatform (by simp) (fun _ _ => platform_of_place)
      fun _ _ bucket => forall_mem_listed (.extraHeaders among bucket (List.filter_subset_self _))
  have flags : ∀ instruction ∈ source.flagSection identifier (source.compilerFlags configuration)
      (source.linkerFlags configuration), Forms source instruction := by
    unfold flagSection
    split
    · simp
    · refine forall_mem_under (by simpa using .ofCompiler)
        (List.forall_mem_append.mpr ⟨?_, ?_⟩) .closeIf
      · exact forall_mem_listed (.compilerFlags among)
      · split
        · simp
        · simpa using .linkerFlags among
  have settings := List.forall_mem_append.mpr
    ⟨List.forall_mem_append.mpr ⟨definitions, includes⟩, flags⟩
  have guarded := forall_mem_under (fun text given => Option.mem_some.mp given ▸ .ofTarget)
    settings .closeIf
  refine List.forall_mem_append.mpr ⟨List.forall_mem_append.mpr ⟨?_, ?_⟩, ?_⟩
  · simpa using .heading configuration
  · exact forall_mem_under (fun _ condition => .ofConfiguration condition) guarded .closeIf
  · simpa using .blank

/-- Each instruction of a body has one of the known forms. -/
theorem forms_body (source : Source) :
    ∀ instruction ∈ source.body.value, Forms source instruction := by
  have hooks : ∀ place, ∀ instruction ∈ [hook place, .blank], Forms source instruction := by
    simpa using fun place => ⟨.hook place, .blank⟩
  have blocks : ∀ instruction ∈ source.configurationBlocks, Forms source instruction :=
    List.forall_mem_flatMap.mpr fun _ among => forms_configurationBlock _ among
  have parts : source.body.value = source.directorySettings.value ++ source.sources.value ++
      [hook .postDefinitions, .blank] ++ source.targetSection.value ++
      source.configurationBlocks ++ [hook .postTarget] := by
    simp [body, configurationBlocks, List.flatMap]
  simp only [parts, List.forall_mem_append, List.forall_mem_singleton]
  exact ⟨⟨⟨⟨⟨source.forms_directorySettings, source.forms_sources⟩, hooks _⟩,
    source.forms_targetSection⟩, blocks⟩, .hook _⟩

end Parts

end Source

end ProjectScribe.Script
