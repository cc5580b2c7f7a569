import Mathlib.Data.List.Perm.Basic
import ProjectScribe.Proofs.Reading.ItemFiles
import ProjectScribe.Proofs.Reading.SettingGroups

/-!
# How often an unknown setting is reported

A setting that the newer format does not have is reported when it is read. Global properties are
read once, but all other settings once for each configuration that their group applies to. So an
unknown global property is reported once, and any other unknown setting as often as configurations
are selected: not at all if there are none, and several times if there are several.
-/
namespace ProjectScribe.Reading

/-- The notes about what a format does not have. -/
def unknowns (notes : List Note) : List Note := notes.filter (·.isUnknown)

section Unknowns

@[simp] theorem unknowns_nil : unknowns [] = [] := rfl

@[simp] theorem unknowns_append (first second : List Note) :
    unknowns (first ++ second) = unknowns first ++ unknowns second :=
  List.filter_append ..

theorem unknowns_flatMap {α : Type} (list : List α) (notes : α → List Note) :
    unknowns (list.flatMap notes) = list.flatMap fun a => unknowns (notes a) :=
  List.filter_flatMap ..

/-- Where each step reports the same in every state, a list reports what its elements do. -/
theorem unknowns_fold {α β : Type} {step : β → α → Reading β} {reports : α → List Note}
    (each : ∀ state a, unknowns (step state a).notes = reports a) (state : β) (list : List α) :
    unknowns (Reported.fold step state list).notes = list.flatMap reports :=
  Reported.seen_fold unknowns unknowns_nil unknowns_append (fun state a _ => each state a) state

/-- A value that an option cannot have is nothing that the format does not have. -/
@[simp] theorem unknowns_decode {α : Type} (choice : Choice α) (raw : String) :
    unknowns (choice.decode raw).notes = [] := by
  rw [Choice.decode]
  split
  · rfl
  · split <;> rfl

@[simp] theorem unknowns_debugRuntime (raw : String) : unknowns (debugRuntime raw).notes = [] := by
  simp [debugRuntime]

end Unknowns

namespace ElementFormat

open Xml (Attribute Element)

/-- Where a setting stands: directly in a group of properties of one kind, directly in a group of
definitions, or in the definition of a tool. -/
inductive Place where
  | globals
  | configuration
  | general
  | tools
  | compiler
  | linker (tool : String)
deriving DecidableEq, Repr

namespace Place

/-- The name under which settings at a place are reported. -/
def owner : Place → String
  | globals => "PropertyGroup Globals"
  | configuration => "PropertyGroup Configuration"
  | general => "PropertyGroup"
  | tools => "ItemDefinitionGroup"
  | compiler => "ClCompile"
  | linker tool => tool

/-- The settings that are known at a place: those that are read, and those that scripts do
without. -/
def known : Place → List String
  | globals =>
    ["ProjectName", "ProjectGuid", "RootNamespace", "Keyword", "SccProjectName", "SccLocalPath",
      "SccProvider", "SccAuxPath"] ++ ignoredGlobals
  | configuration =>
    ["ConfigurationType", "UseDebugLibraries", "CharacterSet", "UseOfMfc", "UseOfAtl",
      "WholeProgramOptimization"] ++ ignoredConfigurationProperties
  | general => "LinkIncremental" :: ignoredGeneralProperties
  | tools => ["ClCompile", "Link", "Lib"] ++ ignoredTools
  | compiler =>
    ["RuntimeLibrary", "AdditionalIncludeDirectories", "PreprocessorDefinitions",
      "RuntimeTypeInfo", "ExceptionHandling", "Optimization", "WarningLevel",
      "TreatWarningAsError", "PrecompiledHeader", "PrecompiledHeaderFile",
      "PrecompiledHeaderOutputFile", "DisableSpecificWarnings", "AdditionalOptions"] ++
      ignoredCompilerElements
  | linker _ =>
    ["AdditionalDependencies", "AdditionalLibraryDirectories", "ModuleDefinitionFile",
      "ProgramDatabaseFile", "OptimizeReferences", "AdditionalOptions"] ++ ignoredLinkerElements

/-- The report of a setting that is not known at a place. -/
def report (place : Place) (setting : Element) : Note :=
  .unknownElement .vcxproj place.owner setting.name

/-- What is reported of a setting at a place when it is read. -/
def reports (place : Place) (setting : Element) : List Note :=
  if setting.name ∈ place.known then [] else [place.report setting]

end Place

section Settings

variable (configuration : Configuration) (element : Element)

@[simp] theorem unknowns_noteUnlessKnown (known : List String) (owner name : String) :
    unknowns (noteUnlessKnown known owner name).notes =
      if name ∈ known then [] else [.unknownElement .vcxproj owner name] := by
  rw [noteUnlessKnown, Reported.notes_noteIf]
  by_cases isKnown : name ∈ known
  · simp [isKnown]
  · simp [isKnown, unknowns, Note.isUnknown]

theorem unknowns_readGlobal (project : Project) :
    unknowns (readGlobal project element).notes = Place.globals.reports element := by
  rw [readGlobal, Place.reports, Place.report]
  split <;> simp_all [Place.known, Place.owner]

theorem unknowns_readConfigurationProperty :
    unknowns (readConfigurationProperty configuration element).notes =
      Place.configuration.reports element := by
  rw [readConfigurationProperty, Place.reports, Place.report]
  split <;> simp_all [Place.known, Place.owner]

/-- A change to a linker reports the same whether the configuration had a linker before or not. -/
theorem unknowns_updateLinker {change : LinkerSettings → Reading LinkerSettings}
    {reports : List Note} (each : ∀ linker, unknowns (change linker).notes = reports) :
    unknowns (updateLinker configuration change).notes = reports := by
  rw [updateLinker]
  split <;> simp [each]

theorem unknowns_updateCompiler {change : CompilerSettings → Reading CompilerSettings}
    {reports : List Note} (each : ∀ compiler, unknowns (change compiler).notes = reports) :
    unknowns (updateCompiler configuration change).notes = reports := by
  rw [updateCompiler]
  split <;> simp [each]

theorem unknowns_readGeneralProperty :
    unknowns (readGeneralProperty configuration element).notes =
      Place.general.reports element := by
  rw [readGeneralProperty, Place.reports, Place.report]
  split
  · next incremental =>
    rw [if_pos (by simp [Place.known, incremental])]
    exact unknowns_updateLinker configuration fun _ => rfl
  · next other => simp [Place.known, Place.owner, other]

theorem unknowns_readCompilerSetting :
    unknowns (readCompilerSetting configuration element).notes =
      Place.compiler.reports element := by
  rw [readCompilerSetting]
  split
  · next isLibrary => simp [Place.reports, Place.known, isLibrary]
  · next other =>
    refine unknowns_updateCompiler configuration fun compiler => ?_
    unfold readCompilerElement Place.reports Place.report
    split <;> simp_all [Place.known, Place.owner]

theorem unknowns_readLinkerElement (tool : String) :
    unknowns (updateLinker configuration
      (readLinkerElement tool element.name (textOf element))).notes =
        (Place.linker tool).reports element := by
  refine unknowns_updateLinker configuration fun linker => ?_
  unfold readLinkerElement Place.reports Place.report
  split <;> simp_all [Place.known, Place.owner]

end Settings

section Groups

/-- The place of what stands in the definition of a tool, if its settings are read. -/
def toolPlace? (tool : Element) : Option Place :=
  if tool.name = "ClCompile" then some .compiler
  else if tool.name = "Link" ∨ tool.name = "Lib" then some (.linker tool.name)
  else none

/-- The place of what stands directly in a group, if it is a group whose settings are read. -/
def groupPlace? (group : Element) : Option Place :=
  if group.name = "PropertyGroup" then
    if group.value? "Label" = some "Globals" then some .globals
    else if group.value? "Label" = some "Configuration" then some .configuration
    else if group.value? "Label" = some "UserMacros" then none
    else some .general
  else if group.name = "ItemDefinitionGroup" then some .tools
  else none

/-- What is reported of a part of a group at a place when it is read, with what stands in it if it
is the definition of a tool whose settings are read. -/
def reportsOn (place : Place) (part : Element) : List Note :=
  if place = .tools then
    match toolPlace? part with
    | some inner => part.children.flatMap inner.reports
    | none => place.reports part
  else place.reports part

/-- How often the settings of a group are read: once if they are global, and else once for each
configuration to which the group applies. -/
def timesRead (group : Element) (configurations : List Configuration) : Nat :=
  if groupPlace? group = some .globals then 1 else configurations.countP (applies group)

theorem unknowns_readToolDefinition (configuration : Configuration) (tool : Element) :
    unknowns (readToolDefinition configuration tool).notes = reportsOn .tools tool := by
  rw [readToolDefinition, reportsOn, if_pos rfl, toolPlace?]
  split
  · exact unknowns_fold unknowns_readCompilerSetting configuration tool.children
  · next notCompiler =>
    split
    · exact unknowns_fold (fun configuration element =>
        unknowns_readLinkerElement configuration element tool.name) configuration tool.children
    · next notLinker => simp_all [Place.reports, Place.report, Place.known, Place.owner]

/-- A step for the selected configurations reports what it does once for each of them. -/
theorem unknowns_forSelected {group : Element} {step : Configuration → Reading Configuration}
    {reports : List Note} (each : ∀ configuration, unknowns (step configuration).notes = reports)
    (project : Project) :
    unknowns (forSelected (group.value? "Condition") step project).notes =
      (List.replicate (project.configurations.countP (applies group)) reports).flatten := by
  have conditions : unknowns (selected (group.value? "Condition") project.configurations).notes =
      [] := by
    unfold selected
    split
    · rfl
    · split
      · rfl
      · rw [Reported.notes_bind, Reported.notes_noteIf]
        split <;> rfl
  have steps : ∀ configurations : List Configuration,
      (configurations.flatMap fun configuration => unknowns
        (if applies group configuration then step configuration else pure configuration).notes) =
      (List.replicate (configurations.countP (applies group)) reports).flatten := by
    intro configurations
    induction configurations with
    | nil => rfl
    | cons configuration rest inductionHypothesis =>
      rw [List.flatMap_cons, inductionHypothesis, List.countP_cons]
      by_cases here : applies group configuration = true
      · simp [here, each, List.replicate_succ]
      · simp [here]
  rw [← steps, forSelected, Reported.notes_bind, unknowns_append, conditions, List.nil_append]
  simp only [Reported.notes_bind, Reported.notes_forEach, Reported.notes_pure, List.append_nil,
    unknowns_flatMap, value_selected _ project.configurations]
  rfl

/-- A group of settings reports what its parts do as often as it is read. -/
theorem unknowns_readGroup {group : Element} {place : Place}
    (isPlace : groupPlace? group = some place) (state : Project × List Item) :
    unknowns (readProjectPart state group).notes =
      (List.replicate (timesRead group state.1.configurations)
        (group.children.flatMap (reportsOn place))).flatten := by
  obtain ⟨project, known⟩ := state
  have simple : place ≠ .tools → reportsOn place = place.reports := by
    intro other
    funext part
    rw [reportsOn, if_neg other]
  have selective : place ≠ .globals →
      timesRead group project.configurations = project.configurations.countP (applies group) := by
    intro other
    rw [timesRead, if_neg (by simpa [isPlace] using other)]
  unfold readProjectPart
  dsimp only
  rw [groupPlace?] at isPlace
  split at isPlace
  · next isProperties =>
    rw [if_neg (by simp [isProperties]), if_pos isProperties]
    split at isPlace
    · next isGlobals =>
      cases isPlace
      have once : timesRead group project.configurations = 1 := by
        simp [timesRead, groupPlace?, isProperties, isGlobals]
      rw [if_pos isGlobals, once, simple (by decide), List.replicate_one, List.flatten_singleton,
        Reported.notes_bind, Reported.notes_pure, List.append_nil]
      exact unknowns_fold (fun project element => unknowns_readGlobal element project) project
        group.children
    · next notGlobals =>
      rw [if_neg notGlobals]
      split at isPlace
      · next isConfiguration =>
        cases isPlace
        rw [if_pos isConfiguration, selective (by decide), simple (by decide),
          Reported.notes_bind, Reported.notes_pure, List.append_nil]
        exact unknowns_forSelected (fun configuration =>
          unknowns_fold unknowns_readConfigurationProperty configuration group.children) project
      · next notConfiguration =>
        rw [if_neg notConfiguration]
        split at isPlace
        · cases isPlace
        · next notMacros =>
          cases isPlace
          rw [if_neg notMacros, selective (by decide), simple (by decide),
            Reported.notes_bind, Reported.notes_pure, List.append_nil]
          exact unknowns_forSelected (fun configuration =>
            unknowns_fold unknowns_readGeneralProperty configuration group.children) project
  · next notProperties =>
    split at isPlace
    · next isDefinitions =>
      cases isPlace
      rw [if_neg (by simp [isDefinitions]), if_neg notProperties, if_pos isDefinitions,
        selective (by decide), Reported.notes_bind, Reported.notes_pure, List.append_nil]
      exact unknowns_forSelected (fun configuration =>
        unknowns_fold unknowns_readToolDefinition configuration group.children) project
    · cases isPlace

/-- How often a group is read depends on the labels of the configurations only. -/
theorem timesRead_congr (group : Element) {first second : List Configuration}
    (same : first.map labelOf = second.map labelOf) :
    timesRead group first = timesRead group second := by
  have byLabel : ∀ configurations : List Configuration,
      configurations.countP (applies group) = (configurations.map labelOf).countP fun label =>
        applies group { buildType := label.1, platform := label.2 } := by
    intro configurations
    rw [List.countP_map]
    refine List.countP_congr fun configuration _ => ?_
    have bare : applies group configuration = applies group
        { buildType := configuration.buildType, platform := configuration.platform } :=
      applies_congr rfl
    rw [bare]
    rfl
  rw [timesRead, timesRead, byLabel, byLabel, same]

/-- What an element of a project file reports depends on the labels of the configurations only. -/
theorem unknowns_readProjectPart_congr {first second : Project × List Item}
    (same : first.1.configurations.map labelOf = second.1.configurations.map labelOf)
    (part : Element) :
    unknowns (readProjectPart first part).notes = unknowns (readProjectPart second part).notes := by
  cases isPlace : groupPlace? part with
  | some place =>
    rw [unknowns_readGroup isPlace, unknowns_readGroup isPlace, timesRead_congr part same]
  | none =>
    -- What is left are declarations, items and elements that are passed over.
    obtain ⟨project, known⟩ := first
    obtain ⟨other, others⟩ := second
    have declared : ∀ (project : Project) (element : Element),
        unknowns (addDeclaration project element).notes =
          unknowns (addDeclaration {} element).notes := by
      intro project element
      rw [addDeclaration, addDeclaration]
      split <;> rfl
    rw [groupPlace?] at isPlace
    unfold readProjectPart
    dsimp only
    split
    · split
      · simp only [Reported.notes_bind, Reported.notes_pure, List.append_nil,
          unknowns_fold declared]
      · rfl
    · split
      · next isProperties =>
        rw [if_pos isProperties] at isPlace
        split at isPlace
        · cases isPlace
        · next notGlobals =>
          split at isPlace
          · cases isPlace
          · next notConfiguration =>
            split at isPlace
            · next isMacros => simp [isMacros]
            · cases isPlace
      · next notProperties =>
        rw [if_neg notProperties] at isPlace
        split
        · next isDefinitions => simp [isDefinitions] at isPlace
        · rfl

/-- What elements of a project file report depends on the labels of the configurations only. -/
theorem unknowns_readProjectParts_congr {first second : Project × List Item}
    (same : first.1.configurations.map labelOf = second.1.configurations.map labelOf)
    (parts : List Element) :
    unknowns (Reported.fold readProjectPart first parts).notes =
      unknowns (Reported.fold readProjectPart second parts).notes := by
  induction parts generalizing first second with
  | nil => rfl
  | cons part rest inductionHypothesis =>
    have next : (readProjectPart first part).value.1.configurations.map labelOf =
        (readProjectPart second part).value.1.configurations.map labelOf := by
      have kept : labelOf ∘ settled part = labelOf := funext (labelOf_settled part)
      simp only [configurations_readProjectPart, List.map_append, List.map_map, kept, same]
    rw [Reported.fold, Reported.fold, Reported.notes_bind, Reported.notes_bind, unknowns_append,
      unknowns_append, unknowns_readProjectPart_congr same, inductionHypothesis next]

end Groups

section Occurrences

/-- A setting stands at a place in a group, which is given with the setting and without it. -/
inductive StandsIn (setting : Element) : Place → Element → Element → Prop where
  | directly {place : Place} {name text : String} {attributes : List Attribute}
      {before behind : List Element}
      (isPlace : groupPlace? (.mk name attributes text (before ++ setting :: behind)) =
        some place) :
      StandsIn setting place (.mk name attributes text (before ++ setting :: behind))
        (.mk name attributes text (before ++ behind))
  | inTool {place : Place} {text : String} {attributes : List Attribute}
      {before behind : List Element} {toolName toolText : String}
      {toolAttributes : List Attribute} {inner others : List Element}
      (isPlace : toolPlace? (.mk toolName toolAttributes toolText (inner ++ setting :: others)) =
        some place) :
      StandsIn setting place
        (.mk "ItemDefinitionGroup" attributes text
          (before ++ .mk toolName toolAttributes toolText (inner ++ setting :: others) :: behind))
        (.mk "ItemDefinitionGroup" attributes text
          (before ++ .mk toolName toolAttributes toolText (inner ++ others) :: behind))

variable {setting group rest : Element} {place : Place}

/-- One more report in every reading of a group is made as often as the group is read. -/
theorem flatten_replicate_perm (times : Nat) (before behind : List Note) (report : Note) :
    ((List.replicate times (before ++ report :: behind)).flatten).Perm
      (List.replicate times report ++ (List.replicate times (before ++ behind)).flatten) := by
  induction times with
  | zero => exact .refl _
  | succ times inductionHypothesis =>
    simp only [List.replicate_succ, List.flatten_cons, List.cons_append]
    have first : (before ++ report :: behind).Perm (report :: (before ++ behind)) :=
      List.perm_middle
    refine (first.append inductionHypothesis).trans ?_
    rw [List.cons_append]
    exact .cons report (List.perm_append_comm_assoc _ _ _)

/-- What stands in a group as a part of its own, if it is not known there, is reported once in each
reading. -/
theorem reportsOn_of_unknown (unknown : setting.name ∉ place.known) :
    reportsOn place setting = [place.report setting] := by
  have alone : place.reports setting = [place.report setting] := if_neg unknown
  rw [reportsOn]
  split
  · next isTools =>
    subst isTools
    have noTool : toolPlace? setting = none := by
      simp only [Place.known, List.mem_append, List.mem_cons, not_or] at unknown
      simp [toolPlace?, unknown]
    rw [noTool]
    exact alone
  · exact alone

namespace StandsIn

/-- A group is of the same kind without a setting in it, and is read as often. -/
theorem same (stands : StandsIn setting place group rest) :
    group.name = rest.name ∧ groupPlace? group = groupPlace? rest ∧
      ∀ configurations, timesRead group configurations = timesRead rest configurations := by
  cases stands with
  | directly isPlace => exact ⟨rfl, rfl, fun _ => rfl⟩
  | inTool isPlace => exact ⟨rfl, rfl, fun _ => rfl⟩

/-- The group in which an unknown setting stands reports it once in each reading, besides what it
reports without it. -/
theorem reports (stands : StandsIn setting place group rest)
    (unknown : setting.name ∉ place.known) :
    ∃ outer before behind, groupPlace? group = some outer ∧
      (outer = .globals ↔ place = .globals) ∧
      group.children.flatMap (reportsOn outer) = before ++ place.report setting :: behind ∧
      rest.children.flatMap (reportsOn outer) = before ++ behind := by
  cases stands with
  | @directly _ _ _ before behind isPlace =>
    refine ⟨place, before.flatMap (reportsOn place), behind.flatMap (reportsOn place), isPlace,
      Iff.rfl, ?_, ?_⟩
    · simp only [Element.children, List.flatMap_append, List.flatMap_cons,
        reportsOn_of_unknown unknown, List.singleton_append]
    · exact List.flatMap_append
  | @inTool text attributes before behind toolName toolText toolAttributes inner others isPlace =>
    have isPlaceRest : toolPlace? (.mk toolName toolAttributes toolText (inner ++ others)) =
        some place := isPlace
    have alone : place.reports setting = [place.report setting] := if_neg unknown
    have notGlobals : place ≠ .globals := by
      rintro rfl
      rw [toolPlace?] at isPlace
      split at isPlace
      · cases isPlace
      · split at isPlace <;> cases isPlace
    refine ⟨.tools, before.flatMap (reportsOn .tools) ++ inner.flatMap place.reports,
      others.flatMap place.reports ++ behind.flatMap (reportsOn .tools), rfl,
      by simp [notGlobals], ?_, ?_⟩
    · have tool : reportsOn .tools (.mk toolName toolAttributes toolText
          (inner ++ setting :: others)) =
          inner.flatMap place.reports ++ place.report setting :: others.flatMap place.reports := by
        rw [reportsOn, if_pos rfl, isPlace]
        simp only [Element.children, List.flatMap_append, List.flatMap_cons, alone,
          List.singleton_append]
      simp only [Element.children, List.flatMap_append, List.flatMap_cons, tool,
        List.append_assoc, List.cons_append]
    · have tool : reportsOn .tools (.mk toolName toolAttributes toolText (inner ++ others)) =
          inner.flatMap place.reports ++ others.flatMap place.reports := by
        rw [reportsOn, if_pos rfl, isPlaceRest]
        exact List.flatMap_append
      simp only [Element.children, List.flatMap_append, List.flatMap_cons, tool,
        List.append_assoc]

/-- A group of settings declares nothing and states no items. -/
theorem isGroup (stands : StandsIn setting place group rest) : group.name ≠ "ItemGroup" := by
  cases stands with
  | directly isPlace =>
    intro isItems
    simp [groupPlace?, isItems] at isPlace
  | inTool isPlace => exact fun isItems => absurd isItems (by simp [Element.name])

end StandsIn

/-- The reports on a project file are those on its elements, and those on the items that its
elements and its companion state. -/
theorem unknowns_readProjects (attributes : List Attribute) (text : String)
    (parts : List Element) (companion : Option Element) (fallback : String) :
    unknowns (readProjects (.mk "Project" attributes text parts) companion fallback).notes =
      unknowns (Reported.fold readProjectPart ({ dialect := some .vcxproj }, []) parts).notes ++
        (unknowns (readCompanion (primaryItems parts) companion).notes ++
          unknowns (treeOfItems (mergedItems parts companion)).notes) := by
  have isProject : projectElement? (.mk "Project" attributes text parts) =
      some (.mk "Project" attributes text parts) := if_pos rfl
  have known := items_readProjectParts ({ dialect := some .vcxproj }, []) parts
  rw [List.nil_append] at known
  rw [readProjects, isProject, mergedItems, ← known]
  simp only [Element.children, finish, Reported.notes_bind, Reported.notes_pure,
    List.append_nil, unknowns_append]

/-- A group of settings adds nothing to the items. -/
theorem primaryItems_group (isGroup : group.name ≠ "ItemGroup") (before behind : List Element) :
    primaryItems (before ++ group :: behind) = primaryItems (before ++ behind) := by
  rw [primaryItems, primaryItems, List.filter_append, List.filter_append,
    List.filter_cons_of_neg (by simp [isGroup])]

/-- A group of settings is read with the configurations that the elements before it declare, and
declares none itself. -/
theorem unknowns_readProjectParts_group (isGroup : group.name ≠ "ItemGroup")
    (isPlace : groupPlace? group = some place) (before behind : List Element) :
    unknowns (Reported.fold readProjectPart ({ dialect := some .vcxproj }, [])
      (before ++ group :: behind)).notes =
      unknowns (Reported.fold readProjectPart ({ dialect := some .vcxproj }, []) before).notes ++
        ((List.replicate (timesRead group (configurationsFrom before))
            (group.children.flatMap (reportsOn place))).flatten ++
          unknowns (Reported.fold readProjectPart
            (Reported.fold readProjectPart ({ dialect := some .vcxproj }, []) before).value
            behind).notes) := by
  have declared := configurations_readProjectParts ({ dialect := some .vcxproj }, []) before
  rw [List.map_nil, List.nil_append] at declared
  have labels : (readProjectPart (Reported.fold readProjectPart
      ({ dialect := some .vcxproj }, []) before).value group).value.1.configurations.map labelOf =
      (Reported.fold readProjectPart
        ({ dialect := some .vcxproj }, []) before).value.1.configurations.map labelOf := by
    have undeclared : declarations group = [] := if_neg fun declares => isGroup declares.1
    have kept : labelOf ∘ settled group = labelOf := funext (labelOf_settled group)
    rw [configurations_readProjectPart, undeclared, List.append_nil, List.map_map, kept]
  rw [Reported.fold_append, Reported.notes_bind, unknowns_append, Reported.fold,
    Reported.notes_bind, unknowns_append, unknowns_readGroup isPlace, declared,
    unknowns_readProjectParts_congr labels]

/-- The notes about what the format does not have, in the reading of a document. -/
def unknownsOf (document : Element) (companion : Option Element) (fallback : String) : List Note :=
  unknowns (readProjects document companion fallback).notes

/-- An unknown setting is reported as often as its group is read, besides what is reported
without it. -/
theorem unknownsOf_perm (attributes : List Attribute) (text : String)
    (before behind : List Element) (companion : Option Element) (fallback : String)
    (stands : StandsIn setting place group rest) (unknown : setting.name ∉ place.known) :
    (unknownsOf (.mk "Project" attributes text (before ++ group :: behind)) companion
        fallback).Perm
      (List.replicate (timesRead group (configurationsFrom before)) (place.report setting) ++
        unknownsOf (.mk "Project" attributes text (before ++ rest :: behind)) companion
          fallback) := by
  obtain ⟨outer, first, last, isPlace, -, withSetting, withoutSetting⟩ := stands.reports unknown
  obtain ⟨named, kind, asOften⟩ := stands.same
  have isGroup : group.name ≠ "ItemGroup" := stands.isGroup
  have isRest : rest.name ≠ "ItemGroup" := named ▸ isGroup
  have isRestPlace : groupPlace? rest = some outer := kind ▸ isPlace
  have items : primaryItems (before ++ group :: behind) =
      primaryItems (before ++ rest :: behind) := by
    rw [primaryItems_group isGroup, primaryItems_group isRest]
  have merged : mergedItems (before ++ group :: behind) companion =
      mergedItems (before ++ rest :: behind) companion := by rw [mergedItems, mergedItems, items]
  rw [unknownsOf, unknownsOf, unknowns_readProjects, unknowns_readProjects, items, merged,
    unknowns_readProjectParts_group isGroup isPlace,
    unknowns_readProjectParts_group isRest isRestPlace, withSetting, withoutSetting, ← asOften]
  simp only [List.append_assoc]
  have here := flatten_replicate_perm (timesRead group (configurationsFrom before)) first last
    (place.report setting)
  refine ((here.append_right _).append_left _).trans ?_
  rw [List.append_assoc]
  exact List.perm_append_comm_assoc _ _ _

/-- The group in which an unknown setting stands is read just once if the setting is global or the
group applies to just one configuration. -/
theorem timesRead_eq_one_iff (stands : StandsIn setting place group rest)
    (unknown : setting.name ∉ place.known) (configurations : List Configuration) :
    timesRead group configurations = 1 ↔
      place = .globals ∨ configurations.countP (applies group) = 1 := by
  obtain ⟨outer, -, -, isPlace, isGlobals, -, -⟩ := stands.reports unknown
  simp only [timesRead, isPlace, Option.some_inj, isGlobals]
  split <;> simp [*]

/-- An unknown setting in a project file is reported as often as its group is read, besides what
is reported without it. So it is reported exactly once if and only if it is a global property or
its group applies to exactly one of the configurations declared before it. -/
theorem unknown_setting_reported (attributes : List Attribute) (text : String)
    (before behind : List Element) (companion : Option Element) (fallback : String)
    (stands : StandsIn setting place group rest) (unknown : setting.name ∉ place.known) :
    (unknownsOf (.mk "Project" attributes text (before ++ group :: behind)) companion
        fallback).Perm
      (List.replicate (timesRead group (configurationsFrom before)) (place.report setting) ++
        unknownsOf (.mk "Project" attributes text (before ++ rest :: behind)) companion
          fallback) ∧
    ((unknownsOf (.mk "Project" attributes text (before ++ group :: behind)) companion
        fallback).Perm
      (place.report setting ::
        unknownsOf (.mk "Project" attributes text (before ++ rest :: behind)) companion
          fallback) ↔
      place = .globals ∨ (configurationsFrom before).countP (applies group) = 1) := by
  have reported := unknownsOf_perm attributes text before behind companion fallback stands unknown
  refine ⟨reported, ?_⟩
  rw [← timesRead_eq_one_iff stands unknown]
  constructor
  · intro single
    have lengths := (reported.symm.trans single).length_eq
    simp only [List.length_append, List.length_replicate, List.length_cons] at lengths
    omega
  · intro single
    rw [single] at reported
    exact reported

/-- The declarations of two build types. -/
def twoBuildTypes : Element :=
  .mk "ItemGroup" [⟨"Label", "ProjectConfigurations"⟩] ""
    [.mk "ProjectConfiguration" [⟨"Include", "Debug|x64"⟩] "" [],
      .mk "ProjectConfiguration" [⟨"Include", "Release|x64"⟩] "" []]

/-- A compiler setting that the format does not have. -/
def unheardOf : Element := .mk "Colour" [] "Red" []

/-- Definitions for compilers, under conditions if there are any. -/
def compilerGroup (conditions : List Attribute) (settings : List Element) : Element :=
  .mk "ItemDefinitionGroup" conditions "" [.mk "ClCompile" [] "" settings]

/-- A condition that holds for one of two build types. -/
def inRelease : List Attribute := [⟨"Condition", "'$(Configuration)|$(Platform)'=='Release|x64'"⟩]

/-- An unknown setting under a condition that selects one configuration is reported once. -/
theorem unknown_setting_reported_inRelease :
    StandsIn unheardOf .compiler (compilerGroup inRelease [unheardOf])
        (compilerGroup inRelease []) ∧
      unheardOf.name ∉ Place.compiler.known ∧
      (unknownsOf (.mk "Project" [] "" [twoBuildTypes, compilerGroup inRelease [unheardOf]]) none
        "p").Perm
        [.unknownElement .vcxproj "ClCompile" "Colour"] := by
  have stands : StandsIn unheardOf .compiler (compilerGroup inRelease [unheardOf])
      (compilerGroup inRelease []) :=
    @StandsIn.inTool _ _ "" inRelease [] [] "ClCompile" "" [] [] [] (by decide)
  have unknown : unheardOf.name ∉ Place.compiler.known := by decide
  refine ⟨stands, unknown, ?_⟩
  have once := (unknown_setting_reported [] "" [twoBuildTypes] [] none "p" stands unknown).2.mpr
    (.inr (by decide))
  exact once

/-- An unknown setting in a group for two configurations is reported twice. -/
theorem unheardOf_reportedTwice :
    StandsIn unheardOf .compiler (compilerGroup [] [unheardOf]) (compilerGroup [] []) ∧
      unheardOf.name ∉ Place.compiler.known ∧
      unknownsOf (.mk "Project" [] "" [twoBuildTypes, compilerGroup [] []]) none "p" = [] ∧
      unknownsOf (.mk "Project" [] "" [twoBuildTypes, compilerGroup [] [unheardOf]]) none "p" =
        [.unknownElement .vcxproj "ClCompile" "Colour",
          .unknownElement .vcxproj "ClCompile" "Colour"] := by
  refine ⟨@StandsIn.inTool _ _ "" [] [] [] "ClCompile" "" [] [] [] (by decide), by decide, ?_, ?_⟩
  · decide
  · decide

end Occurrences

end ElementFormat

end ProjectScribe.Reading
