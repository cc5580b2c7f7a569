import ProjectScribe.Proofs.Reading.ToolSettings

/-!
# Libraries as they are written

Which libraries a project links is told by its linkers, and of several lists for one linker the
last one counts. The readers take the extension off the name of a library and leave the rest as it
is written. So a project has a path with a backslash exactly if one of the lists that count names
a library with one; every other path is free of them.
-/
namespace ProjectScribe.Reported

variable {Note α β γ : Type} {step : β → α → Reported Note β}

/-- Where every step writes the last of its values, if it has any, working off a list writes the
last of all values. -/
theorem fold_lastWritten {field : β → γ} {writes : α → List γ}
    (each : ∀ state a, field (step state a).value = (writes a).getLast?.getD (field state))
    (state : β) (list : List α) :
    field (fold step state list).value =
      (list.flatMap writes).getLast?.getD (field state) := by
  induction list generalizing state with
  | nil => rfl
  | cons a rest inductionHypothesis =>
    rw [fold, value_bind, inductionHypothesis, each, List.flatMap_cons, List.getLast?_append]
    cases (rest.flatMap writes).getLast? with
    | none => rfl
    | some last => rfl

end ProjectScribe.Reported

namespace ProjectScribe.Reading

namespace AttributeFormat

open Xml (Attribute Element)

/-- The elements of a configuration that set up linkers. -/
def linkerElements (configuration : Element) : List Element :=
  configuration.children.filter fun tool =>
    tool.name = "Tool" ∧ tool.valueOf "Name" ∈ linkerTools

/-- The elements that declare the configurations of a project. -/
def configurationElements (project : Element) : List Element :=
  (project.children.filter (·.name = "Configurations")).flatMap fun group =>
    group.children.filter (·.name = "Configuration")

/-- The lists of libraries that a tool states. -/
def libraryLists (tool : Element) : List (List String) :=
  (tool.attributes.filter (·.name = "AdditionalDependencies")).map fun entry => words entry.value

/-- The libraries that count for a tool: those of its last list. -/
def statedLibraries (tool : Element) : List String := (libraryLists tool).getLast?.getD []

/-- The libraries that count in a document, as they are written. -/
def linkedLibraries (document : Element) : List String :=
  (projectElements document).flatMap fun project =>
    (configurationElements project).flatMap fun configuration =>
      (linkerElements configuration).flatMap statedLibraries

/-- The names of libraries that are not empty. -/
def named (libraries : List String) : List String := (libraries.map libraryName).filter (· ≠ "")

/-- Of the lists that a tool states only the last one is kept. -/
theorem dependencies_readLinker (tool : Element) :
    (readLinker tool).value.dependencies = named (statedLibraries tool) := by
  have each : ∀ (linker : LinkerSettings) (entry : Attribute),
      (readLinkerAttribute (tool.valueOf "Name") linker entry).value.dependencies =
        ((if entry.name = "AdditionalDependencies" then [named (words entry.value)]
          else []).getLast?).getD linker.dependencies := by
    intro linker entry
    rw [readLinkerAttribute]
    split <;> simp_all [named]
  have lists : (tool.attributes.filter (·.name = "AdditionalDependencies")).map
      (fun entry => named (words entry.value)) = (libraryLists tool).map named := by
    rw [libraryLists, List.map_map]
    rfl
  rw [readLinker, Reported.fold_lastWritten each, flatMap_ite, ← List.map_eq_flatMap, lists,
    List.getLast?_map, statedLibraries]
  cases (libraryLists tool).getLast? with
  | none => rfl
  | some last => rfl

/-- Setting up a compiler leaves the linkers as they are. -/
theorem linkers_readCompiler (configuration : Configuration) (tool : Element) :
    (readCompiler configuration tool).value.linkers = configuration.linkers := by
  have each : ∀ (state : Configuration × CompilerSettings) (entry : Attribute),
      (readCompilerAttribute state entry).value.1.linkers = state.1.linkers := by
    rintro ⟨settled, compiler⟩ entry
    rw [readCompilerAttribute]
    split <;> simp
  rw [readCompiler, Reported.value_bind]
  exact Reported.fold_keeps
    (motive := fun state : Configuration × CompilerSettings =>
      state.1.linkers = configuration.linkers)
    (fun state entry _ same => (each state entry).trans same) (configuration, {}) rfl

/-- A tool adds a linker to its configuration just if it sets one up. -/
theorem linkers_readTool (configuration : Configuration) (tool : Element) :
    (readTool configuration tool).value.linkers = configuration.linkers ++
      if tool.name = "Tool" ∧ tool.valueOf "Name" ∈ linkerTools then [(readLinker tool).value]
      else [] := by
  rw [readTool]
  by_cases isTool : tool.name = "Tool"
  · rw [if_neg (not_not_intro isTool)]
    by_cases isCompiler : tool.valueOf "Name" = compilerTool
    · have other : compilerTool ∉ linkerTools := by decide
      simp [isCompiler, linkers_readCompiler, other]
    · by_cases isLinker : tool.valueOf "Name" ∈ linkerTools
      · simp [isTool, isCompiler, isLinker]
      · simp [isCompiler, isLinker]
  · simp [isTool]

/-- A configuration has a linker for each element that sets one up. -/
theorem linkers_readConfiguration (element : Element) :
    (readConfiguration element).value.linkers =
      (linkerElements element).map fun tool => (readLinker tool).value := by
  have none : (Reported.fold readConfigurationAttribute
      (Configuration.ofName (element.valueOf "Name")) element.attributes).value.linkers = [] := by
    refine Reported.fold_keeps (motive := fun configuration : Configuration =>
      configuration.linkers = []) (fun configuration entry _ empty => ?_) _ ?_
    · rw [readConfigurationAttribute]
      split <;> simp [empty]
    · rw [Configuration.ofName]
      split <;> rfl
  rw [readConfiguration, Reported.value_bind,
    Reported.fold_appends Configuration.linkers linkers_readTool, none, List.nil_append,
    flatMap_ite, ← List.map_eq_flatMap, linkerElements]

/-- The configurations of a project are those that its elements declare. -/
theorem configurations_readProject (element : Element) :
    (readProject element).value.configurations =
      (configurationElements element).map fun declared => (readConfiguration declared).value := by
  have added : ∀ configurations declared, (addConfiguration configurations declared).value =
      configurations ++ if declared.name = "Configuration" then
        [(readConfiguration declared).value] else [] := by
    intro configurations declared
    rw [addConfiguration]
    split <;> simp
  have parts : ∀ project part, (readProjectPart project part).value.configurations =
      project.configurations ++ if part.name = "Configurations" then
        (part.children.filter (·.name = "Configuration")).map fun declared =>
          (readConfiguration declared).value else [] := by
    intro project part
    rw [readProjectPart]
    split
    · have all := Reported.fold_appends id added project.configurations part.children
      rw [flatMap_ite, ← List.map_eq_flatMap] at all
      exact all
    · split <;> simp
  have read := Reported.fold_appends Project.configurations parts
    (Reported.fold readProjectAttribute { dialect := some .vcproj } element.attributes).value
    element.children
  rw [configurations_readProjectAttributes, List.nil_append, flatMap_ite] at read
  rw [configurationElements, List.map_flatMap]
  exact read

/-- The libraries of a document are those that count in it, without their extensions. -/
theorem libraries_readProjects (document : Element) :
    (readProjects document).value.flatMap (·.libraries) = named (linkedLibraries document) := by
  have ofConfiguration : ∀ declared, (readConfiguration declared).value.libraries =
      named ((linkerElements declared).flatMap statedLibraries) := by
    intro declared
    rw [Configuration.libraries, linkers_readConfiguration, List.flatMap_map]
    simp only [dependencies_readLinker, named, List.map_flatMap, List.filter_flatMap]
  rw [readProjects, Reported.value_forEach, List.flatMap_map, linkedLibraries]
  simp only [Project.libraries, configurations_readProject, List.flatMap_map, ofConfiguration,
    named, List.map_flatMap, List.filter_flatMap]
  rfl

end AttributeFormat

namespace ElementFormat

open Xml (Element)

section Groups

variable {configuration : Configuration} {parts : List Element}

/-- The lists of libraries that the definition of a tool states. -/
def libraryLists (tool : Element) : List (List String) :=
  if tool.name = "Link" ∨ tool.name = "Lib" then
    (tool.children.filter (·.name = "AdditionalDependencies")).map fun element =>
      ownItems (textOf element)
  else []

/-- The lists of libraries that a group of settings states. -/
def libraryListsOf (group : Element) : List (List String) :=
  if group.name = "ItemDefinitionGroup" then group.children.flatMap libraryLists else []

/-- The libraries that count for a configuration: those of the last list in a group that applies
to it. -/
def statedLibraries (parts : List Element) (configuration : Configuration) : List String :=
  ((parts.filter (applies · configuration)).flatMap libraryListsOf).getLast?.getD []

/-- The libraries that count for the configurations that elements declare. -/
def statedFrom : List Element → List String
  | [] => []
  | part :: rest => (declarations part).flatMap (statedLibraries rest) ++ statedFrom rest

/-- The libraries that count in a document, as they are written. -/
def linkedLibraries (document : Element) : List String :=
  if document.name = "Project" then statedFrom document.children else []

/-- The lists that count are the values that the groups state for the libraries of a linker. -/
theorem libraryLists_eq (parts : List Element) (configuration : Configuration) :
    (parts.filter (applies · configuration)).flatMap libraryListsOf =
      (ListSetting.dependencies.stated (definitionGroups parts configuration)).map ownItems := by
  have linkers : ∀ tools : List Element,
      tools.filter (·.name ∈ ListSetting.dependencies.tools) =
        tools.filter fun tool => tool.name = "Link" ∨ tool.name = "Lib" := fun tools =>
    List.filter_congr fun tool _ => by simp [ListSetting.tools]
  have ofTools : ∀ tools : List Element, tools.flatMap libraryLists =
      (tools.filter fun tool => tool.name = "Link" ∨ tool.name = "Lib").flatMap fun tool =>
        (tool.children.filter (·.name = "AdditionalDependencies")).map fun element =>
          ownItems (textOf element) := fun tools => by
    rw [← flatMap_ite]
    rfl
  have ofGroups : ∀ groups : List Element, groups.flatMap libraryListsOf =
      (groups.filter (·.name = "ItemDefinitionGroup")).flatMap fun group =>
        group.children.flatMap libraryLists := fun groups => by
    rw [← flatMap_ite]
    rfl
  have named : ListSetting.dependencies.element = "AdditionalDependencies" := rfl
  rw [ofGroups, List.filter_filter, ← definitionGroups, ListSetting.stated, statedValues,
    toolElements, named]
  simp only [ofTools, linkers, List.filter_flatMap, List.map_flatMap, List.map_map,
    Function.comp_def]

/-- A configuration links the libraries that count for it, without their extensions. -/
theorem libraries_settledBy (parts : List Element) {configuration : Configuration}
    (fresh : configuration.compilers = [] ∧ configuration.linkers = []) :
    (settledBy parts configuration).libraries =
      (statedLibraries parts configuration).map libraryName := by
  have last := ListSetting.dependencies.of_settledBy parts fresh
  rw [Configuration.libraries, statedLibraries, libraryLists_eq, List.getLast?_map]
  refine last.trans ?_
  cases (ListSetting.dependencies.stated _).getLast? with
  | none => rfl
  | some value => rfl

theorem libraries_configurationsFrom (parts : List Element) :
    (configurationsFrom parts).flatMap (·.libraries) = (statedFrom parts).map libraryName := by
  induction parts with
  | nil => rfl
  | cons part rest inductionHypothesis =>
    rw [configurationsFrom, List.flatMap_append, inductionHypothesis, statedFrom, List.map_append,
      List.flatMap_map, List.map_flatMap]
    congr 1
    refine List.flatMap_congr fun configuration declared => ?_
    unfold declarations at declared
    split at declared
    · obtain ⟨element, -, rfl⟩ := List.mem_map.mp declared
      exact libraries_settledBy rest (tools_readDeclaration element)
    · cases declared

/-- The libraries of a document are those that count in it, without their extensions. -/
theorem libraries_readProjects (document : Element) (companion : Option Element)
    (fallback : String) :
    (readProjects document companion fallback).value.flatMap (·.libraries) =
      (linkedLibraries document).map libraryName := by
  have configured : (readProjects document companion fallback).value.flatMap (·.libraries) =
      (configurationsOf document companion fallback).flatMap (·.libraries) := by
    rw [configurationsOf, List.flatMap_assoc]
    rfl
  rw [configured, configurationsOf_eq, linkedLibraries]
  split
  · exact libraries_configurationsFrom document.children
  · rfl

end Groups

end ElementFormat

section Backslashes

/-- Names of libraries have a backslash just if the libraries are written with one. -/
theorem slashed_map_libraryName_iff (libraries : List String) :
    Slashed (libraries.map libraryName) ↔ Slashed libraries := by
  simp only [Slashed, List.forall_mem_map, isSlashed_libraryName_iff]

theorem slashed_named_iff (libraries : List String) :
    Slashed (AttributeFormat.named libraries) ↔ Slashed libraries := by
  rw [← slashed_map_libraryName_iff libraries, AttributeFormat.named]
  constructor
  · intro slashed name listed
    by_cases empty : name = ""
    · rw [empty]
      decide
    · exact slashed name (List.mem_filter.mpr ⟨listed, by simpa using empty⟩)
  · intro slashed name listed
    exact slashed name (List.mem_of_mem_filter listed)

/-- Where all other paths are free of backslashes, only libraries can have one. -/
theorem slashed_projects_iff {projects : List Project} {libraries : List String}
    (paths : ∀ project ∈ projects, Slashed project.paths)
    (linked : Slashed (projects.flatMap (·.libraries)) ↔ Slashed libraries) :
    (∀ project ∈ projects, Slashed (project.paths ++ project.libraries)) ↔ Slashed libraries := by
  rw [← linked, slashed_flatMap_iff]
  simp only [slashed_append_iff]
  constructor
  · intro all project listed
    exact (all project listed).2
  · intro all project listed
    exact ⟨paths project listed, all project listed⟩

/-- In both formats, no directory, no file and no path that a tool is given has a backslash. The
libraries that a project links are those that count in its document, less their extensions. So no
path at all has a backslash exactly if none of those libraries is written with one. -/
theorem slashed_readProjects_iff (document : Xml.Element) (companion : Option Xml.Element)
    (fallback : String) :
    let older := (AttributeFormat.readProjects document).value
    let newer := (ElementFormat.readProjects document companion fallback).value
    ((∀ project ∈ older, Slashed project.paths) ∧
      older.flatMap (·.libraries) =
        ((AttributeFormat.linkedLibraries document).map libraryName).filter (· ≠ "") ∧
      ((∀ project ∈ older, Slashed (project.paths ++ project.libraries)) ↔
        Slashed (AttributeFormat.linkedLibraries document))) ∧
    (∀ project ∈ newer, Slashed project.paths) ∧
      newer.flatMap (·.libraries) = (ElementFormat.linkedLibraries document).map libraryName ∧
      ((∀ project ∈ newer, Slashed (project.paths ++ project.libraries)) ↔
        Slashed (ElementFormat.linkedLibraries document)) := by
  intro older newer
  have olderPaths := AttributeFormat.slashed_readProjects document
  have newerPaths := ElementFormat.slashed_readProjects document companion fallback
  have olderLibraries := AttributeFormat.libraries_readProjects document
  have newerLibraries := ElementFormat.libraries_readProjects document companion fallback
  refine ⟨⟨olderPaths, olderLibraries, ?_⟩, newerPaths, newerLibraries, ?_⟩
  · apply slashed_projects_iff olderPaths
    rw [olderLibraries]
    exact slashed_named_iff _
  · apply slashed_projects_iff newerPaths
    rw [newerLibraries]
    exact slashed_map_libraryName_iff _

/-- A project that links a library in another directory. -/
def linkingElsewhere : Xml.Element :=
  .mk "VisualStudioProject" [⟨"Name", "p"⟩] "" [
    .mk "Configurations" [] "" [
      .mk "Configuration" [⟨"Name", "D|W"⟩] "" [
        .mk "Tool" [⟨"Name", "VCLinkerTool"⟩, ⟨"AdditionalDependencies", "..\\lib\\z.lib"⟩] ""
          []]]]

/-- Not every project is without backslashes: the library keeps those it is written with. -/
theorem linkingElsewhere_unslashed :
    ¬ ∀ document, ∀ project ∈ (AttributeFormat.readProjects document).value,
      Slashed (project.paths ++ project.libraries) := by
  intro slashed
  have linked : ∃ project ∈ (AttributeFormat.readProjects linkingElsewhere).value,
      "..\\lib\\z" ∈ project.libraries := by decide
  obtain ⟨project, listed, among⟩ := linked
  have free := slashed linkingElsewhere project listed _ (List.mem_append_right _ among)
  exact absurd free (by decide)

end Backslashes

end ProjectScribe.Reading
