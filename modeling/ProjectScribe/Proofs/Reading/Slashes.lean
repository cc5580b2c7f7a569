import ProjectScribe.Proofs.Path.NormalForm
import ProjectScribe.Proofs.Reading.FileAccounting
import ProjectScribe.Proofs.Reading.ItemFiles
import ProjectScribe.Proofs.Reading.SettingGroups
import ProjectScribe.Proofs.Text.Blank

/-!
# Paths without backslashes

A project file may write its paths with backslashes. Where the readers bring a path into its
normal form, no backslash is left. They do so for every directory, every file, and every path that
a tool is given; only the names of libraries are taken as they are written, but for the extension.
-/
namespace ProjectScribe

/-- Whether none of several paths has a backslash. -/
def Slashed (paths : List String) : Prop := ∀ path ∈ paths, IsSlashed path

@[simp] theorem slashed_nil : Slashed [] := by simp [Slashed]

@[simp] theorem slashed_cons_iff {path : String} {rest : List String} :
    Slashed (path :: rest) ↔ IsSlashed path ∧ Slashed rest :=
  List.forall_mem_cons

@[simp] theorem slashed_append_iff {first second : List String} :
    Slashed (first ++ second) ↔ Slashed first ∧ Slashed second :=
  List.forall_mem_append

theorem slashed_flatMap_iff {α : Type} {list : List α} {paths : α → List String} :
    Slashed (list.flatMap paths) ↔ ∀ a ∈ list, Slashed (paths a) :=
  List.forall_mem_flatMap

section Texts

@[simp] theorem slashed_map_normal (paths : List String) : Slashed (paths.map Path.normal) :=
  List.forall_mem_map.mpr fun path _ => Path.isSlashed_normal path

/-- The name of a library has a backslash just if it was written with one. -/
theorem isSlashed_libraryName_iff (name : String) :
    IsSlashed (Reading.libraryName name) ↔ IsSlashed name := by
  have bare : '\\' ∈ Text.strip Reading.isQuote (Text.trim name.toList) ↔ '\\' ∈ name.toList := by
    rw [Text.mem_strip_iff (by decide), Text.trim, Text.mem_strip_iff (by decide)]
  rw [IsSlashed, IsSlashed, ← bare, Reading.libraryName]
  generalize Text.strip Reading.isQuote (Text.trim name.toList) = text
  split
  · next ending =>
    simp only [Bool.and_eq_true, decide_eq_true_eq] at ending
    -- The extension that is dropped has no backslash.
    have clean : '\\' ∉ text.drop (text.length - 4) := by
      intro inside
      have lowered := List.mem_map_of_mem inside (f := Text.lowerChar)
      rw [ending.2] at lowered
      exact absurd lowered (by decide)
    have parts : '\\' ∈ text ↔ '\\' ∈ text.take (text.length - 4) := by
      conv => lhs; rw [← List.take_append_drop (text.length - 4) text]
      rw [List.mem_append, or_iff_left clean]
    rw [parts, String.toList_ofList]
  · rw [String.toList_ofList]

end Texts

section Fields

/-- The paths that a compiler is given. -/
def CompilerSettings.paths (compiler : CompilerSettings) : List String :=
  compiler.includeDirs.map (·.path) ++ compiler.precompiled.header.toList ++
    compiler.precompiled.binary.toList

/-- The paths that a linker is given, without the libraries. -/
def LinkerSettings.paths (linker : LinkerSettings) : List String :=
  linker.libraryDirs ++ linker.moduleDefinition.toList ++ linker.programDatabase.toList

/-- The paths in a configuration, without the libraries. -/
def Configuration.paths (configuration : Configuration) : List String :=
  configuration.compilers.flatMap (·.paths) ++ configuration.linkers.flatMap (·.paths)

/-- The libraries that a configuration links. -/
def Configuration.libraries (configuration : Configuration) : List String :=
  configuration.linkers.flatMap (·.dependencies)

/-- The paths in a project, without the libraries. -/
def Project.paths (project : Project) : List String :=
  project.configurations.flatMap (·.paths) ++ project.filters.files.map (·.path)

/-- The libraries that the configurations of a project link. -/
def Project.libraries (project : Project) : List String :=
  project.configurations.flatMap (·.libraries)

end Fields

namespace Reading

/-- A tree that is filled with files whose paths are in their normal form has no other paths. -/
theorem slashed_files {reading : Reading FilterTree} {outcomes : List Outcome}
    (accounts : Accounts .empty reading outcomes)
    (normal : ∀ place file, .filed place file ∈ outcomes → IsSlashed file.path) :
    Slashed (reading.value.files.map (·.path)) := by
  intro path listed
  obtain ⟨file, stands, rfl⟩ := List.mem_map.mp listed
  obtain ⟨place, among⟩ := accounts.mem_files_iff.mp stands
  exact normal place file among

/-- Where no step gives a configuration a path with a backslash, all steps together do not. -/
theorem slashed_fold {step : Configuration → Xml.Element → Reading Configuration}
    (each : ∀ configuration element, Slashed configuration.paths →
      Slashed (step configuration element).value.paths) {configuration : Configuration}
    (elements : List Xml.Element) (slashed : Slashed configuration.paths) :
    Slashed (Reported.fold step configuration elements).value.paths :=
  Reported.fold_keeps (motive := fun configuration : Configuration => Slashed configuration.paths)
    (fun configuration element _ => each configuration element) configuration slashed

namespace AttributeFormat

open Xml (Attribute Element)

theorem slashed_readCompilerAttribute (state : Configuration × CompilerSettings)
    (entry : Attribute) (slashed : Slashed state.1.paths ∧ Slashed state.2.paths) :
    Slashed (readCompilerAttribute state entry).value.1.paths ∧
      Slashed (readCompilerAttribute state entry).value.2.paths := by
  obtain ⟨configuration, compiler⟩ := state
  rw [readCompilerAttribute]
  split <;> simp_all [Configuration.paths, CompilerSettings.paths, Function.comp_def]

theorem slashed_readCompiler (configuration : Configuration) (tool : Element)
    (slashed : Slashed configuration.paths) :
    Slashed (readCompiler configuration tool).value.paths := by
  have read := Reported.fold_keeps
    (motive := fun state : Configuration × CompilerSettings =>
      Slashed state.1.paths ∧ Slashed state.2.paths)
    (fun state entry (_ : entry ∈ tool.attributes) => slashed_readCompilerAttribute state entry)
    (configuration, {}) ⟨slashed, slashed_nil⟩
  rw [readCompiler, Reported.value_bind]
  generalize (Reported.fold readCompilerAttribute (configuration, {}) tool.attributes).value =
    state at read ⊢
  obtain ⟨settled, compiler⟩ := state
  simp_all [Configuration.paths]

theorem slashed_readLinkerAttribute (tool : String) (linker : LinkerSettings) (entry : Attribute)
    (slashed : Slashed linker.paths) :
    Slashed (readLinkerAttribute tool linker entry).value.paths := by
  rw [readLinkerAttribute]
  split <;> simp_all [LinkerSettings.paths]

theorem slashed_readTool (configuration : Configuration) (tool : Element)
    (slashed : Slashed configuration.paths) :
    Slashed (readTool configuration tool).value.paths := by
  rw [readTool]
  split
  · exact slashed
  · dsimp only
    split
    · exact slashed_readCompiler configuration tool slashed
    · split
      · have linker : Slashed (readLinker tool).value.paths :=
          Reported.fold_keeps (motive := fun linker : LinkerSettings => Slashed linker.paths)
            (fun linker entry _ => slashed_readLinkerAttribute _ linker entry) {} slashed_nil
        simp_all [Configuration.paths]
      · exact slashed

/-- A configuration has no paths before its tools are read. -/
theorem paths_readConfigurationAttribute (configuration : Configuration) (entry : Attribute) :
    (readConfigurationAttribute configuration entry).value.paths = configuration.paths := by
  rw [readConfigurationAttribute]
  split <;> simp [Configuration.paths]

theorem paths_ofName (name : String) : (Configuration.ofName name).paths = [] := by
  rw [Configuration.ofName]
  split <;> rfl

theorem slashed_readConfiguration (element : Element) :
    Slashed (readConfiguration element).value.paths := by
  rw [readConfiguration, Reported.value_bind]
  refine slashed_fold slashed_readTool _ ?_
  have none : (Reported.fold readConfigurationAttribute
      (Configuration.ofName (element.valueOf "Name")) element.attributes).value.paths = [] :=
    Reported.fold_keeps (motive := fun configuration : Configuration => configuration.paths = [])
      (fun configuration entry _ empty =>
        (paths_readConfigurationAttribute configuration entry).trans empty) _ (paths_ofName _)
  rw [none]
  exact slashed_nil

theorem slashed_addConfiguration (configurations : List Configuration) (element : Element)
    (slashed : ∀ configuration ∈ configurations, Slashed configuration.paths) :
    ∀ configuration ∈ (addConfiguration configurations element).value,
      Slashed configuration.paths := by
  rw [addConfiguration]
  split
  · intro configuration listed
    rcases List.mem_append.mp listed with earlier | last
    · exact slashed configuration earlier
    · rw [List.mem_singleton.mp last]
      exact slashed_readConfiguration element
  · exact slashed

theorem slashed_readProjectPart (project : Project) (part : Element)
    (slashed : ∀ configuration ∈ project.configurations, Slashed configuration.paths) :
    ∀ configuration ∈ (readProjectPart project part).value.configurations,
      Slashed configuration.paths := by
  rw [readProjectPart]
  split
  · exact Reported.fold_keeps
      (motive := fun configurations : List Configuration =>
        ∀ configuration ∈ configurations, Slashed configuration.paths)
      (fun configurations element _ => slashed_addConfiguration configurations element) _ slashed
  · split <;> exact slashed

theorem configurations_readProjectAttribute (project : Project) (entry : Attribute) :
    (readProjectAttribute project entry).value.configurations = project.configurations := by
  rw [readProjectAttribute]
  split <;> rfl

/-- The attributes of a project declare no configurations. -/
theorem configurations_readProjectAttributes (attributes : List Attribute) :
    (Reported.fold readProjectAttribute { dialect := some .vcproj }
      attributes).value.configurations = [] :=
  Reported.fold_keeps (motive := fun project : Project => project.configurations = [])
    (fun project entry _ none => (configurations_readProjectAttribute project entry).trans none)
    _ rfl

/-- The configurations of a project have no path with a backslash. -/
theorem slashed_configurations (element : Element) :
    ∀ configuration ∈ (readProject element).value.configurations,
      Slashed configuration.paths := by
  refine Reported.fold_keeps
    (motive := fun project : Project =>
      ∀ configuration ∈ project.configurations, Slashed configuration.paths)
    (fun project part _ => slashed_readProjectPart project part) _ ?_
  rw [configurations_readProjectAttributes]
  exact fun configuration listed => nomatch listed

/-- The file that an element states has the path of the element. -/
theorem path_statedFile (element : Element) : (statedFile element).path = filePath element := by
  refine Reported.fold_keeps (motive := fun file : FileEntry => file.path = filePath element)
    (fun file part _ same => ?_) _ rfl
  have settings : (Reported.fold readFileSetting file part.attributes).value.path =
      filePath element := by
    refine Reported.fold_keeps (motive := fun file : FileEntry => file.path = filePath element)
      (fun file entry _ same => ?_) file same
    rw [readFileSetting]
    split <;> simp only [Reported.value_pure, Reported.value_bind] <;> (try split) <;> exact same
  rw [readFileConfiguration, Reported.value_bind]
  split <;> exact settings

/-- The older format's reader brings all paths but those of libraries into their normal form. -/
theorem slashed_readProjects (document : Element) :
    ∀ project ∈ (readProjects document).value, Slashed project.paths := by
  intro project listed
  rw [readProjects, Reported.value_forEach] at listed
  obtain ⟨element, -, rfl⟩ := List.mem_map.mp listed
  rw [Project.paths, slashed_append_iff, slashed_flatMap_iff]
  refine ⟨slashed_configurations element, slashed_files (readProject_adds element).accounts ?_⟩
  intro place file among
  obtain ⟨stated, -, outcome⟩ := List.mem_map.mp among
  rw [ListedFile.outcome] at outcome
  split at outcome
  · cases outcome
  · split at outcome
    · cases outcome
    · split at outcome
      · cases outcome
      · cases outcome
        rw [path_statedFile]
        exact Path.isSlashed_normal _

end AttributeFormat

namespace ElementFormat

open Xml (Element)

theorem slashed_updateCompiler {configuration : Configuration}
    {change : CompilerSettings → Reading CompilerSettings}
    (keeps : ∀ compiler, Slashed compiler.paths → Slashed (change compiler).value.paths)
    (slashed : Slashed configuration.paths) :
    Slashed (updateCompiler configuration change).value.paths := by
  rw [updateCompiler]
  split
  · next none =>
    have fresh := keeps {} slashed_nil
    simp_all [Configuration.paths]
  · next first others some =>
    have changed := keeps first
    simp_all [Configuration.paths]

theorem slashed_updateLinker {configuration : Configuration}
    {change : LinkerSettings → Reading LinkerSettings}
    (keeps : ∀ linker, Slashed linker.paths → Slashed (change linker).value.paths)
    (slashed : Slashed configuration.paths) :
    Slashed (updateLinker configuration change).value.paths := by
  rw [updateLinker]
  split
  · next none =>
    have fresh := keeps {} slashed_nil
    simp_all [Configuration.paths]
  · next first others some =>
    have changed := keeps first
    simp_all [Configuration.paths]

theorem slashed_readCompilerSetting (configuration : Configuration) (element : Element)
    (slashed : Slashed configuration.paths) :
    Slashed (readCompilerSetting configuration element).value.paths := by
  rw [readCompilerSetting]
  split
  · simpa [Configuration.paths] using slashed
  · refine slashed_updateCompiler (fun compiler before => ?_) slashed
    unfold readCompilerElement
    split <;> simp_all [CompilerSettings.paths, Function.comp_def]

theorem slashed_readLinkerElement (tool name value : String) (linker : LinkerSettings)
    (slashed : Slashed linker.paths) :
    Slashed (readLinkerElement tool name value linker).value.paths := by
  unfold readLinkerElement
  split <;> simp_all [LinkerSettings.paths]

theorem slashed_readToolDefinition (configuration : Configuration) (tool : Element)
    (slashed : Slashed configuration.paths) :
    Slashed (readToolDefinition configuration tool).value.paths := by
  rw [readToolDefinition]
  split
  · exact slashed_fold slashed_readCompilerSetting _ slashed
  · split
    · exact slashed_fold (fun _ element =>
        slashed_updateLinker (slashed_readLinkerElement tool.name element.name _)) _ slashed
    · exact slashed

theorem paths_readConfigurationProperty (configuration : Configuration) (element : Element) :
    (readConfigurationProperty configuration element).value.paths = configuration.paths := by
  rw [readConfigurationProperty]
  split <;> simp [Configuration.paths]

theorem slashed_readGeneralProperty (configuration : Configuration) (element : Element)
    (slashed : Slashed configuration.paths) :
    Slashed (readGeneralProperty configuration element).value.paths := by
  rw [readGeneralProperty]
  split
  · refine slashed_updateLinker (fun linker before => ?_) slashed
    rwa [Reported.value_pure, LinkerSettings.paths]
  · exact slashed

theorem slashed_settle (part : Element) (configuration : Configuration)
    (slashed : Slashed configuration.paths) : Slashed (settle part configuration).paths := by
  unfold settle
  split
  · split
    · exact slashed
    · split
      · exact slashed_fold (fun configuration element before =>
          paths_readConfigurationProperty configuration element ▸ before) _ slashed
      · split
        · exact slashed
        · exact slashed_fold slashed_readGeneralProperty _ slashed
  · split
    · exact slashed_fold slashed_readToolDefinition _ slashed
    · exact slashed

theorem slashed_settledBy (parts : List Element) (configuration : Configuration)
    (slashed : Slashed configuration.paths) : Slashed (settledBy parts configuration).paths := by
  induction parts generalizing configuration with
  | nil => exact slashed
  | cons part rest inductionHypothesis =>
    refine inductionHypothesis (settled part configuration) ?_
    unfold settled
    split
    · exact slashed_settle part configuration slashed
    · exact slashed

/-- A declaration alone gives a configuration no compiler and no linker. -/
theorem tools_readDeclaration (element : Element) :
    (readDeclaration element).value.compilers = [] ∧
      (readDeclaration element).value.linkers = [] := by
  refine Reported.fold_keeps
    (motive := fun configuration : Configuration =>
      configuration.compilers = [] ∧ configuration.linkers = [])
    (fun configuration part _ none => ?_) _ ?_
  · split
    · exact none
    · split <;> exact none
  · rw [Configuration.ofName]
    split <;> exact ⟨rfl, rfl⟩

theorem slashed_configurationsFrom (parts : List Element) :
    ∀ configuration ∈ configurationsFrom parts, Slashed configuration.paths := by
  induction parts with
  | nil => simp [configurationsFrom]
  | cons part rest inductionHypothesis =>
    intro configuration listed
    rcases List.mem_append.mp listed with declared | later
    · obtain ⟨fresh, declares, rfl⟩ := List.mem_map.mp declared
      refine slashed_settledBy rest fresh ?_
      unfold declarations at declares
      split at declares
      · obtain ⟨element, -, rfl⟩ := List.mem_map.mp declares
        simp [Configuration.paths, tools_readDeclaration element]
      · cases declares
    · exact inductionHypothesis configuration later

/-- The newer format's reader brings all paths but those of libraries into their normal form. -/
theorem slashed_readProjects (document : Element) (companion : Option Element)
    (fallback : String) :
    ∀ project ∈ (readProjects document companion fallback).value, Slashed project.paths := by
  intro project listed
  have configured : ∀ configuration ∈ project.configurations, Slashed configuration.paths := by
    intro configuration among
    have read : configuration ∈ configurationsOf document companion fallback :=
      List.mem_flatMap.mpr ⟨project, listed, among⟩
    rw [configurationsOf_eq] at read
    split at read
    · exact slashed_configurationsFrom document.children configuration read
    · cases read
  rw [Project.paths, slashed_append_iff, slashed_flatMap_iff]
  refine ⟨configured, fun path among => ?_⟩
  obtain ⟨file, stands, rfl⟩ := List.mem_map.mp among
  obtain ⟨item, -, -, rfl⟩ := exists_item_of_mem_project listed stands
  rw [Item.path_entry]
  exact Path.isSlashed_normal _

end ElementFormat

end Reading

end ProjectScribe
