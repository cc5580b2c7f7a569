import Mathlib.Data.List.Nodup
import Mathlib.Data.List.Pairwise
import ProjectScribe.Proofs.Reading.AttributeSteps
import ProjectScribe.Proofs.Reading.UnknownSettings

/-!
# The attributes that elements have

Each kind of element in the older format has attributes that are read, attributes that are passed
over, and no others. An attribute that is read is written into a field that no other attribute is
written into, so attributes of different names can be read in any order. An attribute that the kind
does not have is reported, whatever the other attributes say.
-/
namespace ProjectScribe.Reading.AttributeFormat

open Xml (Attribute Element)

/-- An attribute that is read, and what is written for its value. -/
structure Field (β : Type) where
  name : String
  write : String → β → β

/-- Two fields that can be written in either order. -/
def Field.Commutes {β : Type} (first second : Field β) : Prop :=
  ∀ value other state,
    first.write value (second.write other state) = second.write other (first.write value state)

instance (β : Type) : Std.Symm (@Field.Commutes β) where
  symm _ _ commutes value other state := (commutes other value state).symm

/-- The attributes of a kind of element: those that are read, into fields of their own, and those
that are passed over. -/
structure Vocabulary (β : Type) where
  fields : List (Field β)
  ignored : List String
  commute : fields.Pairwise Field.Commutes

section Vocabularies

variable {β : Type}

namespace Vocabulary

/-- The names of the attributes that a kind of element has. -/
def known (vocabulary : Vocabulary β) : List String :=
  vocabulary.fields.map (·.name) ++ vocabulary.ignored

/-- What is written for an attribute: nothing if it is not read. -/
def write (vocabulary : Vocabulary β) (state : β) (entry : Attribute) : β :=
  match vocabulary.fields.find? (entry.name = ·.name) with
  | some field => field.write entry.value state
  | none => state

/-- Attributes of different names can be written in either order. -/
theorem write_comm (vocabulary : Vocabulary β) (state : β) {first second : Attribute}
    (apart : first.name ≠ second.name) :
    vocabulary.write (vocabulary.write state first) second =
      vocabulary.write (vocabulary.write state second) first := by
  simp only [write]
  cases found : vocabulary.fields.find? (first.name = ·.name) with
  | none => rfl
  | some field =>
    cases foundToo : vocabulary.fields.find? (second.name = ·.name) with
    | none => rfl
    | some other =>
      have name : first.name = field.name := by simpa using List.find?_some found
      have nameToo : second.name = other.name := by simpa using List.find?_some foundToo
      have different : other ≠ field := by
        rintro rfl
        exact apart (name.trans nameToo.symm)
      exact vocabulary.commute.forall (List.mem_of_find?_eq_some foundToo)
        (List.mem_of_find?_eq_some found) different second.value first.value state

end Vocabulary

/-- The reports on an attribute of an element that is reported under a name: one, unless the
attribute is known. -/
def reportsOn (owner : String) (known : List String) (entry : Attribute) : List Note :=
  if entry.name ∈ known then [] else [.unknownAttribute .vcproj owner entry.name]

/-- A step that reads the attributes of a vocabulary, and reports all others. -/
structure Reads (step : β → Attribute → Reading β) (owner : String) (vocabulary : Vocabulary β) :
    Prop where
  value : ∀ state entry, (step state entry).value = vocabulary.write state entry
  reports : ∀ state entry,
    unknowns (step state entry).notes = reportsOn owner vocabulary.known entry
  quiet : ∀ state entry, Quiet (step state entry)

namespace Reads

variable {step : β → Attribute → Reading β} {owner : String} {vocabulary : Vocabulary β}

/-- Attributes of different names, worked off in another order, come to the same. -/
theorem fold_perm (reads : Reads step owner vocabulary) {entries others : List Attribute}
    (perm : entries.Perm others) (once : (entries.map (·.name)).Nodup) (state : β) :
    (Reported.fold step state entries).value = (Reported.fold step state others).value := by
  simp only [Reported.value_fold, reads.value]
  refine perm.foldl_eq' (fun first listed second listedToo state => ?_) state
  by_cases same : first.name = second.name
  · rw [List.inj_on_of_nodup_map once listed listedToo same]
  · exact vocabulary.write_comm state same

/-- The reports on attributes are those on each of them. -/
theorem unknowns_fold (reads : Reads step owner vocabulary) (entries : List Attribute) (state : β) :
    unknowns (Reported.fold step state entries).notes =
      entries.flatMap (reportsOn owner vocabulary.known) :=
  Reading.unknowns_fold reads.reports state entries

/-- Attributes leave out no files. -/
theorem quiet_fold (reads : Reads step owner vocabulary) (entries : List Attribute) (state : β) :
    Quiet (Reported.fold step state entries) :=
  Reading.quiet_fold step state entries fun state entry _ => reads.quiet state entry

end Reads

end Vocabularies

section Kinds

@[simp] theorem unknowns_noteUnlessKnown (known : List String) (owner name : String) :
    unknowns (noteUnlessKnown known owner name).notes =
      if name ∈ known then [] else [.unknownAttribute .vcproj owner name] := by
  rw [noteUnlessKnown, Reported.notes_noteIf]
  by_cases isKnown : name ∈ known
  · simp [isKnown]
  · simp [isKnown, unknowns, Note.isUnknown]

/-- The attributes of a project. -/
def Vocabulary.project : Vocabulary Project where
  fields :=
    [⟨"Name", fun value project => { project with name := value }⟩,
      ⟨"ProjectGUID", fun value project => { project with guid := some value }⟩,
      ⟨"RootNamespace", fun value project => { project with rootNamespace := some value }⟩,
      ⟨"Keyword", fun value project => { project with keyword := some value }⟩,
      ⟨"SccProjectName", fun value project =>
        { project with sourceControl.projectName := some value }⟩,
      ⟨"SccLocalPath", fun value project => { project with sourceControl.localPath := some value }⟩,
      ⟨"SccProvider", fun value project => { project with sourceControl.provider := some value }⟩,
      ⟨"SccAuxPath", fun value project => { project with sourceControl.auxPath := some value }⟩]
  ignored := ignoredProjectAttributes
  commute := by simp [Field.Commutes]

theorem reads_project : Reads readProjectAttribute "VisualStudioProject" .project where
  value state entry := by
    rw [readProjectAttribute]
    split <;> simp_all [Vocabulary.write, Vocabulary.project]
  reports state entry := by
    rw [readProjectAttribute, reportsOn]
    split <;> simp_all [Vocabulary.known, Vocabulary.project]
  quiet := quiet_readProjectAttribute

/-- The attributes of a configuration. -/
def Vocabulary.configuration : Vocabulary Configuration where
  fields :=
    [⟨"ConfigurationType", fun value configuration =>
        { configuration with kind := (targetKinds.decode value).value }⟩,
      ⟨"UseOfMFC", fun value configuration =>
        { configuration with mfc := (libraryUsages.decode value).value }⟩,
      ⟨"UseOfATL", fun value configuration =>
        { configuration with atl := (libraryUsages.decode value).value }⟩,
      ⟨"CharacterSet", fun value configuration =>
        { configuration with charset := (characterSets.decode value).value }⟩,
      ⟨"WholeProgramOptimization", fun value configuration =>
        { configuration with optimizesWhole := isYes value }⟩]
  ignored := "Name" :: ignoredConfigurationAttributes
  commute := by simp [Field.Commutes]

theorem reads_configuration :
    Reads readConfigurationAttribute "Configuration" .configuration where
  value state entry := by
    rw [readConfigurationAttribute]
    split <;> simp_all [Vocabulary.write, Vocabulary.configuration]
  reports state entry := by
    rw [readConfigurationAttribute, reportsOn]
    split <;> simp_all [Vocabulary.known, Vocabulary.configuration]
  quiet := quiet_readConfigurationAttribute

/-- The attributes of a compiler, one of which is written into its configuration. -/
def Vocabulary.compiler : Vocabulary (Configuration × CompilerSettings) where
  fields :=
    [⟨"AdditionalIncludeDirectories", fun value (configuration, compiler) =>
        let dirs := (items isListMark value).map fun dir => { path := Path.normal dir }
        (configuration, { compiler with includeDirs := dirs })⟩,
      ⟨"PreprocessorDefinitions", fun value (configuration, compiler) =>
        let defines := ((items isListMark value).map definition).foldl
          (fun defines (key, value) => defines.insert key value) compiler.defines
        (configuration, { compiler with defines := defines })⟩,
      ⟨"RuntimeTypeInfo", fun value (configuration, compiler) =>
        (configuration, { compiler with rtti := isYes value })⟩,
      ⟨"ExceptionHandling", fun value (configuration, compiler) =>
        (configuration,
          { compiler with exceptionHandling := (exceptionHandlings.decode value).value })⟩,
      ⟨"Optimization", fun value (configuration, compiler) =>
        (configuration, { compiler with optimization := (optimizations.decode value).value })⟩,
      ⟨"WarningLevel", fun value (configuration, compiler) =>
        (configuration, { compiler with warningLevel := (warningLevels.decode value).value })⟩,
      ⟨"WarnAsError", fun value (configuration, compiler) =>
        (configuration, { compiler with warningsAsErrors := isYes value })⟩,
      ⟨"UsePrecompiledHeader", fun value (configuration, compiler) =>
        (configuration, { compiler with precompiled.mode := (headerModes.decode value).value })⟩,
      ⟨"PrecompiledHeaderThrough", fun value (configuration, compiler) =>
        (configuration, { compiler with precompiled.header := some (Path.normal value) })⟩,
      ⟨"PrecompiledHeaderFile", fun value (configuration, compiler) =>
        (configuration, { compiler with precompiled.binary := some (Path.normal value) })⟩,
      ⟨"RuntimeLibrary", fun value (configuration, compiler) =>
        ({ configuration with usesDebugRuntime := (debugRuntime value).value }, compiler)⟩,
      ⟨"DisableSpecificWarnings", fun value (configuration, compiler) =>
        (configuration, { compiler with options.disabledWarnings := items isListMark value })⟩,
      ⟨"AdditionalOptions", fun value (configuration, compiler) =>
        (configuration, { compiler with options.flags := words value })⟩]
  ignored := "Name" :: ignoredCompilerAttributes
  commute := by simp [Field.Commutes]

theorem reads_compiler : Reads readCompilerAttribute compilerTool .compiler where
  value state entry := by
    rw [readCompilerAttribute]
    split <;> simp_all [Vocabulary.write, Vocabulary.compiler]
  reports state entry := by
    rw [readCompilerAttribute, reportsOn]
    split <;> simp_all [Vocabulary.known, Vocabulary.compiler]
  quiet := quiet_readCompilerAttribute

/-- The attributes of a linker. -/
def Vocabulary.linker : Vocabulary LinkerSettings where
  fields :=
    [⟨"AdditionalDependencies", fun value linker =>
        { linker with dependencies := ((words value).map libraryName).filter (· ≠ "") }⟩,
      ⟨"AdditionalLibraryDirectories", fun value linker =>
        { linker with libraryDirs := (items isListMark value).map Path.normal }⟩,
      ⟨"ModuleDefinitionFile", fun value linker =>
        { linker with moduleDefinition := some (Path.normal value) }⟩,
      ⟨"ProgramDatabaseFile", fun value linker =>
        { linker with programDatabase := some (Path.normal value) }⟩,
      ⟨"LinkIncremental", fun value linker => { linker with isIncremental := isOn value }⟩,
      ⟨"OptimizeReferences", fun value linker => { linker with optimizesReferences := isOn value }⟩,
      ⟨"AdditionalOptions", fun value linker => { linker with options.flags := words value }⟩]
  ignored := "Name" :: ignoredLinkerAttributes
  commute := by simp [Field.Commutes]

theorem reads_linker (tool : String) : Reads (readLinkerAttribute tool) tool .linker where
  value state entry := by
    rw [readLinkerAttribute]
    split <;> simp_all [Vocabulary.write, Vocabulary.linker]
  reports state entry := by
    rw [readLinkerAttribute, reportsOn]
    split <;> simp_all [Vocabulary.known, Vocabulary.linker]
  quiet := quiet_readLinkerAttribute tool

/-- The attributes of a filter. -/
def Vocabulary.filter : Vocabulary FilterNode where
  fields :=
    [⟨"Filter", fun value filter => { filter with extensions := some (items isSemicolon value) }⟩,
      ⟨"SourceControlFiles", fun value filter => { filter with isTracked := isYes value }⟩]
  ignored := ["Name", "UniqueIdentifier", "ParseFiles"]
  commute := by simp [Field.Commutes]

theorem reads_filter : Reads readFilterAttribute "Filter" .filter where
  value state entry := by
    rw [readFilterAttribute]
    split <;> simp_all [Vocabulary.write, Vocabulary.filter]
  reports state entry := by
    rw [readFilterAttribute, reportsOn]
    split <;> simp_all [Vocabulary.known, Vocabulary.filter]
  quiet := quiet_readFilterAttribute

/-- The attributes of a file's configuration. -/
def Vocabulary.fileConfiguration : Vocabulary FileEntry where
  fields :=
    [⟨"ExcludedFromBuild", fun value file =>
        if isYes value then { file with override := some ⟨true⟩ } else file⟩]
  ignored := ["Name"]
  commute := by simp

theorem reads_fileConfiguration :
    Reads readFileSetting "FileConfiguration" .fileConfiguration where
  value state entry := by
    rw [readFileSetting]
    split <;> simp_all [Vocabulary.write, Vocabulary.fileConfiguration]
  reports state entry := by
    rw [readFileSetting, reportsOn]
    split <;> simp_all [Vocabulary.known, Vocabulary.fileConfiguration]
  quiet := quiet_readFileSetting

end Kinds

end ProjectScribe.Reading.AttributeFormat
