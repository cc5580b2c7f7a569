import ProjectScribe.Proofs.Reading.AttributeVocabulary
import ProjectScribe.Proofs.Reading.FileAccounting
import ProjectScribe.Proofs.Xml.Reordering

/-!
# The order of attributes

Reading a document in the older format comes to its elements one by one. At some of them attributes
are compared with those that are known, and others do not belong where they stand; what reading
reports, it reports element by element. Two documents that differ in the order of attributes only
are read alike: reading comes to corresponding elements in the same order, reports the same about
them up to the order of the reports on one element, leaves out the same files and makes the same
projects.
-/
namespace ProjectScribe.Reading.AttributeFormat

open Xml (AllReordered Attribute Element Reordered)

/-- What reading comes to: an element whose attributes are compared with known ones, under the name
by which it is reported, or an element that does not belong where it stands. -/
inductive Encounter where
  | holder (owner : String) (known : List String) (element : Element)
  | stray (owner name : String)

namespace Encounter

/-- The reports on what reading comes to: one for each attribute that is not known, or one for the
element itself. -/
def reports : Encounter → List Note
  | holder owner known element => element.attributes.flatMap (reportsOn owner known)
  | stray owner name => [.unknownElement .vcproj owner name]

/-- Corresponding encounters, with elements that differ in the order of attributes only. -/
inductive Same : Encounter → Encounter → Prop where
  | holder (owner : String) (known : List String) {first second : Element}
      (reordered : Reordered first second) :
      Same (.holder owner known first) (.holder owner known second)
  | stray (owner name : String) : Same (.stray owner name) (.stray owner name)

/-- The reports on corresponding elements are the same up to their order. -/
theorem Same.reports_perm {first second : Encounter} (same : Same first second) :
    first.reports.Perm second.reports := by
  cases same with
  | holder owner known reordered => exact reordered.attributes_perm.flatMap_right _
  | stray => exact .refl _

end Encounter

section Encounters

/-- An element that does not belong where it stands, if a condition says so. -/
def strayIf (condition : Bool) (owner name : String) : List Encounter :=
  if condition then [.stray owner name] else []

/-- What reading comes to at a tool of a configuration. -/
def toolEncounters (tool : Element) : List Encounter :=
  let name := tool.valueOf "Name"
  if tool.name ≠ "Tool" then [.stray "Configuration" tool.name]
  else if name = compilerTool then [.holder compilerTool Vocabulary.compiler.known tool]
  else if name ∈ linkerTools then [.holder name Vocabulary.linker.known tool]
  else strayIf (name ∉ ignoredTools) "Configuration" ("Tool Name=" ++ name)

/-- What reading comes to at a configuration: itself, and its tools. -/
def configurationEncounters (element : Element) : List Encounter :=
  if element.name = "Configuration" then
    .holder "Configuration" Vocabulary.configuration.known element ::
      element.children.flatMap toolEncounters
  else [.stray "Configurations" element.name]

mutual

/-- What reading comes to in a filter, with the reason for which its files are left out. -/
def filterEncounters (skip : Option SkipReason) : List Element → List Encounter
  | [] => []
  | entry :: rest => entryEncounters skip entry ++ filterEncounters skip rest

/-- What reading comes to at a filter or a file. At a file that is left out it comes to nothing. -/
def entryEncounters (skip : Option SkipReason) : Element → List Encounter
  | .mk name attributes text children =>
    let element : Element := .mk name attributes text children
    if name = "Filter" then
      .holder "Filter" Vocabulary.filter.known element ::
        filterEncounters (skip.or (ownSkipReason? element)) children
    else if name = "File" then
      if filePath element = "" then [.stray "Filter" "File without RelativePath"]
      else if (skip.or (skipReason? (filePath element))).isSome then []
      else .holder "File" fileAttributes element :: fileEncounters skip children
    else [.stray "Filter" name]

/-- What reading comes to in a file. -/
def fileEncounters (skip : Option SkipReason) : List Element → List Encounter
  | [] => []
  | part :: rest =>
    (if part.name = "FileConfiguration" then
        [.holder "FileConfiguration" Vocabulary.fileConfiguration.known part]
      else if part.name = "File" then entryEncounters skip part
      else [.stray "File" part.name]) ++ fileEncounters skip rest

end

/-- What reading comes to at a part of a project. -/
def partEncounters (part : Element) : List Encounter :=
  if part.name = "Configurations" then part.children.flatMap configurationEncounters
  else if part.name = "Files" then filterEncounters none part.children
  else strayIf (part.name ∉ ignoredProjectElements) "VisualStudioProject" part.name

/-- What reading comes to at a project. -/
def projectEncounters (element : Element) : List Encounter :=
  .holder "VisualStudioProject" Vocabulary.project.known element ::
    element.children.flatMap partEncounters

/-- What reading comes to in a document. -/
def encounters (document : Element) : List Encounter :=
  (projectElements document).flatMap projectEncounters

end Encounters

/-- Two readings alike: they come to the same value, leave out the same files, and report what they
come to, which corresponds one by one. -/
structure Alike {α : Type} (first second : Reading α) (met metToo : List Encounter) : Prop where
  value : first.value = second.value
  leftOut : leftOut first.notes = leftOut second.notes
  reports : unknowns first.notes = met.flatMap (·.reports)
  reportsToo : unknowns second.notes = metToo.flatMap (·.reports)
  same : List.Forall₂ Encounter.Same met metToo

namespace Alike

variable {α β : Type} {first second : Reading α} {met metToo more moreToo : List Encounter}

/-- A reading that reports nothing is like itself. -/
theorem ofSilent (reading : Reading α) (silent : unknowns reading.notes = []) :
    Alike reading reading [] [] :=
  ⟨rfl, rfl, silent, silent, .nil⟩

/-- Two steps in a row come to what both come to. -/
theorem bind {next nextToo : α → Reading β} (head : Alike first second met metToo)
    (tail : ∀ a, Alike (next a) (nextToo a) more moreToo) :
    Alike (first >>= next) (second >>= nextToo) (met ++ more) (metToo ++ moreToo) := by
  have further := tail first.value
  rw [show nextToo first.value = nextToo second.value by rw [head.value]] at further
  refine ⟨further.value, ?_, ?_, ?_, List.rel_append head.same further.same⟩
  · rw [Reported.notes_bind, Reported.notes_bind, leftOut_append, leftOut_append, head.leftOut,
      further.leftOut]
  · rw [Reported.notes_bind, unknowns_append, head.reports, further.reports, List.flatMap_append]
  · rw [Reported.notes_bind, unknowns_append, head.reportsToo, further.reportsToo,
      List.flatMap_append]

/-- A step that reports nothing comes to nothing more. -/
theorem beforeSilent {next : α → Reading β} (alike : Alike first second met metToo)
    (silent : ∀ a, unknowns (next a).notes = []) :
    Alike (first >>= next) (second >>= next) met metToo := by
  have both := alike.bind fun a => ofSilent (next a) (silent a)
  rwa [List.append_nil, List.append_nil] at both

/-- What is made of a value makes no difference. -/
theorem map (f : α → β) (alike : Alike first second met metToo) :
    Alike (first >>= fun a => pure (f a)) (second >>= fun a => pure (f a)) met metToo :=
  alike.beforeSilent fun _ => rfl

/-- An element that does not belong where it stands is reported. -/
theorem strayIf (condition : Bool) (owner name : String) :
    Alike (Reported.noteIf condition (.unknownElement .vcproj owner name))
      (Reported.noteIf condition (.unknownElement .vcproj owner name))
      (strayIf condition owner name) (strayIf condition owner name) := by
  cases condition with
  | false => exact ofSilent _ rfl
  | true => exact ⟨rfl, rfl, rfl, rfl, .cons (.stray owner name) .nil⟩

theorem stray (owner name : String) :
    Alike (Reported.note (.unknownElement .vcproj owner name))
      (Reported.note (.unknownElement .vcproj owner name))
      [.stray owner name] [.stray owner name] :=
  strayIf true owner name

/-- The attributes of corresponding elements are read alike. -/
theorem ofAttributes {step : α → Attribute → Reading α} {owner : String}
    {vocabulary : Vocabulary α} (reads : Reads step owner vocabulary) {element changed : Element}
    (reordered : Reordered element changed) (state : α) :
    Alike (Reported.fold step state element.attributes)
      (Reported.fold step state changed.attributes)
      [.holder owner vocabulary.known element] [.holder owner vocabulary.known changed] where
  value := reads.fold_perm reordered.attributes_perm reordered.once state
  leftOut := by rw [reads.quiet_fold, reads.quiet_fold]
  reports := by
    rw [reads.unknowns_fold, List.flatMap_singleton]
    rfl
  reportsToo := by
    rw [reads.unknowns_fold, List.flatMap_singleton]
    rfl
  same := .cons (.holder owner vocabulary.known reordered) .nil

/-- Corresponding elements are worked off alike if each of them is read alike. -/
theorem fold {step : α → Element → Reading α} {comesTo : Element → List Encounter}
    (each : ∀ {element changed : Element}, Reordered element changed → ∀ state,
      Alike (step state element) (step state changed) (comesTo element) (comesTo changed)) :
    ∀ {elements others : List Element}, AllReordered elements others → ∀ state,
      Alike (Reported.fold step state elements) (Reported.fold step state others)
        (elements.flatMap comesTo) (others.flatMap comesTo)
  | [], _, .nil, _ => ofSilent _ rfl
  | _ :: _, _, .cons head tail, state => (each head state).bind fun next => fold each tail next

end Alike

section Configurations

variable {element changed : Element}

theorem readCompiler_alike (configuration : Configuration)
    (reordered : Reordered element changed) :
    Alike (readCompiler configuration element) (readCompiler configuration changed)
      [.holder compilerTool Vocabulary.compiler.known element]
      [.holder compilerTool Vocabulary.compiler.known changed] :=
  (Alike.ofAttributes reads_compiler reordered (configuration, {})).map _

theorem readLinker_alike (reordered : Reordered element changed) :
    Alike (readLinker element) (readLinker changed)
      [.holder (element.valueOf "Name") Vocabulary.linker.known element]
      [.holder (changed.valueOf "Name") Vocabulary.linker.known changed] := by
  rw [readLinker, readLinker, ← reordered.valueOf_eq]
  exact Alike.ofAttributes (reads_linker _) reordered {}

/-- Tools are read alike. The name of a tool decides what it is. -/
theorem readTool_alike (reordered : Reordered element changed) (configuration : Configuration) :
    Alike (readTool configuration element) (readTool configuration changed)
      (toolEncounters element) (toolEncounters changed) := by
  have linker := readLinker_alike reordered
  simp only [readTool, toolEncounters, ← reordered.name_eq, ← reordered.valueOf_eq] at linker ⊢
  split
  · exact (Alike.stray _ _).map _
  · split
    · exact readCompiler_alike configuration reordered
    · split
      · exact linker.map _
      · exact (Alike.strayIf _ _ _).map _

theorem addConfiguration_alike (reordered : Reordered element changed)
    (configurations : List Configuration) :
    Alike (addConfiguration configurations element) (addConfiguration configurations changed)
      (configurationEncounters element) (configurationEncounters changed) := by
  rw [addConfiguration, addConfiguration, configurationEncounters, configurationEncounters,
    ← reordered.name_eq]
  split
  · have own := Alike.ofAttributes reads_configuration reordered
      (Configuration.ofName (element.valueOf "Name"))
    have read := own.bind fun configuration =>
      Alike.fold readTool_alike reordered.children configuration
    rw [readConfiguration, readConfiguration, ← reordered.valueOf_eq]
    exact read.map _
  · exact (Alike.stray _ _).map _

end Configurations

section Files

variable {element changed : Element}

/-- The attributes of a file are only compared with those that are known. -/
theorem fileAttributes_alike (reordered : Reordered element changed) :
    Alike
      (Reported.forEach (fun (entry : Attribute) => noteUnlessKnown fileAttributes "File" entry.name)
        element.attributes)
      (Reported.forEach (fun (entry : Attribute) => noteUnlessKnown fileAttributes "File" entry.name)
        changed.attributes)
      [.holder "File" fileAttributes element] [.holder "File" fileAttributes changed] where
  value := by
    rw [Reported.value_forEach, Reported.value_forEach]
    change element.attributes.map (fun _ => ()) = changed.attributes.map fun _ => ()
    rw [List.map_const', List.map_const', reordered.attributes_perm.length_eq]
  leftOut := by
    rw [quiet_forEach _ _ fun entry _ => quiet_noteUnlessKnown fileAttributes "File" entry.name,
      quiet_forEach _ _ fun entry _ => quiet_noteUnlessKnown fileAttributes "File" entry.name]
  reports := by
    rw [Reported.notes_forEach, unknowns_flatMap, List.flatMap_singleton]
    simp only [unknowns_noteUnlessKnown]
    rfl
  reportsToo := by
    rw [Reported.notes_forEach, unknowns_flatMap, List.flatMap_singleton]
    simp only [unknowns_noteUnlessKnown]
    rfl
  same := .cons (.holder "File" fileAttributes reordered) .nil

theorem readFileConfiguration_alike (reordered : Reordered element changed) (file : FileEntry) :
    Alike (readFileConfiguration file element) (readFileConfiguration file changed)
      [.holder "FileConfiguration" Vocabulary.fileConfiguration.known element]
      [.holder "FileConfiguration" Vocabulary.fileConfiguration.known changed] := by
  have tools : (element.children.any fun tool =>
        tool.name = "Tool" && tool.value? "Name" = some customBuildTool) =
      changed.children.any fun tool =>
        tool.name = "Tool" && tool.value? "Name" = some customBuildTool := by
    refine reordered.children.any_eq fun first second same => ?_
    rw [same.name_eq, same.value?_eq]
  rw [readFileConfiguration, readFileConfiguration, ← reordered.valueOf_eq, ← tools]
  refine (Alike.ofAttributes reads_fileConfiguration reordered file).beforeSilent fun file => ?_
  split <;> rfl

/-- What reading comes to at a file. -/
theorem entryEncounters_file (skip : Option SkipReason) (isFile : element.name = "File") :
    entryEncounters skip element =
      if filePath element = "" then [.stray "Filter" "File without RelativePath"]
      else if (skip.or (skipReason? (filePath element))).isSome then []
      else .holder "File" fileAttributes element :: fileEncounters skip element.children := by
  obtain ⟨name, attributes, text, children⟩ := element
  have isFile : name = "File" := isFile
  subst isFile
  rw [entryEncounters, if_neg (by decide), if_pos rfl]
  rfl

/-- Files are read alike if what stands in them is. Their paths are found in any order of
attributes. -/
theorem readEntry_file_alike (place : Nat) (skip : Option SkipReason) (tree : FilterTree)
    (reordered : Reordered element changed) (isFile : element.name = "File")
    (parts : ∀ file, Alike (readFileParts place skip file tree element.children)
      (readFileParts place skip file tree changed.children)
      (fileEncounters skip element.children) (fileEncounters skip changed.children)) :
    Alike (readEntry place skip tree element) (readEntry place skip tree changed)
      (entryEncounters skip element) (entryEncounters skip changed) := by
  have isFileToo : changed.name = "File" := reordered.name_eq ▸ isFile
  have path : filePath changed = filePath element := by
    rw [filePath, filePath, reordered.valueOf_eq]
  rw [readEntry_file _ _ _ _ isFile, readEntry_file _ _ _ _ isFileToo, entryEncounters_file _ isFile,
    entryEncounters_file _ isFileToo, path]
  by_cases pathless : filePath element = ""
  · simp only [if_pos pathless]
    exact (Alike.stray _ _).map _
  · simp only [if_neg pathless]
    cases skip.or (skipReason? (filePath element)) with
    | some reason => exact .ofSilent _ rfl
    | none =>
      refine (fileAttributes_alike reordered).bind fun _ => (parts _).beforeSilent fun read => ?_
      rw [Reported.notes_bind, Reported.notes_noteIf]
      split <;> rfl

mutual

/-- What stands in filters is read alike. -/
theorem readFilter_alike (place : Nat) (skip : Option SkipReason) (tree : FilterTree) :
    ∀ elements others : List Element, AllReordered elements others →
      Alike (readFilter place skip tree elements) (readFilter place skip tree others)
        (filterEncounters skip elements) (filterEncounters skip others)
  | [], [], .nil => by
    rw [readFilter, filterEncounters]
    exact .ofSilent _ rfl
  | first :: rest, second :: others, .cons head tail => by
    rw [readFilter, readFilter, filterEncounters, filterEncounters]
    exact (readEntry_alike place skip tree first second head).bind fun tree =>
      readFilter_alike place skip tree rest others tail

/-- Filters and files are read alike. What filters say about their files is found in any order of
attributes. -/
theorem readEntry_alike (place : Nat) (skip : Option SkipReason) (tree : FilterTree) :
    ∀ element changed : Element, Reordered element changed →
      Alike (readEntry place skip tree element) (readEntry place skip tree changed)
        (entryEncounters skip element) (entryEncounters skip changed)
  | .mk name attributes text children, .mk _ moved _ others, .mk perm once below => by
    have reordered : Reordered (.mk name attributes text children) (.mk name moved text others) :=
      .mk perm once below
    by_cases isFile : name = "File"
    · exact readEntry_file_alike place skip tree reordered isFile fun file =>
        readFileParts_alike place skip file tree children others below
    · have reason : ownSkipReason? (.mk name moved text others) =
          ownSkipReason? (.mk name attributes text children) := by
        rw [ownSkipReason?, ownSkipReason?, reordered.valueOf_eq, reordered.value?_eq]
      rw [readEntry, readEntry, entryEncounters, entryEncounters]
      simp only [if_neg isFile, reason, ← reordered.valueOf_eq]
      split
      · exact (Alike.ofAttributes reads_filter reordered _).bind fun filter =>
          readFilter_alike tree.size _ (tree.addChild place filter) children others below
      · exact (Alike.stray _ _).map _

/-- What stands in files is read alike. -/
theorem readFileParts_alike (place : Nat) (skip : Option SkipReason) (file : FileEntry)
    (tree : FilterTree) :
    ∀ parts others : List Element, AllReordered parts others →
      Alike (readFileParts place skip file tree parts) (readFileParts place skip file tree others)
        (fileEncounters skip parts) (fileEncounters skip others)
  | [], [], .nil => by
    rw [readFileParts, fileEncounters]
    exact .ofSilent _ rfl
  | first :: rest, second :: others, .cons head tail => by
    rw [readFileParts, readFileParts, fileEncounters, fileEncounters, ← head.name_eq]
    split
    · exact (readFileConfiguration_alike head file).bind fun file =>
        readFileParts_alike place skip file tree rest others tail
    · split
      · exact (readEntry_alike place skip tree first second head).bind fun tree =>
          readFileParts_alike place skip file tree rest others tail
      · exact (Alike.stray "File" first.name).bind fun _ =>
          readFileParts_alike place skip file tree rest others tail

end

end Files

section Projects

variable {element changed : Element}

theorem readProjectPart_alike (reordered : Reordered element changed) (project : Project) :
    Alike (readProjectPart project element) (readProjectPart project changed)
      (partEncounters element) (partEncounters changed) := by
  rw [readProjectPart, readProjectPart, partEncounters, partEncounters, ← reordered.name_eq]
  split
  · exact (Alike.fold addConfiguration_alike reordered.children project.configurations).map _
  · split
    · exact (readFilter_alike FilterTree.root none project.filters _ _ reordered.children).map _
    · exact (Alike.strayIf _ _ _).map _

theorem readProject_alike (reordered : Reordered element changed) :
    Alike (readProject element) (readProject changed)
      (projectEncounters element) (projectEncounters changed) := by
  have own := Alike.ofAttributes reads_project reordered { dialect := some .vcproj }
  rw [readProject, readProject]
  exact own.bind fun project =>
    (Alike.fold readProjectPart_alike reordered.children project).map _

/-- Corresponding projects are read alike, one after the other. -/
theorem readProjects_alike {elements others : List Element}
    (reordered : List.Forall₂ Reordered elements others) :
    Alike (Reported.forEach readProject elements) (Reported.forEach readProject others)
      (elements.flatMap projectEncounters) (others.flatMap projectEncounters) := by
  induction reordered with
  | nil => exact .ofSilent _ rfl
  | cons head _ inductionHypothesis =>
    exact (readProject_alike head).bind fun project => inductionHypothesis.map _

/-- The order of attributes is of no account where no element has two attributes of one name. It
changes neither the projects of a document nor the files that are left out. Reading comes to
corresponding elements in the same order, and reports about each of them the same, up to the order
of the reports on one element. -/
theorem readProjects_reordered {document changed : Element}
    (reordered : Reordered document changed) :
    (readProjects document).value = (readProjects changed).value ∧
      leftOut (readProjects document).notes = leftOut (readProjects changed).notes ∧
      unknowns (readProjects document).notes = (encounters document).flatMap (·.reports) ∧
      unknowns (readProjects changed).notes = (encounters changed).flatMap (·.reports) ∧
      List.Forall₂ (fun first second => first.Same second ∧ first.reports.Perm second.reports)
        (encounters document) (encounters changed) := by
  have named : ∀ {first second : Element}, Reordered first second →
      (first.name = "VisualStudioProject" ↔ second.name = "VisualStudioProject") :=
    fun same => by rw [same.name_eq]
  have projects : List.Forall₂ Reordered (projectElements document) (projectElements changed) := by
    refine List.rel_filter (fun first second same => ?_)
      (Reordered.withDescendants document changed reordered).forall₂
    simpa using named same
  have alike := readProjects_alike projects
  exact ⟨alike.value, alike.leftOut, alike.reports, alike.reportsToo,
    alike.same.imp fun first second same => ⟨same, same.reports_perm⟩⟩

/-- A project with unknown attributes, a file that is excluded and one that is left out. -/
def forwards : Element :=
  .mk "VisualStudioProject" [⟨"Name", "demo"⟩, ⟨"Odd", "1"⟩, ⟨"Even", "2"⟩] "" [
    .mk "Configurations" [] "" [
      .mk "Configuration" [⟨"Name", "Debug|Win32"⟩, ⟨"ConfigurationType", "2"⟩] "" [
        .mk "Tool" [⟨"Name", "VCCLCompilerTool"⟩, ⟨"RuntimeLibrary", "1"⟩] "" []]],
    .mk "Files" [] "" [
      .mk "Filter" [⟨"Name", "Sources"⟩, ⟨"SourceControlFiles", "false"⟩] "" [
        .mk "File" [⟨"RelativePath", "left.cpp"⟩, ⟨"Odd", "3"⟩] "" []],
      .mk "File" [⟨"RelativePath", "kept.cpp"⟩, ⟨"Odd", "4"⟩] "" [
        .mk "FileConfiguration" [⟨"Name", "Debug|Win32"⟩, ⟨"ExcludedFromBuild", "true"⟩] "" []]]]

/-- The same project with its attributes the other way round. -/
def backwards : Element :=
  .mk "VisualStudioProject" [⟨"Even", "2"⟩, ⟨"Odd", "1"⟩, ⟨"Name", "demo"⟩] "" [
    .mk "Configurations" [] "" [
      .mk "Configuration" [⟨"ConfigurationType", "2"⟩, ⟨"Name", "Debug|Win32"⟩] "" [
        .mk "Tool" [⟨"RuntimeLibrary", "1"⟩, ⟨"Name", "VCCLCompilerTool"⟩] "" []]],
    .mk "Files" [] "" [
      .mk "Filter" [⟨"SourceControlFiles", "false"⟩, ⟨"Name", "Sources"⟩] "" [
        .mk "File" [⟨"Odd", "3"⟩, ⟨"RelativePath", "left.cpp"⟩] "" []],
      .mk "File" [⟨"Odd", "4"⟩, ⟨"RelativePath", "kept.cpp"⟩] "" [
        .mk "FileConfiguration" [⟨"ExcludedFromBuild", "true"⟩, ⟨"Name", "Debug|Win32"⟩] "" []]]]

/-- The reports on the project come in another order, and all else is the same. -/
theorem readProjects_reordered_backwards :
    unknowns (readProjects forwards).notes ≠ unknowns (readProjects backwards).notes ∧
      leftOut (readProjects forwards).notes ≠ [] ∧
      (readProjects forwards).value = (readProjects backwards).value ∧
      leftOut (readProjects forwards).notes = leftOut (readProjects backwards).notes ∧
      List.Forall₂ (fun first second => first.Same second ∧ first.reports.Perm second.reports)
        (encounters forwards) (encounters backwards) := by
  have reordered : Reordered forwards backwards :=
    .mk (by decide) (by decide)
      (.cons (.mk (by decide) (by decide)
          (.cons (.mk (by decide) (by decide)
            (.cons (.mk (by decide) (by decide) .nil) .nil)) .nil))
        (.cons (.mk (by decide) (by decide)
            (.cons (.mk (by decide) (by decide)
                (.cons (.mk (by decide) (by decide) .nil) .nil))
              (.cons (.mk (by decide) (by decide)
                (.cons (.mk (by decide) (by decide) .nil) .nil)) .nil))) .nil))
  obtain ⟨value, skipped, -, -, same⟩ := readProjects_reordered reordered
  exact ⟨by decide, by decide, value, skipped, same⟩

end Projects

end ProjectScribe.Reading.AttributeFormat
