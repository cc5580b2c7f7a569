import ProjectScribe.Proofs.Reading.LeftOut
import ProjectScribe.Reading.ElementFormat

/-!
# What steps of the newer format leave alone

Only the entry of a file item leaves out a file. All other steps are quiet: those that read
conditions, settings, declarations and properties, those that merge items, and those that enter
filters. Of a project file only its groups of items add to the items.
-/
namespace ProjectScribe.Reading.ElementFormat

open Xml (Element)

section Notes

@[simp] theorem quiet_noteUnlessKnown (known : List String) (owner name : String) :
    Quiet (noteUnlessKnown known owner name) := by
  rw [noteUnlessKnown, quiet_noteIf]
  exact fun _ => rfl

end Notes

section Conditions

theorem quiet_selected (condition : Option String) (configurations : List Configuration) :
    Quiet (selected condition configurations) := by
  cases condition with
  | none => exact quiet_pure _
  | some condition =>
    rw [selected]
    split <;> simp [Note.leftOut?]

/-- Steps for selected configurations are quiet if each of them is. -/
theorem quiet_forSelected (condition : Option String)
    (step : Configuration → Reading Configuration) (project : Project)
    (quiet : ∀ configuration, Quiet (step configuration)) :
    Quiet (forSelected condition step project) := by
  rw [forSelected, quiet_bind, quiet_bind]
  refine ⟨quiet_selected _ _, quiet_forEach _ _ fun configuration _ => ?_, quiet_pure _⟩
  split
  · exact quiet configuration
  · exact quiet_pure _

/-- Elements that are read for selected configurations are read quietly if each of them is. -/
theorem quiet_forSelected_fold (condition : Option String)
    (step : Configuration → Element → Reading Configuration) (elements : List Element)
    (project : Project) (quiet : ∀ configuration element, Quiet (step configuration element)) :
    Quiet (forSelected condition
      (fun configuration => Reported.fold step configuration elements) project) := by
  apply quiet_forSelected
  intro configuration
  apply quiet_fold
  intro configuration element _
  exact quiet configuration element

end Conditions

section Settings

theorem quiet_updateCompiler (configuration : Configuration)
    (change : CompilerSettings → Reading CompilerSettings)
    (quiet : ∀ compiler, Quiet (change compiler)) :
    Quiet (updateCompiler configuration change) := by
  rw [updateCompiler]
  split <;> simp [quiet]

theorem quiet_updateLinker (configuration : Configuration)
    (change : LinkerSettings → Reading LinkerSettings)
    (quiet : ∀ linker, Quiet (change linker)) : Quiet (updateLinker configuration change) := by
  rw [updateLinker]
  split <;> simp [quiet]

theorem quiet_readCompilerElement (name value : String) (compiler : CompilerSettings) :
    Quiet (readCompilerElement name value compiler) := by
  unfold readCompilerElement
  split <;> simp

theorem quiet_readCompilerSetting (configuration : Configuration) (element : Element) :
    Quiet (readCompilerSetting configuration element) := by
  rw [readCompilerSetting]
  split
  · simp
  · exact quiet_updateCompiler _ _ fun compiler => quiet_readCompilerElement _ _ compiler

theorem quiet_readLinkerElement (tool name value : String) (linker : LinkerSettings) :
    Quiet (readLinkerElement tool name value linker) := by
  unfold readLinkerElement
  split <;> simp

theorem quiet_readToolDefinition (configuration : Configuration) (tool : Element) :
    Quiet (readToolDefinition configuration tool) := by
  rw [readToolDefinition]
  split
  · apply quiet_fold
    intro configuration element _
    exact quiet_readCompilerSetting configuration element
  · split
    · apply quiet_fold
      intro configuration _ _
      exact quiet_updateLinker configuration _ fun linker => quiet_readLinkerElement _ _ _ linker
    · simp

theorem quiet_readConfigurationProperty (configuration : Configuration) (element : Element) :
    Quiet (readConfigurationProperty configuration element) := by
  rw [readConfigurationProperty]
  split <;> simp

theorem quiet_readGeneralProperty (configuration : Configuration) (element : Element) :
    Quiet (readGeneralProperty configuration element) := by
  rw [readGeneralProperty]
  split
  · exact quiet_updateLinker _ _ fun _ => quiet_pure _
  · simp

end Settings

section Declarations

theorem quiet_readDeclaration (element : Element) : Quiet (readDeclaration element) := by
  apply quiet_fold
  intro configuration part _
  split
  · exact quiet_pure _
  · split <;> simp

theorem quiet_addDeclaration (project : Project) (element : Element) :
    Quiet (addDeclaration project element) := by
  rw [addDeclaration]
  split <;> simp [quiet_readDeclaration]

theorem quiet_readGlobal (project : Project) (element : Element) :
    Quiet (readGlobal project element) := by
  rw [readGlobal]
  split <;> simp

/-- Nothing that a project file says besides its items leaves out a file. -/
theorem quiet_readProjectPart (state : Project × List Item) (element : Element) :
    Quiet (readProjectPart state element) := by
  obtain ⟨project, known⟩ := state
  simp only [readProjectPart]
  split
  · split
    · simp only [quiet_bind, quiet_pure, and_true]
      apply quiet_fold
      intro project part _
      exact quiet_addDeclaration project part
    · exact quiet_pure _
  · split
    · split
      · simp only [quiet_bind, quiet_pure, and_true]
        apply quiet_fold
        intro project part _
        exact quiet_readGlobal project part
      · split
        · simp only [quiet_bind, quiet_pure, and_true]
          exact quiet_forSelected_fold _ _ _ _ quiet_readConfigurationProperty
        · split
          · exact quiet_pure _
          · simp only [quiet_bind, quiet_pure, and_true]
            exact quiet_forSelected_fold _ _ _ _ quiet_readGeneralProperty
    · split
      · simp only [quiet_bind, quiet_pure, and_true]
        exact quiet_forSelected_fold _ _ _ _ quiet_readToolDefinition
      · simp

/-- The items of a project file: those of its groups, but for the groups of declarations. -/
def primaryItems (parts : List Element) : List Item :=
  (parts.filter fun part =>
    part.name = "ItemGroup" ∧ part.value? "Label" ≠ some "ProjectConfigurations").flatMap itemsOf

/-- What a part of a project file adds to the items. -/
theorem items_readProjectPart (project : Project) (known : List Item) (part : Element) :
    (readProjectPart (project, known) part).value.2 = known ++ primaryItems [part] := by
  simp only [readProjectPart, primaryItems]
  by_cases isGroup : part.name = "ItemGroup"
  · by_cases declares : part.value? "Label" = some "ProjectConfigurations"
    · simp [isGroup, declares]
    · simp [isGroup, declares]
  · rw [if_neg isGroup, List.filter_cons_of_neg (by simp [isGroup]), List.filter_nil,
      List.flatMap_nil, List.append_nil]
    split
    · split
      · rfl
      · split
        · rfl
        · split <;> rfl
    · split <;> rfl

/-- The items that are known after a project file. -/
theorem items_readProjectParts (state : Project × List Item) (parts : List Element) :
    (Reported.fold readProjectPart state parts).value.2 = state.2 ++ primaryItems parts := by
  induction parts generalizing state with
  | nil => exact (List.append_nil _).symm
  | cons part rest inductionHypothesis =>
    have entries : primaryItems (part :: rest) = primaryItems [part] ++ primaryItems rest := by
      rw [primaryItems, primaryItems, primaryItems, ← List.flatMap_append, ← List.filter_append,
        List.singleton_append]
    rw [Reported.fold, Reported.value_bind, inductionHypothesis, entries,
      items_readProjectPart state.1 state.2 part, List.append_assoc]

end Declarations

section Items

/-- Merging a companion leaves out no file. -/
theorem quiet_readCompanion (known : List Item) (companion : Option Element) :
    Quiet (readCompanion known companion) := by
  rw [readCompanion]
  split
  · exact quiet_pure _
  · apply quiet_fold
    intro known part _
    rw [readCompanionPart]
    split <;> simp

theorem quiet_readFileMetadata (kind : String) (file : FileEntry) (part : Metadata) :
    Quiet (readFileMetadata kind file part) := by
  rw [readFileMetadata]
  split <;> simp

theorem quiet_readFile (item : Item) (path : String) : Quiet (readFile item path) := by
  rw [readFile, quiet_bind]
  exact ⟨quiet_fold _ _ _ fun file part _ => quiet_readFileMetadata _ file part, quiet_pure _⟩

/-- Entering a filter leaves out no file. -/
theorem quiet_addFilter (tree : FilterTree) (item : Item) : Quiet (addFilter tree item) := by
  rw [addFilter, quiet_bind]
  exact ⟨quiet_forEach _ _ fun part _ => quiet_noteUnlessKnown _ _ _, quiet_pure _⟩

end Items

end ProjectScribe.Reading.ElementFormat
