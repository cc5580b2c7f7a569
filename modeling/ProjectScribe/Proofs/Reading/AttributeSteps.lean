import ProjectScribe.Proofs.Reading.LeftOut
import ProjectScribe.Reading.AttributeFormat

/-!
# What steps of the older format leave alone

Only the entry of a file leaves out a file. Whatever else is read is quiet: settings of tools and
configurations, what a filter, a file or a project says about itself, and notes about attributes
and elements that the format does not have. What attributes say changes neither the contents of a
filter nor the filters of a project.
-/
namespace ProjectScribe.Reading.AttributeFormat

open Xml (Attribute Element)

section Notes

@[simp] theorem quiet_noteUnlessKnown (known : List String) (owner name : String) :
    Quiet (noteUnlessKnown known owner name) := by
  rw [noteUnlessKnown, quiet_noteIf]
  exact fun _ => rfl

@[simp] theorem quiet_noteElementUnlessKnown (known : List String) (owner name : String) :
    Quiet (noteElementUnlessKnown known owner name) := by
  rw [noteElementUnlessKnown, quiet_noteIf]
  exact fun _ => rfl

end Notes

section Files

/-- What an attribute says about a filter leaves what is in it. -/
theorem readFilterAttribute_keeps (filter : FilterNode) (entry : Attribute) :
    (readFilterAttribute filter entry).value.children = filter.children ∧
      (readFilterAttribute filter entry).value.files = filter.files := by
  rw [readFilterAttribute]
  split <;> simp

theorem quiet_readFilterAttribute (filter : FilterNode) (entry : Attribute) :
    Quiet (readFilterAttribute filter entry) := by
  rw [readFilterAttribute]
  split <;> simp

theorem quiet_readFileSetting (file : FileEntry) (entry : Attribute) :
    Quiet (readFileSetting file entry) := by
  rw [readFileSetting]
  split <;> simp

theorem quiet_readFileConfiguration (file : FileEntry) (element : Element) :
    Quiet (readFileConfiguration file element) := by
  rw [readFileConfiguration, quiet_bind]
  constructor
  · apply quiet_fold
    intro state entry _
    exact quiet_readFileSetting state entry
  · split <;> exact quiet_pure _

end Files

section Tools

theorem quiet_readCompilerAttribute (state : Configuration × CompilerSettings)
    (entry : Attribute) : Quiet (readCompilerAttribute state entry) := by
  obtain ⟨configuration, compiler⟩ := state
  rw [readCompilerAttribute]
  split <;> simp

theorem quiet_readCompiler (configuration : Configuration) (tool : Element) :
    Quiet (readCompiler configuration tool) := by
  rw [readCompiler, quiet_bind]
  constructor
  · apply quiet_fold
    intro state entry _
    exact quiet_readCompilerAttribute state entry
  · exact quiet_pure _

theorem quiet_readLinkerAttribute (tool : String) (linker : LinkerSettings) (entry : Attribute) :
    Quiet (readLinkerAttribute tool linker entry) := by
  rw [readLinkerAttribute]
  split <;> simp

theorem quiet_readLinker (tool : Element) : Quiet (readLinker tool) :=
  quiet_fold _ _ _ fun linker entry _ => quiet_readLinkerAttribute _ linker entry

end Tools

section Configurations

theorem quiet_readConfigurationAttribute (configuration : Configuration) (entry : Attribute) :
    Quiet (readConfigurationAttribute configuration entry) := by
  rw [readConfigurationAttribute]
  split <;> simp

theorem quiet_readTool (configuration : Configuration) (tool : Element) :
    Quiet (readTool configuration tool) := by
  simp only [readTool]
  split
  · simp [Note.leftOut?]
  · split
    · exact quiet_readCompiler configuration tool
    · split
      · simp [quiet_readLinker]
      · simp [Note.leftOut?]

theorem quiet_readConfiguration (element : Element) : Quiet (readConfiguration element) := by
  rw [readConfiguration, quiet_bind]
  constructor
  · apply quiet_fold
    intro configuration entry _
    exact quiet_readConfigurationAttribute configuration entry
  · apply quiet_fold
    intro configuration tool _
    exact quiet_readTool configuration tool

theorem quiet_addConfiguration (configurations : List Configuration) (element : Element) :
    Quiet (addConfiguration configurations element) := by
  rw [addConfiguration]
  split
  · simp [quiet_readConfiguration]
  · simp [Note.leftOut?]

end Configurations

section Projects

theorem quiet_readProjectAttribute (project : Project) (entry : Attribute) :
    Quiet (readProjectAttribute project entry) := by
  rw [readProjectAttribute]
  split <;> simp

/-- What an attribute says about a project leaves its filters. -/
theorem readProjectAttribute_keeps (project : Project) (entry : Attribute) :
    (readProjectAttribute project entry).value.filters = project.filters := by
  rw [readProjectAttribute]
  split <;> simp

/-- What the attributes say about a project leaves its filters. -/
theorem readProjectAttributes_keep (project : Project) (attributes : List Attribute) :
    (Reported.fold readProjectAttribute project attributes).value.filters = project.filters := by
  induction attributes generalizing project with
  | nil => rfl
  | cons entry rest inductionHypothesis =>
    exact (inductionHypothesis _).trans (readProjectAttribute_keeps project entry)

end Projects

end ProjectScribe.Reading.AttributeFormat
