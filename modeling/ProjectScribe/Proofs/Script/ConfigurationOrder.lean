import ProjectScribe.Proofs.Script.Nesting
import ProjectScribe.Proofs.Script.PlatformBlock

/-!
# The order of configurations

The block of a configuration depends on the other configurations in two ways only: by the
authoritative configuration, whose directories it leaves out, and by whether there are several
platforms, in which case it stands under a condition. What stands before and behind the blocks
depends on the configurations in these two ways and by whether one of them asks for the platform.
So the order of the configurations decides nothing but the order of their blocks, as long as the
authoritative configuration stays the same.
-/
namespace ProjectScribe.Script.Source

open Instruction (under)

variable {source : Source} {configurations : List Configuration} {configuration : Configuration}

section Blocks

/-- The text of the block of a configuration. -/
def blockText (source : Source) (configuration : Configuration) : String :=
  text (source.configurationBlock source.directoryIncludes.value configuration).value

/-- The text of a script joins the texts of the blocks between what stands before and behind
them. -/
theorem value_scriptText (source : Source) (now : Nat) :
    (source.scriptText now).value =
      text (source.front now ++ source.creation.value.toList ++ source.behindCreation) ++
        String.join (source.project.configurations.map source.blockText) ++
        text [hook .postTarget] := by
  have before : Nested
      (source.front now ++ source.creation.value.toList ++ source.behindCreation) :=
    ((source.nested_front now).append source.nested_creation).append source.nested_behindCreation
  have each : ∀ configuration ∈ source.project.configurations, Nested
      (source.configurationBlock source.directoryIncludes.value configuration).value :=
    fun configuration _ => source.nested_configurationBlock _ configuration
  have blocks : Nested source.configurationBlocks := .flatMap each
  have parts : (source.script now).value =
      source.front now ++ source.creation.value.toList ++ source.behindCreation ++
        (source.configurationBlocks ++ [hook .postTarget]) := by
    rw [value_script, behind]
    simp only [List.append_assoc]
  have joined : text source.configurationBlocks =
      String.join (source.project.configurations.map source.blockText) := text_flatMap each
  rw [← joined, String.append_assoc]
  change text (source.script now).value = _
  rw [parts, text, before.textFrom_append, blocks.textFrom_append]
  rfl

/-- A block under a condition ends with the line that closes it. -/
theorem text_under {instructions : List Instruction} (nested : Nested instructions)
    (condition : String) :
    ∃ inner, text (under (some condition) instructions) = inner ++ "endif()\n" := by
  have written : under (some condition) instructions =
      (.openIf condition :: instructions) ++ [.closeIf] := rfl
  have depth : depthFrom 0 (.openIf condition :: instructions) = 1 := nested.depthFrom_eq 1
  have closed : textFrom 1 [.closeIf] = "endif()\n" := by decide
  rw [written, text, textFrom_append, depth, closed]
  exact ⟨_, rfl⟩

/-- The heading of a block begins with the same words whatever it names. -/
theorem text_heading (name : String) :
    ∃ rest, text [.comment ("Configuration \"" ++ name)] = "# Configuration \"" ++ rest := by
  have filled : "Configuration \"".toList ≠ [] := by decide
  obtain ⟨further, others, lines⟩ :=
    Text.lines_append filled (by decide) (by decide) name.toList
  have first : "# " ++ String.ofList ("Configuration \"".toList ++ further) =
      "# Configuration \"" ++ String.ofList further := by
    rw [String.ofList_append, String.ofList_toList, ← String.append_assoc]
    rfl
  have heading : Instruction.commentLines ("Configuration \"" ++ name) =
      ("# Configuration \"" ++ String.ofList further) :: others.map fun line =>
        if line.isEmpty then "#" else "# " ++ String.ofList line := by
    rw [Instruction.commentLines, String.toList_append, lines, List.map_cons, ← first]
    rfl
  have written : Instruction.lineAt 0 ("# Configuration \"" ++ String.ofList further) =
      "# Configuration \"" ++ (String.ofList further ++ "\n") := by
    rw [Instruction.lineAt, if_neg, String.append_assoc, String.append_assoc]
    · exact String.empty_append
    · intro empty
      have letters := congrArg String.toList empty
      simp at letters
  rw [text, textFrom, Instruction.textAt, Instruction.linesAt, heading, List.map_cons,
    String.join_cons, written, String.append_assoc, String.append_assoc]
  exact ⟨_, rfl⟩

/-- The block of a configuration begins with its heading and ends with an empty line behind the end
of a condition. -/
theorem blockText_eq (source : Source) (configuration : Configuration) :
    ∃ inner, source.blockText configuration =
      "# Configuration \"" ++ inner ++ "endif()\n\n" := by
  obtain ⟨settings, written, nested⟩ : ∃ settings,
      (source.configurationBlock source.directoryIncludes.value configuration).value =
        [.comment ("Configuration \"" ++ (configuration.fullName ++ "\""))] ++
          (under (source.configurationCondition configuration)
            (under (some (Context.existence source.target)) settings) ++ [.blank]) ∧
      Nested settings := by
    rw [← String.append_assoc]
    exact ⟨_, rfl, source.nested_settings _ _ _ _ _ _⟩
  have conditioned := nested.under (some (Context.existence source.target))
  have closed : ∃ inner, text (under (source.configurationCondition configuration)
      (under (some (Context.existence source.target)) settings)) = inner ++ "endif()\n" := by
    cases source.configurationCondition configuration with
    | none =>
      have unguarded : ∀ instructions, under none instructions = instructions := by
        simp [under, Instruction.openIf?, Instruction.closeIf?]
      rw [unguarded]
      exact text_under nested _
    | some condition => exact text_under conditioned condition
  obtain ⟨rest, heading⟩ := text_heading (configuration.fullName ++ "\"")
  obtain ⟨inner, guarded⟩ := closed
  have parts : source.blockText configuration =
      text [.comment ("Configuration \"" ++ (configuration.fullName ++ "\""))] ++
        (text (under (source.configurationCondition configuration)
          (under (some (Context.existence source.target)) settings)) ++ text [.blank]) := by
    have headed : Nested [.comment ("Configuration \"" ++ (configuration.fullName ++ "\""))] :=
      .one rfl
    rw [blockText, written, text, headed.textFrom_append, (conditioned.under _).textFrom_append]
    rfl
  have blank : text [.blank] = "\n" := by decide
  refine ⟨rest ++ inner, ?_⟩
  rw [parts, heading, guarded, blank]
  simp only [String.append_assoc]
  rfl

end Blocks

section Reordering

/-- A source with other configurations. -/
def withConfigurations (source : Source) (configurations : List Configuration) : Source :=
  { source with project := { source.project with configurations } }

variable (same : (source.withConfigurations configurations).authoritative = source.authoritative)
  (members : ∀ configuration,
    configuration ∈ configurations ↔ configuration ∈ source.project.configurations)

include members in
theorem isMultiPlatform_withConfigurations :
    (source.withConfigurations configurations).isMultiPlatform = source.isMultiPlatform := by
  rw [Bool.eq_iff_iff, isMultiPlatform_iff, isMultiPlatform_iff]
  simp only [withConfigurations, members]

include same in
theorem directorySettings_withConfigurations :
    (source.withConfigurations configurations).directorySettings = source.directorySettings := by
  unfold directorySettings
  rw [same]
  rfl

include same in
theorem creation_withConfigurations :
    (source.withConfigurations configurations).creation = source.creation := by
  unfold creation
  rw [same]
  rfl

include same in
theorem behindCreation_withConfigurations :
    (source.withConfigurations configurations).behindCreation = source.behindCreation := by
  have libraries : (source.withConfigurations configurations).linkLibraries =
      source.linkLibraries := by
    unfold linkLibraries
    rw [same]
    rfl
  rw [behindCreation, behindCreation, creation_withConfigurations same, libraries]
  rfl

include same members in
theorem blockText_withConfigurations :
    (source.withConfigurations configurations).blockText = source.blockText := by
  have includes : (source.withConfigurations configurations).directoryIncludes =
      source.directoryIncludes := by
    unfold directoryIncludes
    rw [same]
    rfl
  funext configuration
  have guard : (source.withConfigurations configurations).configurationCondition configuration =
      source.configurationCondition configuration := by
    rw [configurationCondition, configurationCondition, isMultiPlatform_withConfigurations members]
  rw [blockText, blockText, includes, configurationBlock, configurationBlock, guard]
  rfl

include same members in
theorem asksForPlatform_withConfigurations :
    asksForPlatform (source.withConfigurations configurations).body.notes =
      asksForPlatform source.body.notes := by
  have directory : (source.withConfigurations configurations).directoryTexts =
      source.directoryTexts := by
    rw [directoryTexts, directoryTexts, same]
  have libraries : (source.withConfigurations configurations).libraryTexts =
      source.libraryTexts := by
    rw [libraryTexts, libraryTexts, creation_withConfigurations same, same]
  have texts : ∀ text, text ∈ (source.withConfigurations configurations).bodyTexts ↔
      text ∈ source.bodyTexts := by
    intro text
    rw [bodyTexts, bodyTexts, directory, libraries, same]
    simp only [List.mem_append, List.mem_flatMap, withConfigurations, members]
    rfl
  rw [Bool.eq_iff_iff, asksForPlatform_body_iff, asksForPlatform_body_iff]
  simp only [texts]

include same members in
theorem front_withConfigurations (timeless : source.settings.emitsTimestamp = false)
    (now later : Nat) :
    (source.withConfigurations configurations).front later = source.front now := by
  have banner : (source.withConfigurations configurations).banner later = source.banner now :=
    source.banner_timeless timeless now later
  rw [front, front, head, head, banner, isMultiPlatform_withConfigurations members,
    asksForPlatform_withConfigurations same members, directorySettings_withConfigurations same]
  rfl

/-- If configurations change places and the authoritative one stays the same, then the text of a
script that does not tell when it was written stays the same, but for the order of the blocks of
the configurations. Each block, from its heading to the empty line behind it, stays the same. -/
theorem scriptText_reordered (source : Source) (configurations : List Configuration)
    (reordered : configurations.Perm source.project.configurations)
    (same : (source.withConfigurations configurations).authoritative = source.authoritative)
    (timeless : source.settings.emitsTimestamp = false) (now later : Nat) :
    ∃ before behind,
      (source.scriptText now).value =
        before ++ String.join (source.project.configurations.map source.blockText) ++ behind ∧
      ((source.withConfigurations configurations).scriptText later).value =
        before ++ String.join (configurations.map source.blockText) ++ behind ∧
      ∀ configuration, ∃ inner, source.blockText configuration =
        "# Configuration \"" ++ inner ++ "endif()\n\n" := by
  have members : ∀ configuration, configuration ∈ configurations ↔
      configuration ∈ source.project.configurations := fun _ => reordered.mem_iff
  refine ⟨_, _, source.value_scriptText now, ?_, source.blockText_eq⟩
  rw [value_scriptText, front_withConfigurations same members timeless now,
    creation_withConfigurations same, behindCreation_withConfigurations same,
    blockText_withConfigurations same members]
  rfl

/-- A source with three configurations, one of which is authoritative. -/
def ranked : Source where
  project := {
    name := "ranked"
    configurations := [{ buildType := "Debug", platform := "x64" },
      { buildType := "Release", platform := "x64", kind := .application },
      { buildType := "Release", platform := "Win32" }] }
  tables := {}
  settings := { authoritative := "Release", emitsTimestamp := false }
  fileName := "ranked.vcxproj"

/-- Another order of the configurations. -/
def rearranged : List Configuration :=
  [{ buildType := "Release", platform := "x64", kind := .application },
    { buildType := "Release", platform := "Win32" }, { buildType := "Debug", platform := "x64" }]

theorem scriptText_reordered_ranked :
    rearranged.Perm ranked.project.configurations ∧
      (ranked.withConfigurations rearranged).authoritative = ranked.authoritative ∧
      ranked.settings.emitsTimestamp = false ∧
      ∃ before behind,
        (ranked.scriptText 0).value =
          before ++ String.join (ranked.project.configurations.map ranked.blockText) ++ behind ∧
        ((ranked.withConfigurations rearranged).scriptText 1).value =
          before ++ String.join (rearranged.map ranked.blockText) ++ behind := by
  have reordered : rearranged.Perm ranked.project.configurations := by decide
  have same : (ranked.withConfigurations rearranged).authoritative = ranked.authoritative := by
    decide
  obtain ⟨before, behind, first, second, -⟩ :=
    scriptText_reordered ranked rearranged reordered same rfl 0 1
  exact ⟨reordered, same, rfl, before, behind, first, second⟩

end Reordering

end ProjectScribe.Script.Source
