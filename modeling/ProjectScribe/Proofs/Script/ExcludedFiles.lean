import ProjectScribe.Proofs.FilterTree.Padding
import ProjectScribe.Proofs.Script.PlatformBlock
import ProjectScribe.Proofs.Script.SourceLists

/-!
# Excluded files leave no trace

A script reads the tree of filters in two ways: for the lists of sources, and for whether the
project has files to build, which decides whether a target is created. Both read the groups of the
tree only, so trees that differ in excluded files only, and in filters that hold nothing else, have
the same script. The remarks are the same as well, and with them the decision whether the script
finds out the platform.
-/
namespace ProjectScribe.Script.Source

open FilterTree (Pads root)
open Instruction (setList)

section Groups

/-- The instructions for a group of sources: an assignment, the group, and the addition to the
list of all sources. -/
def groupInstructions (source : Source) (group : String × List FileEntry) : List Instruction :=
  let name := sourcesVariable group.1
  setList name (group.2.map fun file => (translate source.names file.path).value) ++
    (if group.1 = "" then []
      else [.verbatim "source_group" [groupLiteral group.1, "FILES", reference name]]) ++
    [.command "list" ["APPEND", "SOURCES", reference name]]

/-- The instructions for the sources are those for the groups of the tree. -/
theorem value_sources_of_groups (source : Source) :
    source.sources.value = source.project.filters.builtGroups.flatMap source.groupInstructions ++
      [hook .postSources, .blank] := by
  have each : ∀ place, (source.groupSources place).value =
      (source.project.filters.builtGroup place).flatMap source.groupInstructions := by
    intro place
    have paths : source.builtPaths place = (source.project.filters.builtAt place).map fun file =>
        (translate source.names file.path).value := rfl
    rw [value_groupSources, FilterTree.builtGroup, paths]
    by_cases nothing : source.project.filters.builtAt place = []
    · simp [nothing]
    · simp only [List.isEmpty_iff, List.map_eq_nil_iff, if_neg nothing, List.flatMap_singleton]
      rfl
  simp only [value_sources, each, FilterTree.builtGroups, List.flatMap_assoc]

/-- The texts that are translated for the sources are the paths of the files in the groups. -/
theorem sourceTexts_of_groups (source : Source) :
    source.sourceTexts =
      source.project.filters.builtGroups.flatMap fun group => group.2.map (·.path) := by
  have each : ∀ place, ((source.project.filters.filesAt place).filter (!·.isExcluded)).map
      (·.path) = (source.project.filters.builtGroup place).flatMap fun group =>
        group.2.map (·.path) := by
    intro place
    rw [FilterTree.builtGroup]
    split
    · next nothing => exact congrArg (List.map _) nothing
    · rw [List.flatMap_singleton]
      rfl
  simp only [sourceTexts, each, FilterTree.builtGroups, List.flatMap_assoc]

end Groups

section Exchange

/-- A source whose project has another tree of filters, for which it is worked out anew whether
there are files to build. -/
def withFilters (source : Source) (filters : FilterTree) : Source :=
  { source with project := { source.project with filters }.markBuildUnits }

variable (source : Source) {fewer more : FilterTree}
  (same : more.builtGroups = fewer.builtGroups)

include same

theorem sources_withFilters :
    (source.withFilters more).sources = (source.withFilters fewer).sources := by
  apply Reported.ext
  · rw [value_sources_of_groups, value_sources_of_groups]
    exact congrArg (·.flatMap (source.withFilters fewer).groupInstructions ++ _) same
  · rw [notes_sources, notes_sources, sourceTexts_of_groups, sourceTexts_of_groups]
    exact congrArg (fun groups => (source.withFilters fewer).remarksOn
      (groups.flatMap fun group => group.2.map (·.path))) same

theorem targetSection_withFilters (shapedFewer : fewer.Shaped) (shapedMore : more.Shaped) :
    (source.withFilters more).targetSection = (source.withFilters fewer).targetSection := by
  have marked : (source.withFilters more).project.hasBuildUnits =
      (source.withFilters fewer).project.hasBuildUnits := by
    change more.files.any FileEntry.isBuildUnit = fewer.files.any FileEntry.isBuildUnit
    rw [shapedMore.any_isBuildUnit, shapedFewer.any_isBuildUnit, same]
  have creation : (source.withFilters more).creation = (source.withFilters fewer).creation := by
    rw [creation, creation, marked]
    rfl
  rw [targetSection, targetSection, creation]
  rfl

theorem body_withFilters (shapedFewer : fewer.Shaped) (shapedMore : more.Shaped) :
    (source.withFilters more).body = (source.withFilters fewer).body := by
  rw [body, body, source.sources_withFilters same,
    source.targetSection_withFilters same shapedFewer shapedMore]
  rfl

end Exchange

/-- Excluded files leave no trace in a script that does not tell when it was written. If one tree
of filters has what another one has and, anywhere in it, excluded files and filters down from which
there are only excluded files, then the scripts have the same text and there is the same to say
about them. -/
theorem scriptText_padded (source : Source) {fewer more : FilterTree} (grownFewer : fewer.Grown)
    (grownMore : more.Grown) (pads : Pads fewer more root root)
    (timeless : source.settings.emitsTimestamp = false) (now later : Nat) :
    (source.withFilters more).scriptText later = (source.withFilters fewer).scriptText now := by
  have groups := FilterTree.builtGroups_padded grownFewer.shaped grownMore.shaped pads
  have body := source.body_withFilters groups grownFewer.shaped grownMore.shaped
  have atOnce : (source.withFilters more).scriptText now =
      (source.withFilters fewer).scriptText now := by
    rw [scriptText, scriptText, script, script, body]
    rfl
  rw [(source.withFilters more).scriptText_timeless timeless now later, atOnce]

/-- A tree with a file at the root and a file in a filter. -/
def tidy : FilterTree :=
  ((FilterTree.empty.addFile 0 { path := "main.cpp" }).addChild 0 { name := "Sub" }).addFile 1
    { path := "a.cpp" }

/-- The same with a file that is excluded and asks for the platform, and with a filter in front of
the other one, that has a file with a build tool of its own and a filter without files. -/
def cluttered : FilterTree :=
  ((((((FilterTree.empty.addFile 0
    { path := "$(Platform)/gone.cpp", override := some { excludedFromBuild := true } }).addFile 0
    { path := "main.cpp" }).addChild 0 { name := "Old" }).addFile 1
    { path := "x.cpp", customBuild := some "Custom build" }).addChild 1
    { name := "Deeper" }).addChild 0 { name := "Sub" }).addFile 3 { path := "a.cpp" }

/-- A source of an application that does not tell when its script was written. -/
def silent : Source where
  project := {
    name := "p"
    configurations := [{ buildType := "Debug", platform := "x64", kind := .application }] }
  tables := {}
  settings := { emitsTimestamp := false }
  fileName := "p.vcxproj"

theorem scriptText_padded_cluttered :
    tidy.Grown ∧ cluttered.Grown ∧ Pads tidy cluttered root root ∧
      silent.settings.emitsTimestamp = false ∧
      (silent.withFilters cluttered).scriptText 1 = (silent.withFilters tidy).scriptText 0 := by
  have grownTidy : tidy.Grown :=
    ((FilterTree.Grown.empty.addFile 0 _).addChild 0 _ (by decide) rfl).addFile 1 _
  have grownCluttered : cluttered.Grown :=
    ((((((FilterTree.Grown.empty.addFile 0 _).addFile 0 _).addChild 0 _ (by decide) rfl).addFile
      1 _).addChild 1 _ (by decide) rfl).addChild 0 _ (by decide) rfl).addFile 3 _
  have hollow : cluttered.Hollow 1 := by
    rw [grownCluttered.shaped.hollow_iff (by decide)]
    decide
  have sub : Pads tidy cluttered 1 3 := .agree (by decide) (.kept rfl .nil) .nil
  have pads : Pads tidy cluttered root root :=
    .agree (by decide) (.extra rfl (.kept rfl .nil)) (.extra hollow (.kept sub .nil))
  exact ⟨grownTidy, grownCluttered, pads, rfl,
    scriptText_padded silent grownTidy grownCluttered pads rfl 0 1⟩

end ProjectScribe.Script.Source
