import Mathlib.Logic.Function.Basic
import ProjectScribe.Proofs.FilterTree.DepthFirst
import ProjectScribe.Script.Assembly

/-!
# What the source lists of a script add up to

A script gathers its sources filter by filter: it sets a variable to the files of a filter, and
appends what that variable holds to the list of all sources. Names of variables keep letters and
digits only, so several filters may share one; then a later assignment replaces an earlier one.

The assignments are carried out here in order, on arguments as they are before they are quoted.
Each filter's list is appended right after it was set, so sharing a variable does no harm, and in
the end the list of all sources has every file that is not excluded once.
-/
namespace ProjectScribe.Script

open Instruction (setList listed)

/-- The lists that variables hold. A variable that was never set holds nothing. -/
abbrev Store := String → List String

namespace Store

/-- No variable set. -/
def unset : Store := fun _ => []

/-- The name to which an argument refers, if it is one reference and nothing else. -/
def referenced? (argument : String) : Option String :=
  match argument.toList with
  | '$' :: '\x7b' :: rest =>
    if rest.dropWhile (· ≠ '\x7d') = ['\x7d'] then
      some (String.ofList (rest.takeWhile (· ≠ '\x7d')))
    else none
  | _ => none

/-- The values for which an argument stands. -/
def valuesOf (store : Store) (argument : String) : List String :=
  match referenced? argument with
  | some name => store name
  | none => [argument]

/-- Carry out one instruction. An assignment replaces the list of its variable, and what is
appended to a list comes behind it; other instructions leave the variables alone. -/
def execute (store : Store) : Instruction → Store
  | .command "set" (name :: values) => Function.update store name values
  | .command "list" ("APPEND" :: name :: arguments) =>
    Function.update store name (store name ++ arguments.flatMap store.valuesOf)
  | _ => store

/-- Carry out instructions in order. -/
def run (store : Store) (instructions : List Instruction) : Store :=
  instructions.foldl execute store

theorem run_append (store : Store) (first second : List Instruction) :
    store.run (first ++ second) = (store.run first).run second :=
  List.foldl_append ..

/-- A reference to a variable is read as one if the name has no closing brace. -/
theorem referenced?_reference (name : String) (plain : ∀ c ∈ name.toList, c ≠ '\x7d') :
    referenced? (Source.reference name) = some name := by
  have written : (Source.reference name).toList = '$' :: '\x7b' :: (name.toList ++ ['\x7d']) := by
    simp [Source.reference]
  have within : ∀ c ∈ name.toList, decide (c ≠ '\x7d') = true := by
    simpa using plain
  rw [referenced?, written]
  simp only [List.dropWhile_append_of_pos within, List.takeWhile_append_of_pos within]
  simp

end Store

namespace Source

open Store (unset)

/-- The names of variables for sources have no closing brace. -/
theorem plain_sourcesVariable (group : String) :
    ∀ c ∈ (sourcesVariable group).toList, c ≠ '\x7d' := by
  have part : ∀ c ∈ (variablePart group).toList, c ≠ '\x7d' := by
    intro c inside
    simp only [variablePart, String.toList_ofList, List.mem_map] at inside
    obtain ⟨original, _, rfl⟩ := inside
    split
    · next allowed =>
      rintro rfl
      exact absurd allowed (by decide)
    · decide
  intro c inside
  simp only [sourcesVariable] at inside
  split at inside
  · have plain : ∀ c ∈ "SOURCES_files".toList, c ≠ '\x7d' := by simp
    exact plain c inside
  · simp only [String.toList_append, List.mem_append] at inside
    rcases inside with fixed | varying
    · have plain : ∀ c ∈ "SOURCES_files_".toList, c ≠ '\x7d' := by simp
      exact plain c fixed
    · exact part c varying

/-- The variable for a filter is never the list of all sources. -/
theorem sourcesVariable_ne (group : String) : sourcesVariable group ≠ "SOURCES" := by
  intro same
  have lengths := congrArg String.length same
  simp only [sourcesVariable] at lengths
  split at lengths
  · exact absurd lengths (by decide)
  · rw [String.length_append] at lengths
    have long : "SOURCES_files_".length = 14 := by decide
    have short : "SOURCES".length = 7 := by decide
    omega

/-- The files directly in a filter that are not excluded, as they are written in the script. -/
def builtPaths (source : Source) (place : Nat) : List String :=
  ((source.project.filters.filesAt place).filter (!·.isExcluded)).map fun file =>
    (translate source.names file.path).value

/-- The instructions for a filter: none if it has no files to build, and else an assignment, its
group, and the addition to the list of all sources. -/
theorem value_groupSources (source : Source) (place : Nat) :
    (source.groupSources place).value =
      let group := source.project.filters.pathOf place
      let name := sourcesVariable group
      if (source.builtPaths place).isEmpty then [] else
        setList name (source.builtPaths place) ++
          (if group = "" then []
            else [.verbatim "source_group" [groupLiteral group, "FILES", reference name]]) ++
          [.command "list" ["APPEND", "SOURCES", reference name]] := by
  have files : (translateAll source.names (((source.project.filters.filesAt place).filter
      (!·.isExcluded)).map (·.path))).value = source.builtPaths place := by
    simp [translateAll, builtPaths, Function.comp_def]
  simp only [groupSources, Reported.value_bind, files]
  split <;> rfl

/-- One filter adds its files to the list of all sources, whatever the variables hold before. -/
theorem run_groupSources (source : Source) (place : Nat) (store : Store) :
    store.run (source.groupSources place).value "SOURCES" =
      store "SOURCES" ++ source.builtPaths place := by
  rw [value_groupSources]
  generalize source.project.filters.pathOf place = group
  by_cases nothing : source.builtPaths place = []
  · simp [nothing, Store.run]
  · have built : (source.builtPaths place).isEmpty = false := by simpa using nothing
    have apart := sourcesVariable_ne group
    have referred := Store.referenced?_reference (sourcesVariable group)
      (plain_sourcesVariable group)
    -- The group is no assignment, so the cases with and without it agree.
    have assigned : store.run (setList (sourcesVariable group) (source.builtPaths place) ++
        (if group = "" then [] else [.verbatim "source_group"
          [groupLiteral group, "FILES", reference (sourcesVariable group)]])) =
        Function.update store (sourcesVariable group) (source.builtPaths place) := by
      rw [setList, listed, built]
      by_cases unnamed : group = "" <;> simp only [unnamed, if_true, if_false] <;> rfl
    simp only [built, Bool.false_eq_true, if_false, Store.run_append, assigned]
    simp [Store.run, Store.execute, Store.valuesOf, referred, Ne.symm apart]

/-- Several filters add their files one after the other. -/
theorem run_groups (source : Source) (places : List Nat) (store : Store) :
    store.run (places.flatMap fun place => (source.groupSources place).value) "SOURCES" =
      store "SOURCES" ++ places.flatMap source.builtPaths := by
  induction places generalizing store with
  | nil => simp [Store.run]
  | cons place rest inductionHypothesis =>
    rw [List.flatMap_cons, Store.run_append, inductionHypothesis, run_groupSources,
      List.flatMap_cons, List.append_assoc]

/-- The instructions for all sources are those for the filters, from the root down, and the file
of the user. -/
theorem value_sources (source : Source) :
    source.sources.value =
      ((FilterTree.root :: source.project.filters.walk).flatMap fun place =>
        (source.groupSources place).value) ++ [hook .postSources, .blank] := by
  simp [sources, List.flatMap]

/-- The file of the user sets nothing here, so that the sources are those of the filters. -/
theorem run_sources_eq (source : Source) (store : Store) :
    store.run source.sources.value "SOURCES" = store "SOURCES" ++
      (FilterTree.root :: source.project.filters.walk).flatMap source.builtPaths := by
  have passed : ∀ store : Store, store.run [hook .postSources, .blank] = store :=
    fun _ => rfl
  rw [value_sources, Store.run_append, passed, run_groups]

/-- Carrying out the assignments for the sources gives the list of all sources exactly the files
that are not excluded, translated, each once: first those of the root, then those of the filters
in depth first, each filter before the filters in it and filters side by side as they were added.
This holds for any names of filters, also where several share a variable. -/
theorem sources_complete (source : Source) (grown : source.project.filters.Grown) :
    ∃ order, source.project.filters.DepthFirst order ∧
      unset.run source.sources.value "SOURCES" = order.flatMap source.builtPaths ∧
      (unset.run source.sources.value "SOURCES").Perm
        ((source.project.filters.files.filter (!·.isExcluded)).map fun file =>
          (translate source.names file.path).value) := by
  have ordered := grown.shaped.depthFirst_walk
  have gathered := run_sources_eq source unset
  rw [show unset "SOURCES" = [] from rfl, List.nil_append] at gathered
  refine ⟨_, ordered, gathered, ?_⟩
  have built : ∀ places : List Nat, places.flatMap source.builtPaths =
      ((places.flatMap source.project.filters.filesAt).filter (!·.isExcluded)).map fun file =>
        (translate source.names file.path).value := by
    intro places
    rw [List.filter_flatMap, List.map_flatMap]
    rfl
  rw [gathered, built]
  exact (ordered.files_perm.filter _).map _

/-- A source whose root has a file and whose filters, of different names, share one variable. -/
def sharing : Source where
  project := {
    filters := ((((FilterTree.empty.addFile 0 { path := "main.cpp" }).addChild 0
      { name := "a b" }).addFile 1 { path := "$(ProjectDir)x.cpp" }).addChild 0
      { name := "a-b" }).addFile 2 { path := "y.cpp" } }
  tables := {}
  settings := {}
  fileName := "p.vcproj"

theorem sources_complete_sharing :
    sharing.project.filters.Grown ∧
      (∃ order, sharing.project.filters.DepthFirst order ∧
        unset.run sharing.sources.value "SOURCES" = order.flatMap sharing.builtPaths ∧
        (unset.run sharing.sources.value "SOURCES").Perm
          ((sharing.project.filters.files.filter (!·.isExcluded)).map fun file =>
            (translate sharing.names file.path).value)) ∧
      unset.run sharing.sources.value "SOURCES" =
        ["main.cpp", "$\x7bPROJECT_SOURCE_DIR\x7d/x.cpp", "y.cpp"] := by
  have grown : sharing.project.filters.Grown :=
    ((((FilterTree.Grown.empty.addFile 0 _).addChild 0 _ (by decide) rfl).addFile 1 _).addChild
      0 _ (by decide) rfl).addFile 2 _
  exact ⟨grown, sources_complete sharing grown, by decide⟩

end Source

end ProjectScribe.Script
