import ProjectScribe.Proofs.Project.Acceptance
import ProjectScribe.Proofs.Script.ArgumentReading
import ProjectScribe.Proofs.Script.PlatformBlock

/-!
# What tells the blocks of configurations apart

The block of a configuration sets properties of the target under the condition of its platform, if
there are several, and each of these properties is for the identifier of its build type only: by
its name, or by each of its values. So the blocks of two configurations set the same property for
the same builds only if their conditions and their identifiers are the same. In the script of an
accepted project about whose identifiers nothing is recorded, this is so for no two configurations,
unless quotes in platforms confuse their conditions.
-/
namespace ProjectScribe.Script.Source

open Instruction (under)
open Mapping (PlatformTokens)

variable {source : Source} {configuration first second : Configuration}

section Blocks

/-- What the block of a configuration has for the target: the borders of blocks, and commands that
set properties for one identifier only. -/
inductive SetsFor (target identifier : String) : Instruction → Prop where
  | opening (condition : String) : SetsFor target identifier (.openIf condition)
  | closing : SetsFor target identifier .closeIf
  | definitions (values : List String) :
    SetsFor target identifier (.command "set_property" (["TARGET", target, "APPEND", "PROPERTY",
      "COMPILE_DEFINITIONS_" ++ identifier] ++ values))
  | linkFlags (flags : String) :
    SetsFor target identifier (.command "set_property" ["TARGET", target, "APPEND_STRING",
      "PROPERTY", "LINK_FLAGS_" ++ identifier, flags])
  | only (property : String) (values : List String) :
    SetsFor target identifier (.command "set_property" (["TARGET", target, "APPEND", "PROPERTY",
      property] ++ values.map (onlyIn identifier)))

/-- A block that sets properties of a target under a guard, for one identifier. -/
def IsBlockFor (target : String) (guard : Option String) (identifier : String)
    (block : List Instruction) : Prop :=
  ∃ heading settings, block = .comment heading ::
      (under guard (under (some (Context.existence target)) settings) ++ [.blank]) ∧
    ∀ instruction ∈ settings, SetsFor target identifier instruction

/-- The block of a configuration sets properties under the condition of its platform, for the
identifier of its build type. -/
theorem isBlockFor_configurationBlock (ofDirectory : PlatformTokens) :
    IsBlockFor source.target (source.configurationCondition configuration)
      (configurationIdentifier configuration.buildType)
      (source.configurationBlock ofDirectory configuration).value := by
  refine ⟨_, _, rfl, List.forall_mem_append.mpr ⟨List.forall_mem_append.mpr ⟨?_, ?_⟩, ?_⟩⟩
  · exact forall_mem_byPlatform (fun _ _ _ text _ => .opening text)
      (fun _ values _ => forall_mem_listed (.definitions values)) .closing
  · exact forall_mem_byPlatform (fun _ _ _ text _ => .opening text)
      (fun _ _ _ => forall_mem_listed (.only _ _)) .closing
  · unfold flagSection
    split
    · simp
    · refine forall_mem_under (fun text _ => .opening text)
        (List.forall_mem_append.mpr ⟨forall_mem_listed (.only _ _), ?_⟩) .closing
      split
      · simp
      · simpa using .linkFlags _

end Blocks

section Keys

/-- Platforms without quotes are told apart by their conditions, if there are several. -/
theorem platform_eq_of_condition (amongFirst : first ∈ source.project.configurations)
    (amongSecond : second ∈ source.project.configurations)
    (unquoted : '"' ∉ first.platform.toList) (unquotedToo : '"' ∉ second.platform.toList)
    (same : source.configurationCondition first = source.configurationCondition second) :
    first.platform = second.platform := by
  unfold configurationCondition at same
  split at same
  · have arguments : argument first.platform = argument second.platform := by
      have letters := congrArg String.toList (Option.some.inj same)
      simpa [String.toList_inj] using letters
    exact (argument_inj unquoted unquotedToo).mp arguments
  · next single =>
    rw [isMultiPlatform_iff] at single
    by_contra apart
    exact single ⟨first, amongFirst, second, amongSecond, apart⟩

/-- The blocks of a script are those of the configurations, in order, and each of them sets
properties under a guard, for one identifier. If the project is accepted and nothing is recorded
about its identifiers, and platforms have no quotes, then no two blocks agree in both their guards
and their identifiers. -/
theorem configurationBlocks_apart (source : Source) (now : Nat) (settings : Settings)
    (accepted : (source.project.validate settings).value = none)
    (unrecorded : (source.project.validate settings).notes = [])
    (unquoted : ∀ configuration ∈ source.project.configurations,
      '"' ∉ configuration.platform.toList) :
    let block := fun configuration =>
      (source.configurationBlock source.directoryIncludes.value configuration).value
    let guard := source.configurationCondition
    let identifier := fun configuration : Configuration =>
      configurationIdentifier configuration.buildType
    (∃ before behind, (source.script now).value =
        before ++ source.project.configurations.flatMap block ++ behind ∧
      ∀ instruction ∈ before ++ behind, isHeading instruction = false) ∧
    (∀ configuration ∈ source.project.configurations, IsBlockFor source.target
      (guard configuration) (identifier configuration) (block configuration)) ∧
    source.project.configurations.Pairwise fun first second =>
      guard first ≠ guard second ∨ identifier first ≠ identifier second := by
  intro block guard identifier
  obtain ⟨differing, recorded⟩ := Project.accepted_configurations accepted
  refine ⟨⟨source.front now ++ source.creation.value.toList ++ source.behindCreation,
    [hook .postTarget], ?_, ?_⟩, fun _ _ => isBlockFor_configurationBlock _, ?_⟩
  · rw [value_script, behind, configurationBlocks]
    simp [block]
  · have front : Part source.target Anywhere (source.front now) := source.part_front now
    have ending : Part source.target Anywhere [hook .postTarget] := part_hook _
    have creation : ∀ command ∈ source.creation.value.toList, isHeading command = false :=
      fun command created => (source.created?_creation (Option.mem_toList.mp created)).2.2.2
    simp only [List.forall_mem_append]
    exact ⟨⟨⟨front.headless, creation⟩, source.part_behindCreation.headless⟩, ending.headless⟩
  · refine differing.imp_of_mem fun {first second} amongFirst amongSecond differs => ?_
    by_contra agree
    rw [not_or, not_not, not_not] at agree
    obtain ⟨sameGuard, sameIdentifier⟩ := agree
    exact differs
      (recorded.mp unrecorded first amongFirst second amongSecond sameIdentifier)
      (platform_eq_of_condition amongFirst amongSecond (unquoted first amongFirst)
        (unquoted second amongSecond) sameGuard)

/-- A project with three configurations, two of which agree in their platform and two in their build
type. -/
def threeConfigurations : Source where
  project := {
    dialect := some .vcxproj
    name := "three"
    configurations := [{ buildType := "Debug", platform := "Win32" },
      { buildType := "Release", platform := "Win32" },
      { buildType := "Release", platform := "Any CPU" }] }
  tables := {}
  settings := {}
  fileName := "three.vcxproj"

theorem configurationBlocks_apart_three :
    (threeConfigurations.project.validate {}).value = none ∧
      (threeConfigurations.project.validate {}).notes = [] ∧
      threeConfigurations.project.configurations.Pairwise fun first second =>
        threeConfigurations.configurationCondition first ≠
            threeConfigurations.configurationCondition second ∨
          configurationIdentifier first.buildType ≠ configurationIdentifier second.buildType := by
  have accepted : (threeConfigurations.project.validate {}).value = none := by decide
  have unrecorded : (threeConfigurations.project.validate {}).notes = [] := by decide +kernel
  have unquoted : ∀ configuration ∈ threeConfigurations.project.configurations,
      '"' ∉ configuration.platform.toList := by decide
  obtain ⟨-, -, apart⟩ :=
    configurationBlocks_apart threeConfigurations 0 {} accepted unrecorded unquoted
  exact ⟨accepted, unrecorded, apart⟩

end Keys

end ProjectScribe.Script.Source
