import ProjectScribe.Proofs.Script.Standing

/-!
# Which commands the parts of a script use

Each part of a script uses few commands, and their names do not depend on the project. So a
command that only one part uses stands in that part, wherever it comes in the script.
-/
namespace ProjectScribe.Script

open Instruction (under listed setVariable setList includeFile appendProperty)
open Mapping (PlatformTokens)

variable {names others : List String} {name : String} {instruction : Instruction}
  {instructions first second : List Instruction}

section Uses

/-- Instructions run no commands but those with the given names. -/
def Uses (names : List String) (instructions : List Instruction) : Prop :=
  ∀ instruction ∈ instructions, ∀ name arguments,
    instruction.statement = .runs name arguments → name ∈ names

/-- Whether an instruction runs a command with the given name. -/
def isRunning (name : String) (instruction : Instruction) : Bool :=
  match instruction.statement with
  | .runs other _ => other == name
  | _ => false

namespace Uses

theorem nil : Uses names [] := fun _ listed => absurd listed List.not_mem_nil

theorem append (left : Uses names first) (right : Uses names second) :
    Uses names (first ++ second) :=
  List.forall_mem_append.mpr ⟨left, right⟩

theorem flatMap {α : Type} {list : List α} {part : α → List Instruction}
    (parts : ∀ a ∈ list, Uses names (part a)) : Uses names (list.flatMap part) :=
  List.forall_mem_flatMap.mpr parts

theorem mono (uses : Uses names instructions) (more : names ⊆ others) : Uses others instructions :=
  fun instruction listed name arguments runs => more (uses instruction listed name arguments runs)

theorem under (uses : Uses names instructions) (condition : Option String) :
    Uses names (under condition instructions) :=
  forall_mem_under (fun _ _ _ _ => nofun) uses fun _ _ => nofun

/-- A command with one of the names. -/
theorem command (among : name ∈ names) (arguments : List String) :
    Uses names [.command name arguments] := by
  rw [Uses, List.forall_mem_singleton]
  intro other _ runs
  obtain ⟨rfl, -⟩ := Statement.runs.inj runs
  exact among

/-- What means nothing is no command. -/
theorem silent (meaning : instruction.statement = .nothing) : Uses names [instruction] := by
  rw [Uses, List.forall_mem_singleton, meaning]
  exact fun _ _ => nofun

theorem listed (among : name ∈ names) (head items : List String) :
    Uses names (listed name head items) :=
  forall_mem_listed (List.forall_mem_singleton.mp (command among _))

theorem byPlatform {tokens : PlatformTokens} {body : String → List String → List Instruction}
    (parts : ∀ platform list, Uses names (body platform list)) :
    Uses names (Source.byPlatform tokens body) :=
  .flatMap fun bucket _ => (parts bucket.1 bucket.2).under _

/-- A command whose name is not used is not there. -/
theorem lacks (uses : Uses names instructions) (apart : name ∉ names) :
    Lacks name instructions :=
  fun arguments listed => apart (uses _ listed name arguments rfl)

theorem filter_isRunning (uses : Uses names instructions) (apart : name ∉ names) :
    instructions.filter (isRunning name) = [] := by
  rw [List.filter_eq_nil_iff]
  intro instruction listed runs
  unfold isRunning at runs
  split at runs
  · next other arguments meaning =>
    obtain rfl := eq_of_beq runs
    exact apart (uses instruction listed other arguments meaning)
  · exact Bool.false_ne_true runs

end Uses

end Uses

namespace Source

section Parts

theorem uses_hook (place : Hook) (among : "include" ∈ names) : Uses names [hook place] :=
  .command among _

theorem uses_banner (source : Source) (now : Nat) : Uses names (source.banner now) := by
  refine (((Uses.silent statement_marker).append ?_).append ?_).append (.silent rfl)
  · split
    · exact .silent rfl
    · exact .nil
  · split
    · exact .silent rfl
    · exact .nil

theorem uses_requirements (source : Source) :
    Uses ["cmake_minimum_required", "cmake_policy", "set", "list", "include"]
      source.requirements := by
  have version : Uses ["cmake_minimum_required", "cmake_policy", "set", "list", "include"]
      [.command "cmake_minimum_required" ["VERSION", source.settings.minimumVersion], .blank] :=
    (Uses.command (by decide) _).append (.silent rfl)
  refine (((version.append ?_).append (.silent rfl)).append ?_).append ?_
  · exact .flatMap fun _ _ => .under (.command (by decide) _) _
  · exact .under (.command (by decide) _) _
  · exact (Uses.command (by decide) _).append
      ((Uses.command (by decide) _).append ((Uses.command (by decide) _).append (.silent rfl)))

theorem uses_platformDerivation : Uses ["set"] (platformDerivation.map .line) := by
  have each : ∀ statement ∈ platformDerivation.map Statement.ofLine, ∀ name arguments,
      statement = .runs name arguments → name ∈ ["set"] := by
    rw [statements_platformDerivation]
    simp
  exact List.forall_mem_map.mpr fun text listed => each _ (List.mem_map_of_mem listed)

theorem uses_head (source : Source) (now : Nat) (asksForPlatform : Bool) :
    Uses ["cmake_minimum_required", "cmake_policy", "set", "list", "include", "project"]
      (source.head now asksForPlatform) := by
  refine (((source.uses_banner now).append (source.uses_requirements.mono (by simp))).append
    ?_).append ?_
  · exact (uses_hook _ (by decide)).append ((Uses.command (by decide) _).append (.silent rfl))
  · unfold platformBlock
    split
    · exact (uses_platformDerivation.mono (by simp)).append (.silent rfl)
    · exact .nil

theorem uses_mfcFlag (usage : LibraryUsage) : Uses ["set"] (mfcFlag usage) := by
  cases usage with
  | notUsed => exact .nil
  | static | dynamic => exact .command (by decide) _

theorem uses_directorySettings (source : Source) :
    Uses ["set", "include_directories", "link_directories"] source.directorySettings.value := by
  unfold directorySettings
  split
  · exact .nil
  · refine ((((uses_mfcFlag _).mono (by simp)).append ?_).append ?_).append (.silent rfl)
    · exact .byPlatform fun _ _ => .listed (by decide) _ _
    · exact .byPlatform fun _ _ => .listed (by decide) _ _

theorem uses_sources (source : Source) :
    Uses ["set", "source_group", "list", "include"] source.sources.value := by
  have group : ∀ place, Uses ["set", "source_group", "list", "include"]
      (source.groupSources place).value := by
    intro place
    rw [value_groupSources]
    dsimp only
    split
    · exact .nil
    · refine (Uses.append (.listed (by decide) _ _) ?_).append (.command (by decide) _)
      split
      · exact .nil
      · simp [Uses, Instruction.statement]
  rw [value_sources]
  exact .append (.flatMap fun place _ => group place)
    ((uses_hook _ (by decide)).append (.silent rfl))

theorem uses_creation (source : Source) :
    Uses ["add_executable", "add_library"] source.creation.value.toList := by
  intro command listed name arguments runs
  have creates := (source.created?_creation (Option.mem_toList.mp listed)).2.1
  rw [runs] at creates
  unfold Statement.isCreation at creates
  split at creates
  · next same => simp [(Statement.runs.inj same).1]
  · next same => simp [(Statement.runs.inj same).1]
  · exact absurd creates Bool.false_ne_true

theorem uses_behindCreation (source : Source) :
    Uses ["target_link_libraries", "set_property"] source.behindCreation := by
  have libraries : Uses ["target_link_libraries", "set_property"] source.linkLibraries.value := by
    unfold linkLibraries
    split
    · exact .nil
    · exact .byPlatform fun _ names => .listed (by decide) [source.target] names
  have bindings : Uses ["target_link_libraries", "set_property"] source.bindings := by
    unfold Source.bindings
    dsimp only
    split
    · refine .flatMap fun (property, value) _ => ?_
      exact List.forall_mem_map.mpr fun value _ =>
        List.forall_mem_singleton.mp (Uses.command (by decide) _)
    · exact .nil
  unfold behindCreation
  split
  · exact (libraries.append bindings).append (.silent rfl)
  · exact .silent rfl

theorem uses_configurationBlock (source : Source) (ofDirectory : PlatformTokens)
    (configuration : Configuration) :
    Uses ["set_property"] (source.configurationBlock ofDirectory configuration).value := by
  have property : ∀ property values,
      Uses ["set_property"] (appendProperty source.target property values) :=
    fun _ _ => .listed (by decide) _ _
  have flags : ∀ identifier compile link,
      Uses ["set_property"] (source.flagSection identifier compile link) := by
    intro identifier compile link
    unfold flagSection
    split
    · exact .nil
    · refine ((property _ _).append ?_).under _
      split
      · exact .nil
      · exact .command (by decide) _
  have settings : ∀ identifier compile link, Uses ["set_property"]
      (byPlatform (source.defines configuration).value (fun _ values =>
          appendProperty source.target ("COMPILE_DEFINITIONS_" ++ identifier) values) ++
        source.extraIncludes identifier ofDirectory (source.includeDirs configuration).value ++
        source.flagSection identifier compile link) := fun _ _ _ =>
    ((Uses.byPlatform fun _ _ => property _ _).append
      (.byPlatform fun _ _ => property _ _)).append (flags _ _ _)
  exact ((Uses.silent rfl).append (.under (.under (settings _ _ _) _) _)).append (.silent rfl)

/-- Behind the sources, a script creates the target and says what becomes of it. -/
theorem uses_behindSources (source : Source) :
    Uses ["include", "add_executable", "add_library", "target_link_libraries", "set_property"]
      ([hook .postDefinitions, .blank] ++ (source.creation.value.toList ++ source.behind)) := by
  have blocks : Uses ["set_property"] source.configurationBlocks :=
    .flatMap fun configuration _ => source.uses_configurationBlock _ configuration
  refine ((uses_hook _ (by decide)).append (.silent rfl)).append (.append ?_ ?_)
  · exact source.uses_creation.mono (by simp)
  · exact ((source.uses_behindCreation.mono (by simp)).append (blocks.mono (by simp))).append
      (uses_hook _ (by decide))

/-- A script has a head, the settings of the directory, the sources, and what is behind them. -/
theorem script_eq_parts (source : Source) (now : Nat) :
    (source.script now).value = source.head now (asksForPlatform source.body.notes) ++
      source.directorySettings.value ++ source.sources.value ++
        ([hook .postDefinitions, .blank] ++ (source.creation.value.toList ++ source.behind)) := by
  rw [value_script, front]
  simp only [List.append_assoc]

end Parts

end Source

end ProjectScribe.Script
