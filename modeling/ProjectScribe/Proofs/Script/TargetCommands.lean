import ProjectScribe.Proofs.Script.Blocks
import ProjectScribe.Proofs.Script.SourceLists

/-!
# The target of a generated script

A script creates at most one target, outside of every block and before the configurations, and
just if the project has something to compile and its authoritative configuration a known kind. All
commands about the target come behind its creation, or stand in blocks under the condition that it
exists: so none of them is ever about a target that does not exist.

The script is taken apart into parts that leave the blocks as they find them and create nothing.
Most parts are sound wherever they stand. What a configuration says about the target is sound only
where the target is known to exist, and the condition around it sees to that.
-/
namespace ProjectScribe.Script

open Instruction (under openIf? closeIf? listed setVariable setList includeFile appendProperty
  setProperty)

/-- The heading of the block of a configuration. -/
def isHeading : Instruction → Bool
  | .comment text => Text.startsWith "Configuration \"".toList text.toList
  | _ => false

section Parts

/-- Knowledge that is not lost at the start of a block. -/
def Stable (known : Context → Prop) : Prop :=
  ∀ context condition, known context → known (context.within condition)

/-- A part of a script that creates no target, begins no configuration, leaves the blocks as they
are, and is sound wherever something is known. -/
structure Part (target : String) (known : Context → Prop) (instructions : List Instruction) :
    Prop where
  uncreating : ∀ instruction ∈ instructions, instruction.statement.isCreation = false
  headless : ∀ instruction ∈ instructions, isHeading instruction = false
  balanced : Balanced instructions
  sound : ∀ context, known context → Sound target context instructions

/-- Nothing has to be known. -/
def Anywhere (_ : Context) : Prop := True

theorem stable_anywhere : Stable Anywhere := fun _ _ _ => trivial

theorem stable_has (target : String) : Stable (·.Has target) :=
  fun _ condition has => has.within condition

namespace Part

variable {target : String} {known : Context → Prop} {first second instructions : List Instruction}

/-- A part creates nothing and has no headings. -/
theorem counts (part : Part target known instructions) :
    instructions.countP (·.statement.isCreation) = 0 ∧ instructions.countP isHeading = 0 := by
  rw [List.countP_eq_zero, List.countP_eq_zero]
  constructor
  · intro instruction listed
    simp [part.uncreating instruction listed]
  · intro instruction listed
    simp [part.headless instruction listed]

theorem nil : Part target known [] :=
  ⟨by simp, by simp, fun _ => rfl, fun _ _ => sound_nil⟩

theorem append (left : Part target known first) (right : Part target known second) :
    Part target known (first ++ second) where
  uncreating := List.forall_mem_append.mpr ⟨left.uncreating, right.uncreating⟩
  headless := List.forall_mem_append.mpr ⟨left.headless, right.headless⟩
  balanced := left.balanced.append right.balanced
  sound := by
    intro context here
    rw [sound_append_iff, left.balanced]
    exact ⟨left.sound context here, right.sound context here⟩

theorem flatMap {α : Type} {list : List α} {part : α → List Instruction}
    (parts : ∀ a ∈ list, Part target known (part a)) : Part target known (list.flatMap part) := by
  induction list with
  | nil => exact nil
  | cons a rest inductionHypothesis =>
    exact (parts a List.mem_cons_self).append
      (inductionHypothesis fun other listed => parts other (List.mem_cons_of_mem a listed))

/-- What is known before a block is enough for what is in it. -/
theorem inBlock (condition : Option String) (part : Part target known instructions)
    {outside : Context → Prop}
    (enough : ∀ context, outside context → known (context.within condition)) :
    Part target outside (under condition instructions) := by
  have each : ∀ property : Instruction → Bool,
      (∀ text, property (.openIf text) = false) → property .closeIf = false →
      (∀ instruction ∈ instructions, property instruction = false) →
      ∀ instruction ∈ under condition instructions, property instruction = false := by
    intro property opening closing inside instruction listed
    simp only [under, openIf?, closeIf?, List.mem_append, List.mem_map] at listed
    rcases listed with (⟨text, _, rfl⟩ | within) | ⟨_, _, rfl⟩
    · exact opening text
    · exact inside instruction within
    · exact closing
  exact {
    uncreating := each (·.statement.isCreation) (fun _ => rfl) rfl part.uncreating
    headless := each isHeading (fun _ => rfl) rfl part.headless
    balanced := part.balanced.under condition
    sound := fun context here => .under (part.sound _ (enough context here)) }

/-- A part that is sound anywhere is so in a block. -/
theorem under (part : Part target Anywhere instructions) (condition : Option String) :
    Part target Anywhere (under condition instructions) :=
  part.inBlock condition fun _ _ => trivial

/-- A part that is sound where the target is known is sound anywhere under the condition that the
target exists. -/
theorem guarded (part : Part target (·.Has target) instructions) :
    Part target Anywhere (Instruction.under (some (Context.existence target)) instructions) :=
  part.inBlock _ fun context _ => context.has_within_existence target

/-- An instruction that is neither a command nor the border of a block. -/
theorem silent (instruction : Instruction) (meaning : instruction.statement = .nothing)
    (headless : isHeading instruction = false) : Part target known [instruction] where
  uncreating := by simp [meaning, Statement.isCreation]
  headless := by simpa using headless
  balanced := by
    intro context
    simp [Context.run, meaning, Context.after]
  sound := by
    intro context _
    rw [sound_cons_iff, meaning]
    exact ⟨fun addressing => absurd addressing (by decide), sound_nil⟩

/-- What creates no target creates none of any name. -/
theorem created?_of_uncreating {statement : Statement} (uncreating : statement.isCreation = false) :
    statement.created? = none := by
  unfold Statement.created?
  split
  · simp [Statement.isCreation] at uncreating
  · simp [Statement.isCreation] at uncreating
  · rfl

/-- A command that creates no target. If it is about a target, this one has to be known. -/
theorem command (instruction : Instruction) {name : String} {arguments : List String}
    (meaning : instruction.statement = .runs name arguments)
    (headless : isHeading instruction = false)
    (uncreating : (Statement.runs name arguments).isCreation = false)
    (fits : (Statement.runs name arguments).isAddressing = true →
      (Statement.runs name arguments).addressed? = some target ∧
        ∀ context, known context → context.Has target) :
    Part target known [instruction] where
  uncreating := by simpa [meaning] using uncreating
  headless := by simpa using headless
  balanced := by
    intro context
    rw [Context.run, List.foldl_cons, List.foldl_nil, meaning, Context.after,
      created?_of_uncreating uncreating]
    split <;> rfl
  sound := by
    intro context here
    rw [sound_cons_iff, meaning]
    exact ⟨fun addressing => ⟨(fits addressing).1, (fits addressing).2 context here⟩, sound_nil⟩

/-- A command that has nothing to do with targets. -/
theorem plain (name : String) (arguments : List String)
    (uncreating : (Statement.runs name arguments).isCreation = false)
    (unaddressing : (Statement.runs name arguments).isAddressing = false) :
    Part target known [.command name arguments] :=
  command (.command name arguments) rfl rfl uncreating fun addressing =>
    absurd addressing (by simp [unaddressing])

theorem blank : Part target known [.blank] := silent .blank rfl rfl

theorem listed (name : String) (head items : List String)
    (part : Part target known [.command name (head ++ items)]) :
    Part target known (listed name head items) := by
  unfold Instruction.listed
  split
  · exact nil
  · exact part

/-- Parts for platforms, each under the condition of its platform. -/
theorem byPlatform (stable : Stable known) (tokens : Mapping.PlatformTokens)
    {body : String → List String → List Instruction}
    (parts : ∀ platform list, Part target known (body platform list)) :
    Part target known (Source.byPlatform tokens body) :=
  flatMap fun (platform, list) _ =>
    (parts platform list).inBlock _ fun context here => stable context _ here

end Part

end Parts

/-- Only one instruction of a list has a property if none before it and none behind it has it. -/
theorem eq_of_split {α : Type} {property : α → Bool} {first second before after : List α} {a b : α}
    (split : first ++ a :: second = before ++ b :: after) (has : property b = true)
    (noneBefore : ∀ x ∈ first, property x = false) (noneBehind : ∀ x ∈ second, property x = false) :
    before = first ∧ b = a := by
  induction first generalizing before with
  | nil =>
    cases before with
    | nil => exact ⟨rfl, (List.cons.inj split).1.symm⟩
    | cons c before =>
      obtain ⟨-, rest⟩ := List.cons.inj split
      have listed : b ∈ second := by simp [rest]
      exact absurd has (by simp [noneBehind b listed])
  | cons c first inductionHypothesis =>
    cases before with
    | nil =>
      obtain ⟨rfl, -⟩ := List.cons.inj split
      exact absurd has (by simp [noneBefore c List.mem_cons_self])
    | cons d before =>
      obtain ⟨rfl, rest⟩ := List.cons.inj split
      obtain ⟨rfl, same⟩ := inductionHypothesis rest fun x listed =>
        noneBefore x (List.mem_cons_of_mem c listed)
      exact ⟨rfl, same⟩

namespace Source

variable {target : String} {known : Context → Prop}

section Front

theorem part_hook (place : Hook) : Part target known [hook place] := .plain _ _ rfl rfl

/-- The first line is a comment. -/
theorem statement_marker : (Instruction.line marker).statement = .nothing := by
  decide +kernel

theorem part_banner (source : Source) (now : Nat) : Part target known (source.banner now) := by
  have marked : Part target known [.line marker] := .silent _ statement_marker rfl
  have converted : ∀ text, Part target known [.comment ("Converted from " ++ text)] := by
    intro text
    refine .silent _ rfl ?_
    rw [isHeading, String.toList_append]
    rfl
  have generated : ∀ text, Part target known [.comment ("Generated at " ++ text)] := by
    intro text
    refine .silent _ rfl ?_
    rw [isHeading, String.toList_append]
    rfl
  rw [banner]
  refine ((marked.append ?_).append ?_).append .blank
  · split
    · simpa only [String.append_assoc] using converted _
    · exact .nil
  · split
    · simpa only [String.append_assoc] using generated _
    · exact .nil

theorem part_requirements (source : Source) : Part target Anywhere source.requirements := by
  have policiesSet : Part target Anywhere (policies.flatMap fun policy =>
      under (some ("POLICY " ++ policy.1))
        [.command "cmake_policy" ["SET", policy.1, policy.2]]) :=
    .flatMap fun _ _ => Part.under (.plain _ _ rfl rfl) _
  have rootSet : Part target Anywhere (under (some "NOT V2C_MASTER_PROJECT_SOURCE_DIR")
      [setVariable "V2C_MASTER_PROJECT_SOURCE_DIR" "$\x7bCMAKE_SOURCE_DIR\x7d"]) :=
    Part.under (.plain _ _ rfl rfl) _
  have version : Part target Anywhere
      [.command "cmake_minimum_required" ["VERSION", source.settings.minimumVersion], .blank] :=
    (Part.plain _ _ rfl rfl).append .blank
  refine (((version.append policiesSet).append .blank).append rootSet).append ?_
  exact (Part.plain _ _ rfl rfl).append
    ((Part.plain _ _ rfl rfl).append ((Part.plain _ _ rfl rfl).append .blank))

/-- What the lines mean that find out the platform. -/
theorem statements_platformDerivation : platformDerivation.map Statement.ofLine =
    [.opens "NOT V2C_BUILD_PLATFORM", .opens "CMAKE_SIZEOF_VOID_P EQUAL 8",
      .runs "set" ["V2C_BUILD_PLATFORM", "x64"], .turns,
      .runs "set" ["V2C_BUILD_PLATFORM", "Win32"], .closes, .closes] := by
  decide

theorem part_platformDerivation : Part target known (platformDerivation.map .line) := by
  have meant : ∀ text ∈ platformDerivation, (Statement.ofLine text).isCreation = false ∧
      (Statement.ofLine text).isAddressing = false := by
    have each : ∀ statement ∈ platformDerivation.map Statement.ofLine,
        statement.isCreation = false ∧ statement.isAddressing = false := by
      rw [statements_platformDerivation]
      decide
    exact List.forall_mem_map.mp each
  refine ⟨?_, ?_, ?_, ?_⟩
  · exact List.forall_mem_map.mpr fun text listed => (meant text listed).1
  · exact List.forall_mem_map.mpr fun _ _ => rfl
  · intro context
    have statements : context.run (platformDerivation.map .line) =
        (platformDerivation.map Statement.ofLine).foldl Context.after context := by
      rw [Context.run, List.foldl_map, List.foldl_map]
      rfl
    rw [statements, statements_platformDerivation]
    simp [Context.after]
  · intro context _ before instruction after split addressing
    have listed : instruction ∈ platformDerivation.map Instruction.line := by
      rw [split]
      simp
    obtain ⟨text, within, rfl⟩ := List.mem_map.mp listed
    exact absurd addressing (by simp [Instruction.statement, (meant text within).2])

theorem part_head (source : Source) (now : Nat) (asksForPlatform : Bool) :
    Part target Anywhere (source.head now asksForPlatform) := by
  have project : Part target Anywhere
      [hook .preProject, .command "project" [source.project.name], .blank] :=
    (part_hook _).append ((Part.plain _ _ rfl rfl).append .blank)
  refine (((part_banner source now).append (part_requirements source)).append project).append ?_
  rw [platformBlock]
  split
  · exact part_platformDerivation.append .blank
  · exact .nil

theorem part_directorySettings (source : Source) :
    Part target Anywhere source.directorySettings.value := by
  rw [directorySettings]
  cases source.authoritative with
  | none => exact .nil
  | some configuration =>
    have library : Part target Anywhere (mfcFlag configuration.mfc) := by
      cases configuration.mfc with
      | notUsed => exact .nil
      | static => exact .plain _ _ rfl rfl
      | dynamic => exact .plain _ _ rfl rfl
    refine ((library.append ?_).append ?_).append .blank
    · exact .byPlatform stable_anywhere _ fun _ _ => .listed _ _ _ (.plain _ _ rfl rfl)
    · exact .byPlatform stable_anywhere _ fun _ _ => .listed _ _ _ (.plain _ _ rfl rfl)

theorem part_groupSources (source : Source) (place : Nat) :
    Part target known (source.groupSources place).value := by
  rw [value_groupSources]
  dsimp only
  split
  · exact .nil
  · refine (Part.append ?_ ?_).append (.plain _ _ rfl rfl)
    · exact .listed _ _ _ (.plain _ _ rfl rfl)
    · split
      · exact .nil
      · exact .command _ rfl rfl rfl fun addressing => absurd addressing Bool.false_ne_true

theorem part_sources (source : Source) : Part target known source.sources.value := by
  rw [value_sources]
  exact (Part.flatMap fun place _ => part_groupSources source place).append
    ((part_hook _).append .blank)

/-- Everything before the target. -/
def front (source : Source) (now : Nat) : List Instruction :=
  source.head now (asksForPlatform source.body.notes) ++ source.directorySettings.value ++
    source.sources.value ++ [hook .postDefinitions, .blank]

theorem part_front (source : Source) (now : Nat) : Part target Anywhere (source.front now) :=
  (((part_head source now _).append (part_directorySettings source)).append
    (part_sources source)).append ((part_hook _).append .blank)

end Front

section Target

/-- A target is created just if the project has something to compile and its authoritative
configuration a known kind. -/
theorem creation_isSome_iff (source : Source) :
    source.creation.value.isSome = true ↔ source.project.hasBuildUnits = true ∧
      ∃ configuration, source.authoritative = some configuration ∧
        configuration.kind ≠ .unknown := by
  rw [creation]
  cases source.project.hasBuildUnits with
  | false => simp
  | true =>
    cases source.authoritative with
    | none => simp [creation?]
    | some configuration =>
      cases kind : configuration.kind <;> simp [creation?, kind]

/-- The command that creates the target creates it by the name of the project. -/
theorem created?_creation (source : Source) {command : Instruction}
    (creates : source.creation.value = some command) :
    command.statement.created? = some source.target ∧ command.statement.isCreation = true ∧
      command.statement.isAddressing = false ∧ isHeading command = false := by
  have kinds : ∀ kind, creation? source.target kind = some command →
      command.statement.created? = some source.target ∧ command.statement.isCreation = true ∧
        command.statement.isAddressing = false ∧ isHeading command = false := by
    intro kind made
    cases kind with
    | unknown => exact absurd made (by simp [creation?])
    | application =>
      obtain rfl := Option.some.inj made
      exact ⟨rfl, rfl, rfl, rfl⟩
    | dynamicLibrary =>
      obtain rfl := Option.some.inj made
      exact ⟨rfl, rfl, rfl, rfl⟩
    | staticLibrary =>
      obtain rfl := Option.some.inj made
      exact ⟨rfl, rfl, rfl, rfl⟩
  rw [creation] at creates
  split at creates
  · exact kinds _ creates
  · exact absurd creates (by simp)

/-- A property of the target may be changed where the target is known. -/
theorem part_property (source : Source) (arguments : List String) :
    Part source.target (·.Has source.target)
      [.command "set_property" ("TARGET" :: source.target :: arguments)] :=
  .command _ rfl rfl rfl fun _ => ⟨rfl, fun _ has => has⟩

theorem part_linkLibraries (source : Source) :
    Part source.target (·.Has source.target) source.linkLibraries.value := by
  rw [linkLibraries]
  cases source.authoritative with
  | none => exact .nil
  | some configuration =>
    have linked : ∀ names, Part source.target (·.Has source.target)
        [.command "target_link_libraries" ([source.target] ++ names)] := fun _ =>
      .command _ rfl rfl rfl fun _ => ⟨rfl, fun _ has => has⟩
    exact .byPlatform (stable_has _) _ fun _ names => .listed _ _ _ (linked names)

theorem part_bindings (source : Source) :
    Part source.target (·.Has source.target) source.bindings := by
  rw [bindings]
  dsimp only
  split
  · refine .flatMap fun (property, value) _ => ?_
    cases value with
    | none => exact .nil
    | some value => exact source.part_property _
  · exact .nil

/-- What stands behind the creation of the target in its section. -/
def behindCreation (source : Source) : List Instruction :=
  if source.creation.value.isSome then
    source.linkLibraries.value ++ source.bindings ++ [.blank]
  else [.blank]

/-- The section of the target begins with its creation, if it is created. -/
theorem value_targetSection (source : Source) :
    source.targetSection.value = source.creation.value.toList ++ source.behindCreation := by
  rw [targetSection, Reported.value_bind, behindCreation]
  cases source.creation.value with
  | none => rfl
  | some command => simp

/-- Behind the creation of the target there is nothing but parts that are sound where the target
is known, and without a creation nothing about the target. -/
theorem part_behindCreation (source : Source) :
    Part source.target (fun context => source.creation.value.isSome = true →
      context.Has source.target) source.behindCreation := by
  rw [behindCreation]
  split
  · next created =>
    have attached : Part source.target (·.Has source.target)
        (source.linkLibraries.value ++ source.bindings ++ [.blank]) :=
      (source.part_linkLibraries.append source.part_bindings).append .blank
    exact { attached with sound := fun context known => attached.sound context (known created) }
  · exact .blank

end Target

section Configurations

/-- What a configuration says about the target is sound where the target is known. -/
theorem part_settings (source : Source) (identifier : String)
    (defined ofDirectory ofConfiguration : Mapping.PlatformTokens) (compile link : List String) :
    Part source.target (·.Has source.target)
      (byPlatform defined (fun _ values =>
          appendProperty source.target ("COMPILE_DEFINITIONS_" ++ identifier) values) ++
        source.extraIncludes identifier ofDirectory ofConfiguration ++
        source.flagSection identifier compile link) := by
  have appended : ∀ property values, Part source.target (·.Has source.target)
      (appendProperty source.target property values) :=
    fun _ _ => .listed _ _ _ (source.part_property _)
  refine (Part.append ?_ ?_).append ?_
  · exact .byPlatform (stable_has _) _ fun _ _ => appended _ _
  · exact .byPlatform (stable_has _) _ fun _ _ => appended _ _
  · rw [flagSection]
    split
    · exact .nil
    · refine Part.inBlock _ ((appended _ _).append ?_) fun context here =>
        stable_has _ context _ here
      split
      · exact .nil
      · exact source.part_property _

/-- The block of a configuration begins with its heading. Behind that, all commands about the
target stand under the condition that it exists. -/
theorem configurationBlock_eq (source : Source) (ofDirectory : Mapping.PlatformTokens)
    (configuration : Configuration) :
    ∃ heading rest, (source.configurationBlock ofDirectory configuration).value =
        heading :: rest ∧ isHeading heading = true ∧ heading.statement = .nothing ∧
      Part source.target Anywhere rest := by
  have headed : isHeading (.comment ("Configuration \"" ++ configuration.fullName ++ "\"")) =
      true := by
    rw [isHeading, Text.startsWith, Option.isSome_iff_exists]
    exact ⟨_, Text.afterStart?_eq_some_iff.mpr (by rw [String.append_assoc, String.toList_append])⟩
  refine ⟨_, _, rfl, headed, rfl, ?_⟩
  exact ((source.part_settings _ _ _ _ _ _).guarded.under _).append .blank

/-- The blocks of all configurations. -/
def configurationBlocks (source : Source) : List Instruction :=
  source.project.configurations.flatMap fun configuration =>
    (source.configurationBlock source.directoryIncludes.value configuration).value

/-- The blocks of configurations are sound wherever they stand, create nothing and have one
heading each. -/
theorem configurationBlocks_sound (source : Source) :
    (∀ context, Sound source.target context source.configurationBlocks) ∧
      source.configurationBlocks.countP (·.statement.isCreation) = 0 ∧
      source.configurationBlocks.countP isHeading = source.project.configurations.length := by
  rw [configurationBlocks]
  induction source.project.configurations with
  | nil => exact ⟨fun _ => sound_nil, rfl, rfl⟩
  | cons configuration others inductionHypothesis =>
    obtain ⟨sound, uncreating, counted⟩ := inductionHypothesis
    obtain ⟨heading, rest, written, headed, comments, part⟩ :=
      source.configurationBlock_eq source.directoryIncludes.value configuration
    rw [List.flatMap_cons, written, List.cons_append]
    refine ⟨?_, ?_, ?_⟩
    · intro context
      rw [sound_cons_iff, comments, sound_append_iff]
      exact ⟨fun addressing => absurd addressing (by decide), part.sound _ trivial, sound _⟩
    · rw [List.countP_cons, List.countP_append, uncreating, part.counts.1]
      simp [comments, Statement.isCreation]
    · rw [List.countP_cons, List.countP_append, counted, part.counts.2]
      simp [headed]

end Configurations

/-- Everything behind the creation of the target. -/
def behind (source : Source) : List Instruction :=
  source.behindCreation ++ source.configurationBlocks ++ [hook .postTarget]

/-- A script consists of what comes before the target, the creation of the target, if there is
one, and what comes behind it. -/
theorem value_script (source : Source) (now : Nat) :
    (source.script now).value =
      source.front now ++ source.creation.value.toList ++ source.behind := by
  simp [script, body, front, behind, configurationBlocks, value_targetSection, List.flatMap]

/-- Everything behind the creation of the target creates nothing, has a heading for each
configuration, and is sound if the target is known in case it was created. -/
theorem behind_sound (source : Source) :
    source.behind.countP (·.statement.isCreation) = 0 ∧
      source.behind.countP isHeading = source.project.configurations.length ∧
      ∀ context : Context, (source.creation.value.isSome = true → context.Has source.target) →
        Sound source.target context source.behind := by
  obtain ⟨sound, uncreating, counted⟩ := source.configurationBlocks_sound
  have rest := source.part_behindCreation
  have ending : Part source.target Anywhere [hook .postTarget] := part_hook _
  refine ⟨?_, ?_, ?_⟩
  · rw [behind, List.countP_append, List.countP_append, rest.counts.1, uncreating, ending.counts.1]
  · rw [behind, List.countP_append, List.countP_append, rest.counts.2, counted, ending.counts.2]
    simp
  · intro context known
    rw [behind, sound_append_iff, sound_append_iff]
    exact ⟨⟨rest.sound context known, sound _⟩, ending.sound _ trivial⟩

/-- In every generated script at most one command creates a target, and one does just if the
project has something to compile and the authoritative configuration exists and has a known kind.
It creates the target of the project, outside of every block and before the blocks of all
configurations. Every command that links libraries to a target or changes a property of one is
about this target, and comes behind its creation or stands in a block under the condition that it
exists. So however the conditions of the script turn out, no such command is carried out for a
target that does not exist. -/
theorem script_targets (source : Source) (now : Nat) :
    let written := (source.script now).value
    written.countP (·.statement.isCreation) ≤ 1 ∧
      ((∃ instruction ∈ written, instruction.statement.isCreation = true) ↔
        source.project.hasBuildUnits = true ∧ ∃ configuration,
          source.authoritative = some configuration ∧ configuration.kind ≠ .unknown) ∧
      written.countP isHeading = source.project.configurations.length ∧
      (∀ before instruction after, written = before ++ instruction :: after →
        instruction.statement.isCreation = true →
          instruction.statement.created? = some source.target ∧
            (({} : Context).run before).blocks = [] ∧ before.countP isHeading = 0) ∧
      Sound source.target {} written ∧
      ∀ holds before instruction after, written = before ++ instruction :: after →
        instruction.statement.isAddressing = true →
          (Execution.run holds 0 {} before).isActive = true →
            argument source.target ∈ (Execution.run holds 0 {} before).targets := by
  intro written
  obtain ⟨uncreating, headings, soundBehind⟩ := source.behind_sound
  have front : Part source.target Anywhere (source.front now) := source.part_front now
  have parts : written = source.front now ++ source.creation.value.toList ++ source.behind :=
    source.value_script now
  have creates := source.creation_isSome_iff
  -- Whether the target is created decides what is known behind the front of the script.
  cases made : source.creation.value with
  | none =>
    rw [made, Option.toList_none, List.append_nil] at parts
    rw [made] at creates soundBehind
    have none : written.countP (·.statement.isCreation) = 0 := by
      rw [parts, List.countP_append, front.counts.1, uncreating]
    have uncreated : ∀ instruction ∈ written, instruction.statement.isCreation ≠ true :=
      fun instruction listed => List.countP_eq_zero.mp none instruction listed
    have sound : Sound source.target {} written := by
      rw [parts, sound_append_iff]
      exact ⟨front.sound _ trivial, soundBehind _ fun created => absurd created (by simp)⟩
    refine ⟨by omega, ?_, ?_, ?_, sound, sound.exists_target⟩
    · rw [← creates]
      constructor
      · rintro ⟨instruction, listed, creating⟩
        exact absurd creating (uncreated instruction listed)
      · intro created
        exact absurd created (by simp)
    · rw [parts, List.countP_append, front.counts.2, headings, Nat.zero_add]
    · intro before instruction after split creating
      exact absurd creating (uncreated instruction (by simp [split]))
  | some command =>
    obtain ⟨created, creating, unaddressing, noHeading⟩ := source.created?_creation made
    rw [made, Option.toList_some, List.append_assoc, List.singleton_append] at parts
    rw [made] at creates soundBehind
    have sound : Sound source.target {} written := by
      have known : (({} : Context).after command.statement).Has source.target :=
        Context.has_after_created rfl created
      rw [parts, sound_append_iff, front.balanced, sound_cons_iff]
      exact ⟨front.sound _ trivial, fun addressing => absurd addressing (by simp [unaddressing]),
        soundBehind _ fun _ => known⟩
    refine ⟨?_, ?_, ?_, ?_, sound, sound.exists_target⟩
    · rw [parts, List.countP_append, List.countP_cons, front.counts.1, uncreating]
      split <;> omega
    · rw [← creates]
      exact ⟨fun _ => rfl, fun _ => ⟨command, by simp [parts], creating⟩⟩
    · rw [parts, List.countP_append, List.countP_cons, front.counts.2, headings, noHeading]
      simp
    · intro before instruction after split creatingToo
      obtain ⟨rfl, rfl⟩ := eq_of_split (parts.symm.trans split) creatingToo front.uncreating
        fun other listed => by simpa using List.countP_eq_zero.mp uncreating other listed
      exact ⟨created, by rw [front.balanced], front.counts.2⟩

end Source

end ProjectScribe.Script
