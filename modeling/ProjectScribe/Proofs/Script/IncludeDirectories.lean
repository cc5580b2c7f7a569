import ProjectScribe.Proofs.Script.CommandNames
import ProjectScribe.Proofs.Script.Placement

/-!
# Where the target of a script finds headers

The directories in which the authoritative configuration seeks headers are given to everything
that a script builds. What other directories a configuration has is added to the target, for this
configuration only. Both are done platform by platform, under the conditions of the platforms.

So for each configuration, platform and directory there is one place: it is given to all or added
for the configuration. What is added in a block for a configuration and a platform is nothing but
the directories that are not given to all.
-/
namespace ProjectScribe.Script.Source

open Instruction (under listed appendProperty)
open Mapping (PlatformTokens)

variable {source : Source} {context : Context} {blocks : List (Option String)}
  {platform other directory : String} {configuration : Configuration}

section Conditions

/-- The blocks for a platform, outside of all others. -/
def platformBlocks (platform : String) : List (Option String) :=
  (platformCondition platform).toList.map some

/-- Two platforms are one if they have the same condition. -/
theorem platformCondition_injective : Function.Injective platformCondition := by
  intro platform other same
  unfold platformCondition at same
  split at same
  · next every =>
    split at same
    · next otherEvery => exact every.trans otherEvery.symm
    · exact absurd same (by simp)
  · split at same
    · exact absurd same (by simp)
    · exact Option.some.inj same

theorem platformBlocks_injective : Function.Injective platformBlocks := by
  intro platform other same
  apply platformCondition_injective
  have lists := List.map_injective_iff.mpr (fun _ _ => Option.some.inj) same
  exact Option.ext fun condition => by rw [← Option.mem_toList, lists, Option.mem_toList]

/-- Values for one configuration are the same only if they are so without it. -/
theorem onlyIn_injective (identifier : String) : Function.Injective (onlyIn identifier) := by
  intro value other same
  have letters := congrArg String.toList same
  simp only [onlyIn, String.toList_append, List.append_cancel_left_eq,
    List.append_cancel_right_eq] at letters
  exact String.toList_inj.mp letters

end Conditions

section Directory

/-- Instructions give a directory to everything that a script builds for a platform. -/
def Gives (instructions : List Instruction) (platform directory : String) : Prop :=
  ∃ dirs, Stands {} instructions (platformBlocks platform) (.command "include_directories" dirs) ∧
    directory ∈ dirs

/-- The settings of the directory give the directories of the authoritative configuration. -/
theorem stands_directorySettings_iff {dirs : List String} :
    Stands {} source.directorySettings.value blocks (.command "include_directories" dirs) ↔
      ∃ platform, (platform, dirs) ∈ source.directoryIncludes.value.toList ∧
        platformBlocks platform = blocks := by
  rw [directorySettings, directoryIncludes]
  cases source.authoritative with
  | none => simp [not_stands_nil, PlatformTokens.toList, PlatformTokens.empty]
  | some configuration =>
    have library : Balanced (mfcFlag configuration.mfc) := by
      cases configuration.mfc with
      | notUsed => exact fun _ => rfl
      | static | dynamic => exact balanced_command rfl
    have lacksLibrary : Lacks "include_directories" (mfcFlag configuration.mfc) :=
      (uses_mfcFlag _).lacks (by decide)
    have linked : Uses ["link_directories"] (byPlatform (source.libraryDirs configuration).value
        fun _ dirs => listed "link_directories" [] dirs) :=
      .byPlatform fun _ _ => .listed (by decide) _ _
    have nowhere : Lacks "include_directories" _ := linked.lacks (by decide)
    have balanced : ∀ dirs, Balanced (listed "include_directories" [] dirs) :=
      fun _ => .listed (balanced_command rfl)
    simp only [Reported.value_bind, Reported.value_pure]
    have ending : Lacks "include_directories" [.blank] := by simp [Lacks]
    rw [stands_append_iff, stands_append_iff, stands_append_iff, library,
      stands_byPlatform_iff _ fun _ dirs => balanced dirs]
    simp only [lacksLibrary.not_stands, nowhere.not_stands, ending.not_stands, stands_listed_iff,
      List.nil_append, Instruction.command.injEq, true_and, false_or, or_false]
    constructor
    · rintro ⟨platform, dirs, bucket, -, rfl, rfl⟩
      exact ⟨platform, bucket, by simp [platformBlocks, Context.within]⟩
    · rintro ⟨platform, bucket, rfl⟩
      refine ⟨platform, dirs, bucket, ?_, rfl, by simp [platformBlocks, Context.within]⟩
      exact ((PlatformTokens.mem_toList_iff (source.orderly_place _ _)).mp bucket).2

/-- The only commands of a script that give directories are among the settings of the directory. -/
theorem script_eq_directorySettings (source : Source) (now : Nat) :
    ∃ before behind, (source.script now).value =
        before ++ source.directorySettings.value ++ behind ∧ Balanced before ∧
      Lacks "include_directories" before ∧ Lacks "include_directories" behind := by
  have head : Part source.target Anywhere (source.head now (asksForPlatform source.body.notes)) :=
    source.part_head now _
  refine ⟨_, _, ?_, head.balanced, (source.uses_head now _).lacks (by decide),
    (source.uses_sources.lacks (by decide)).append (source.uses_behindSources.lacks (by decide))⟩
  rw [script_eq_parts, List.append_assoc]

/-- A script gives a directory for a platform just if the authoritative configuration has it. -/
theorem gives_script_iff (source : Source) (now : Nat) :
    Gives (source.script now).value platform directory ↔
      directory ∈ source.directoryIncludes.value.tokensOf platform := by
  have orderly : source.directoryIncludes.value.Orderly := by
    unfold directoryIncludes
    split
    · exact source.orderly_place _ _
    · exact PlatformTokens.orderly_empty
  have only : ∀ dirs, Stands {} (source.script now).value (platformBlocks platform)
      (.command "include_directories" dirs) ↔
        (platform, dirs) ∈ source.directoryIncludes.value.toList := by
    intro dirs
    obtain ⟨before, behind, written, balanced, lacksBefore, lacksBehind⟩ :=
      source.script_eq_directorySettings now
    rw [written, stands_append_iff, stands_append_iff, or_iff_left lacksBehind.not_stands,
      or_iff_right lacksBefore.not_stands, balanced, stands_directorySettings_iff]
    constructor
    · rintro ⟨other, bucket, same⟩
      rwa [platformBlocks_injective same] at bucket
    · exact fun bucket => ⟨platform, bucket, rfl⟩
  simp only [Gives, only]
  exact (PlatformTokens.exists_bucket_iff orderly).symm

end Directory

section Addition

/-- The command that adds values to the directories of the target. -/
def addition (source : Source) (values : List String) : Instruction :=
  .command "set_property" (["TARGET", source.target, "APPEND", "PROPERTY", "INCLUDE_DIRECTORIES"] ++
    values)

/-- The blocks in the block of a configuration in which the commands for a platform stand. -/
def additionBlocks (source : Source) (configuration : Configuration) (platform : String) :
    List (Option String) :=
  platformBlocks platform ++ some (Context.existence source.target) ::
    (source.configurationCondition configuration).toList.map some

/-- Directories of a configuration that a platform does not have already. -/
def extraDirs (ofDirectory : PlatformTokens) (platform : String) (dirs : List String) :
    List String :=
  dirs.filter (· ∉ ofDirectory.tokensOf platform)

theorem balanced_property {property : String} {items : List String} :
    Balanced (appendProperty source.target property items) :=
  .listed (balanced_command rfl)

/-- A command for another property adds no directories. -/
theorem not_stands_property {property : String} {values items : List String}
    (apart : property ≠ "INCLUDE_DIRECTORIES") :
    ¬ Stands context (appendProperty source.target property items) blocks
      (source.addition values) := by
  intro stands
  obtain ⟨-, same, -⟩ := (stands_listed_iff _ _).mp stands
  simp [addition, apart.symm] at same

/-- The flags of a configuration add no directories. -/
theorem not_stands_flagSection {identifier : String} {compile link values : List String} :
    ¬ Stands context (source.flagSection identifier compile link) blocks
      (source.addition values) := by
  unfold flagSection
  split
  · exact not_stands_nil
  · have linked : ∀ {context : Context} flags, ¬ Stands context
        (if link.isEmpty then [] else [.command "set_property" ["TARGET", source.target,
          "APPEND_STRING", "PROPERTY", "LINK_FLAGS_" ++ identifier, flags]]) blocks
        (source.addition values) := by
      intro context flags stands
      have listed := stands.mem
      split at listed
      · exact absurd listed List.not_mem_nil
      · simp [addition] at listed
    intro stands
    rcases stands_append_iff.mp ((stands_under_iff _).mp stands) with compiled | other
    · exact not_stands_property (by decide) compiled
    · exact linked _ other

/-- The definitions of a configuration add no directories. -/
theorem not_stands_definitions {tokens : PlatformTokens} {identifier : String}
    {values : List String} :
    ¬ Stands context (byPlatform tokens fun _ items =>
        appendProperty source.target ("COMPILE_DEFINITIONS_" ++ identifier) items) blocks
      (source.addition values) := by
  intro stands
  obtain ⟨platform, list, -, inside⟩ :=
    (stands_byPlatform_iff _ fun _ _ => balanced_property).mp stands
  refine not_stands_property (fun same => ?_) inside
  have letters := congrArg String.toList same
  simp at letters

/-- Directories are added for each platform that has any left. -/
theorem stands_extraIncludes_iff {ofDirectory ofConfiguration : PlatformTokens}
    {identifier : String} {values : List String} :
    Stands context (source.extraIncludes identifier ofDirectory ofConfiguration) blocks
        (source.addition values) ↔
      ∃ platform dirs, (platform, dirs) ∈ ofConfiguration.toList ∧
        extraDirs ofDirectory platform dirs ≠ [] ∧
        values = (extraDirs ofDirectory platform dirs).map (onlyIn identifier) ∧
        platformBlocks platform ++ context.blocks = blocks := by
  have buckets : source.extraIncludes identifier ofDirectory ofConfiguration =
      byPlatform ofConfiguration fun platform dirs =>
        appendProperty source.target "INCLUDE_DIRECTORIES"
          ((extraDirs ofDirectory platform dirs).map (onlyIn identifier)) := rfl
  rw [buckets, addition, stands_byPlatform_iff _ fun _ _ => balanced_property]
  simp only [appendProperty, stands_listed_iff, ne_eq, List.map_eq_nil_iff,
    Instruction.command.injEq, true_and, List.append_cancel_left_eq, Context.within,
    platformBlocks]

/-- In the block of a configuration, directories are added to the target for each platform that
has any left, under the conditions of the configuration, the target and the platform. -/
theorem stands_addition_iff {ofDirectory : PlatformTokens} {values : List String} :
    Stands {} (source.configurationBlock ofDirectory configuration).value blocks
        (source.addition values) ↔
      ∃ platform dirs, (platform, dirs) ∈ (source.includeDirs configuration).value.toList ∧
        extraDirs ofDirectory platform dirs ≠ [] ∧
        values = (extraDirs ofDirectory platform dirs).map
          (onlyIn (configurationIdentifier configuration.buildType)) ∧
        source.additionBlocks configuration platform = blocks := by
  obtain ⟨compile, link, written⟩ : ∃ compile link,
      (source.configurationBlock ofDirectory configuration).value =
        .comment ("Configuration \"" ++ configuration.fullName ++ "\"") ::
          (under (source.configurationCondition configuration)
            (under (some (Context.existence source.target))
              (byPlatform (source.defines configuration).value (fun _ values =>
                  appendProperty source.target ("COMPILE_DEFINITIONS_" ++
                    configurationIdentifier configuration.buildType) values) ++
                source.extraIncludes (configurationIdentifier configuration.buildType) ofDirectory
                  (source.includeDirs configuration).value ++
                source.flagSection (configurationIdentifier configuration.buildType)
                  compile link)) ++ [.blank]) := ⟨_, _, rfl⟩
  have ending : ∀ {context : Context},
      ¬ Stands context [.blank] blocks (source.addition values) :=
    fun stands => absurd stands.mem (by simp [addition])
  rw [written, stands_cons_iff, stands_append_iff, or_iff_left ending]
  rw [addition, stands_under_iff, stands_under_iff, ← addition, stands_append_iff,
    stands_append_iff, or_iff_left not_stands_flagSection, or_iff_right not_stands_definitions,
    Balanced.byPlatform fun _ _ => balanced_property, stands_extraIncludes_iff]
  simp [addition, Instruction.statement, Context.after, Context.within, additionBlocks]

/-- A block adds a value to the directories of the target for a configuration and a platform. -/
def AddsFor (source : Source) (configuration : Configuration) (block : List Instruction)
    (platform value : String) : Prop :=
  ∃ values, Stands {} block (source.additionBlocks configuration platform)
    (source.addition values) ∧ value ∈ values

/-- For a platform, the block of a configuration adds all directories that are left, together. -/
theorem stands_addition_for_iff {ofDirectory : PlatformTokens} {values dirs : List String}
    (bucket : (platform, dirs) ∈ (source.includeDirs configuration).value.toList) :
    Stands {} (source.configurationBlock ofDirectory configuration).value
        (source.additionBlocks configuration platform) (source.addition values) ↔
      values ≠ [] ∧ values = (extraDirs ofDirectory platform dirs).map
        (onlyIn (configurationIdentifier configuration.buildType)) := by
  rw [stands_addition_iff]
  constructor
  · rintro ⟨other, otherDirs, otherBucket, filled, rfl, same⟩
    have one : other = platform := platformBlocks_injective (List.append_cancel_right same)
    subst one
    have orderly := source.orderly_place source.tables.includeDirs
      (configuration.compilers.flatMap fun compiler => compiler.includeDirs.map (·.path))
    have sameDirs := (PlatformTokens.tokensOf_of_mem orderly otherBucket).symm.trans
      (PlatformTokens.tokensOf_of_mem orderly bucket)
    subst sameDirs
    exact ⟨by simpa using filled, rfl⟩
  · rintro ⟨filled, rfl⟩
    exact ⟨platform, dirs, bucket, by simpa using filled, rfl, rfl⟩

/-- For a platform, the block of a configuration adds the directories that are left and no
others. -/
theorem addsFor_iff {ofDirectory : PlatformTokens} {dirs : List String}
    (bucket : (platform, dirs) ∈ (source.includeDirs configuration).value.toList) :
    source.AddsFor configuration (source.configurationBlock ofDirectory configuration).value
        platform (onlyIn (configurationIdentifier configuration.buildType) directory) ↔
      directory ∈ extraDirs ofDirectory platform dirs := by
  simp only [AddsFor, stands_addition_for_iff bucket]
  constructor
  · rintro ⟨_, ⟨-, rfl⟩, inside⟩
    exact (List.mem_map_of_injective (onlyIn_injective _)).mp inside
  · intro inside
    have listed : onlyIn (configurationIdentifier configuration.buildType) directory ∈ _ :=
      List.mem_map_of_mem inside
    exact ⟨_, ⟨List.ne_nil_of_mem listed, rfl⟩, listed⟩

/-- In every script and for each configuration, platform and directory of the configuration for
this platform, exactly one of two things holds: the script gives the directory to everything that
it builds for the platform, which is so just if the authoritative configuration has it for the
platform; or the block of the configuration adds the directory to the target for the platform, for
this configuration only. What the block adds for a platform is nothing but the directories of the
configuration that are not given to everything, each once. -/
theorem includeDirs_once (source : Source) (now : Nat)
    (among : configuration ∈ source.project.configurations) :
    let written := (source.script now).value
    let identifier := configurationIdentifier configuration.buildType
    ∃ before block behind, written = before ++ block ++ behind ∧
      (({} : Context).run before).blocks = [] ∧
      block = (source.configurationBlock source.directoryIncludes.value configuration).value ∧
      ∀ platform dirs, (platform, dirs) ∈ (source.includeDirs configuration).value.toList →
        (∀ directory ∈ dirs,
          (Gives written platform directory ↔
            ¬ source.AddsFor configuration block platform (onlyIn identifier directory)) ∧
          (Gives written platform directory ↔ ∃ authoritative,
            source.authoritative = some authoritative ∧
            directory ∈ (source.includeDirs authoritative).value.tokensOf platform)) ∧
        ∀ values, Stands {} block (source.additionBlocks configuration platform)
            (source.addition values) →
          values.Nodup ∧ ∀ value, value ∈ values ↔ ∃ directory ∈ dirs,
            ¬ Gives written platform directory ∧ value = onlyIn identifier directory := by
  intro written identifier
  obtain ⟨before, behind, split, outermost⟩ := source.script_eq_configurationBlock now among
  refine ⟨before, _, behind, split, outermost, rfl, ?_⟩
  intro platform dirs bucket
  have given : ∀ directory, Gives written platform directory ↔
      directory ∈ source.directoryIncludes.value.tokensOf platform :=
    fun directory => source.gives_script_iff now
  have once : dirs.Nodup := (source.orderly_place _ _).nodup_of_mem bucket
  have left : ∀ directory, directory ∈ extraDirs source.directoryIncludes.value platform dirs ↔
      directory ∈ dirs ∧ ¬ Gives written platform directory := by
    intro directory
    rw [extraDirs, List.mem_filter, given, decide_eq_true_eq]
  refine ⟨fun directory inside => ⟨?_, ?_⟩, ?_⟩
  · rw [addsFor_iff bucket, left, not_and_not_right]
    exact ⟨fun gives _ => gives, fun gives => gives inside⟩
  · rw [given, directoryIncludes]
    cases source.authoritative with
    | none => simp [PlatformTokens.tokensOf, PlatformTokens.empty, PlatformTokens.get?]
    | some authoritative => simp
  · intro values stands
    obtain ⟨-, rfl⟩ := (stands_addition_for_iff bucket).mp stands
    refine ⟨(once.filter _).map (onlyIn_injective _), fun value => ?_⟩
    simp only [List.mem_map, left, and_assoc, eq_comm]
    rfl

/-- The configuration of a release, with more directories than the one for finding faults. -/
def release : Configuration where
  buildType := "Release"
  platform := "Win32"
  compilers := [{ includeDirs := [{ path := "b" }, { path := "c" }, { path := "a" }] }]

/-- A source with two configurations, one of whose directories is for one platform only. -/
def withHeaders : Source where
  project := {
    configurations := [{ buildType := "Debug", platform := "Win32",
                         compilers := [{ includeDirs := [{ path := "a" }] }] }, release] }
  tables := { includeDirs := ⟨[⟨⟨"c", [⟨"UNIX", none⟩]⟩, fun _ => false⟩]⟩ }
  settings := {}
  fileName := "p.vcproj"

theorem includeDirs_once_release :
    release ∈ withHeaders.project.configurations ∧
      ∃ before block behind, (withHeaders.script 0).value = before ++ block ++ behind ∧
        (Gives (withHeaders.script 0).value "ALL" "a" ∧
          ¬ withHeaders.AddsFor release block "ALL" (onlyIn "RELEASE" "a")) ∧
        (¬ Gives (withHeaders.script 0).value "ALL" "b" ∧
          withHeaders.AddsFor release block "ALL" (onlyIn "RELEASE" "b")) ∧
        (¬ Gives (withHeaders.script 0).value "UNIX" "c" ∧
          withHeaders.AddsFor release block "UNIX" (onlyIn "RELEASE" "c")) := by
  have among : release ∈ withHeaders.project.configurations := by decide
  have identifier : configurationIdentifier release.buildType = "RELEASE" := by decide +kernel
  have given : ∀ platform directory, Gives (withHeaders.script 0).value platform directory ↔
      directory ∈ withHeaders.directoryIncludes.value.tokensOf platform :=
    fun _ _ => withHeaders.gives_script_iff 0
  obtain ⟨before, block, behind, written, -, -, placed⟩ := includeDirs_once withHeaders 0 among
  rw [identifier] at placed
  have a := ((placed "ALL" ["b", "a"] (by decide)).1 "a" (by decide)).1
  have b := ((placed "ALL" ["b", "a"] (by decide)).1 "b" (by decide)).1
  have c := ((placed "UNIX" ["c"] (by decide)).1 "c" (by decide)).1
  have givesA : Gives (withHeaders.script 0).value "ALL" "a" := (given _ _).mpr (by decide)
  have withholdsB : ¬ Gives (withHeaders.script 0).value "ALL" "b" :=
    fun gives => absurd ((given _ _).mp gives) (by decide)
  have withholdsC : ¬ Gives (withHeaders.script 0).value "UNIX" "c" :=
    fun gives => absurd ((given _ _).mp gives) (by decide)
  exact ⟨among, before, block, behind, written, ⟨givesA, a.mp givesA⟩,
    ⟨withholdsB, not_not.mp (mt b.mpr withholdsB)⟩, ⟨withholdsC, not_not.mp (mt c.mpr withholdsC)⟩⟩

end Addition

end ProjectScribe.Script.Source
