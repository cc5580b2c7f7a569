import ProjectScribe.Proofs.Project.Acceptance

/-!
# What makes a project invalid

Five things can be wrong with a project, in a fixed order. Several of them can be wrong at once; the
one that is reported is the first. Shared identifiers are looked for once the declarations are in
order: there is one record for each configuration whose build type is not the first one with its
identifier, so there is none exactly if no two build types share an identifier.
-/
namespace ProjectScribe

/-- The position of a defect among all: it is reported only if none before it is there. -/
def Defect.rank : Defect → Nat
  | noDialect => 0
  | noName => 1
  | noConfigurations => 2
  | repeatedConfiguration _ => 3
  | noFiles => 4

namespace Project

open Script (configurationIdentifier)

/-- A project whose declarations are in order. -/
structure WellDeclared (project : Project) : Prop where
  dialect : project.dialect ≠ none
  named : ∃ c ∈ project.name.toList, Text.isBlank c = false
  configured : project.configurations ≠ []
  distinct : project.configurations.Pairwise Configuration.Differs

/-- A project that has everything that is asked of it. -/
structure Valid (project : Project) (settings : Settings) : Prop extends
    WellDeclared project where
  filled : settings.requiresFiles = true → project.filters.files ≠ []

/-- Something that is wrong with a project, whatever else is wrong with it. Of the configurations
that repeat an earlier one the first is meant. -/
inductive Has (project : Project) (settings : Settings) : Defect → Prop where
  | noDialect (unset : project.dialect = none) : Has project settings .noDialect
  | noName (blank : ∀ c ∈ project.name.toList, Text.isBlank c = true) :
      Has project settings .noName
  | noConfigurations (missing : project.configurations = []) :
      Has project settings .noConfigurations
  | repeatedConfiguration (before after : List Configuration) (configuration : Configuration)
      (stands : project.configurations = before ++ configuration :: after)
      (distinct : before.Pairwise Configuration.Differs)
      (again : ∃ earlier ∈ before, ¬ earlier.Differs configuration) :
      Has project settings (.repeatedConfiguration configuration.fullName)
  | noFiles (required : settings.requiresFiles = true) (missing : project.filters.files = []) :
      Has project settings .noFiles

/-- The first thing that is wrong with a project. -/
def defect? (project : Project) (settings : Settings) : Option Defect :=
  project.declarationDefect.or
    (if settings.requiresFiles && project.filters.files.isEmpty then some .noFiles else none)

section Order

variable {project : Project} {settings : Settings}

/-- The first configuration that repeats an earlier one comes behind some that differ. -/
theorem firstRepeated_eq_some_iff (before list : List Configuration)
    (configuration : Configuration) :
    firstRepeated before list = some configuration ↔
      ∃ fresh after, list = fresh ++ configuration :: after ∧ firstRepeated before fresh = none ∧
        ∃ earlier ∈ before ++ fresh, ¬ earlier.Differs configuration := by
  induction list generalizing before with
  | nil => simp [firstRepeated]
  | cons first rest inductionHypothesis =>
    have seen : (before.any fun earlier => earlier.isOf first.buildType first.platform) = true ↔
        ∃ earlier ∈ before, ¬ earlier.Differs first := by
      simp [Configuration.isOf, Configuration.Differs]
    rw [firstRepeated]
    split
    · next again =>
      constructor
      · intro same
        obtain rfl := Option.some.inj same
        exact ⟨[], rest, rfl, rfl, by simpa using seen.mp again⟩
      · rintro ⟨fresh, after, stands, unrepeated, -⟩
        -- A nonempty fresh part would start with the configuration that repeats an earlier one.
        cases fresh with
        | nil => rw [(List.cons.inj stands).1]
        | cons other others =>
          obtain ⟨rfl, -⟩ := List.cons.inj stands
          rw [firstRepeated, if_pos again] at unrepeated
          cases unrepeated
    · next new =>
      rw [inductionHypothesis]
      constructor
      · rintro ⟨fresh, after, rfl, unrepeated, earlier⟩
        refine ⟨first :: fresh, after, rfl, ?_, by simpa using earlier⟩
        rw [firstRepeated, if_neg new, unrepeated]
      · rintro ⟨fresh, after, stands, unrepeated, earlier⟩
        cases fresh with
        | nil =>
          obtain ⟨rfl, -⟩ := List.cons.inj stands
          exact absurd (seen.mpr (by simpa using earlier)) new
        | cons other others =>
          obtain ⟨rfl, rfl⟩ := List.cons.inj stands
          rw [firstRepeated, if_neg new] at unrepeated
          exact ⟨others, after, rfl, unrepeated, by simpa using earlier⟩

/-- A repeated configuration is wrong with a project if it is the first that is found. -/
theorem has_repeatedConfiguration_iff (fullName : String) :
    project.Has settings (.repeatedConfiguration fullName) ↔
      ∃ configuration, firstRepeated [] project.configurations = some configuration ∧
        configuration.fullName = fullName := by
  constructor
  · rintro ⟨⟩
    next before after configuration stands distinct again =>
    refine ⟨configuration, ?_, rfl⟩
    rw [firstRepeated_eq_some_iff]
    exact ⟨before, after, stands, (firstRepeated_eq_none_iff [] before).mpr ⟨distinct, by simp⟩,
      again⟩
  · rintro ⟨configuration, found, rfl⟩
    obtain ⟨before, after, stands, fresh, again⟩ :=
      (firstRepeated_eq_some_iff [] _ configuration).mp found
    exact .repeatedConfiguration before after configuration stands
      ((firstRepeated_eq_none_iff [] before).mp fresh).1 again

/-- No two different things of one rank are wrong with a project. -/
theorem Has.eq_of_rank {first second : Defect} (left : project.Has settings first)
    (right : project.Has settings second) (same : first.rank = second.rank) : first = second := by
  cases first with
  | repeatedConfiguration fullName =>
    cases second with
    | repeatedConfiguration other =>
      obtain ⟨configuration, found, rfl⟩ := (has_repeatedConfiguration_iff fullName).mp left
      obtain ⟨_, foundToo, rfl⟩ := (has_repeatedConfiguration_iff other).mp right
      rw [Option.some.inj (found.symm.trans foundToo)]
    | _ => cases same
  | _ => cases second <;> first | rfl | cases same

/-- Nothing is wrong with the declarations of a project if they are in order. -/
theorem declarationDefect_eq_none_iff :
    project.declarationDefect = none ↔ project.WellDeclared := by
  constructor
  · intro none
    unfold declarationDefect at none
    split at none
    · cases none
    next dialect =>
    split at none
    · cases none
    next named =>
    split at none
    · cases none
    next configured =>
    rw [Option.map_eq_none_iff, firstRepeated_eq_none_iff] at none
    exact ⟨by simpa using dialect, by simpa [Text.isAllBlank] using named,
      by simpa using configured, none.1⟩
  · rintro ⟨dialect, named, configured, distinct⟩
    have unrepeated := (firstRepeated_eq_none_iff [] project.configurations).mpr
      ⟨distinct, by simp⟩
    have notBlank : Text.isAllBlank project.name.toList = false := by
      simpa [Text.isAllBlank] using named
    simp [declarationDefect, dialect, notBlank, configured, unrepeated]

/-- What is found to be wrong with the declarations of a project is the first thing that is. -/
theorem has_of_declarationDefect {defect : Defect}
    (found : project.declarationDefect = some defect) :
    project.Has settings defect ∧
      ∀ other, project.Has settings other → defect.rank ≤ other.rank := by
  unfold declarationDefect at found
  split at found
  · next unset =>
    obtain rfl := Option.some.inj found
    exact ⟨.noDialect (by simpa using unset), fun other _ => Nat.zero_le _⟩
  next dialect =>
  have set : project.dialect ≠ none := by simpa using dialect
  split at found
  · next blank =>
    obtain rfl := Option.some.inj found
    refine ⟨.noName (by simpa [Text.isAllBlank] using blank), fun other has => ?_⟩
    cases has with
    | noDialect unset => exact absurd unset set
    | _ => simp [Defect.rank]
  next notBlank =>
  have named : ¬ ∀ c ∈ project.name.toList, Text.isBlank c = true := by
    simpa [Text.isAllBlank] using notBlank
  split at found
  · next missing =>
    obtain rfl := Option.some.inj found
    refine ⟨.noConfigurations (by simpa using missing), fun other has => ?_⟩
    cases has with
    | noDialect unset => exact absurd unset set
    | noName blank => exact absurd blank named
    | _ => simp [Defect.rank]
  next declared =>
  have configured : project.configurations ≠ [] := by simpa using declared
  obtain ⟨configuration, repeated, rfl⟩ := Option.map_eq_some_iff.mp found
  refine ⟨(has_repeatedConfiguration_iff _).mpr ⟨configuration, repeated, rfl⟩,
    fun other has => ?_⟩
  cases has with
  | noDialect unset => exact absurd unset set
  | noName blank => exact absurd blank named
  | noConfigurations missing => exact absurd missing configured
  | _ => simp [Defect.rank]

/-- Nothing is wrong with a valid project. -/
theorem Valid.not_has (valid : project.Valid settings) (defect : Defect) :
    ¬ project.Has settings defect := by
  intro has
  cases has with
  | noDialect unset => exact valid.dialect unset
  | noName blank =>
    obtain ⟨c, listed, other⟩ := valid.named
    rw [blank c listed] at other
    cases other
  | noConfigurations missing => exact valid.configured missing
  | repeatedConfiguration before after configuration stands distinct again =>
    obtain ⟨earlier, listed, agrees⟩ := again
    have apart := valid.distinct
    rw [stands, List.pairwise_append] at apart
    exact agrees (apart.2.2 earlier listed configuration List.mem_cons_self)
  | noFiles required missing => exact valid.filled required missing

/-- A project is valid if nothing is wrong with it. -/
theorem defect?_eq_none_iff : project.defect? settings = none ↔ project.Valid settings := by
  rw [defect?, Option.or_eq_none_iff, declarationDefect_eq_none_iff]
  constructor
  · rintro ⟨declared, filled⟩
    exact ⟨declared, by simpa using filled⟩
  · rintro ⟨declared, filled⟩
    exact ⟨declared, by simpa using filled⟩

/-- What is found to be wrong with a project is the first thing that is. -/
theorem defect?_eq_some_iff (defect : Defect) :
    project.defect? settings = some defect ↔
      project.Has settings defect ∧
        ∀ other, project.Has settings other → defect.rank ≤ other.rank := by
  have first : ∀ found, project.defect? settings = some found →
      project.Has settings found ∧
        ∀ other, project.Has settings other → found.rank ≤ other.rank := by
    intro found stands
    rcases Option.or_eq_some_iff.mp stands with declared | ⟨inOrder, unfilled⟩
    · exact has_of_declarationDefect declared
    · have declared := declarationDefect_eq_none_iff.mp inOrder
      obtain ⟨missing, same⟩ := Option.ite_none_right_eq_some.mp unfilled
      obtain rfl := Option.some.inj same
      rw [Bool.and_eq_true, List.isEmpty_iff] at missing
      refine ⟨.noFiles missing.1 missing.2, fun other has => ?_⟩
      -- Declarations in order leave only the files to be wrong.
      have without : project.Valid { settings with requiresFiles := false } := ⟨declared, nofun⟩
      cases has with
      | noFiles => exact Nat.le_refl _
      | noDialect unset => exact absurd (.noDialect unset) (without.not_has _)
      | noName blank => exact absurd (.noName blank) (without.not_has _)
      | noConfigurations none => exact absurd (.noConfigurations none) (without.not_has _)
      | repeatedConfiguration before after configuration stands distinct again =>
        exact absurd (.repeatedConfiguration before after configuration stands distinct again)
          (without.not_has _)
  refine ⟨first defect, fun ⟨has, least⟩ => ?_⟩
  cases stands : project.defect? settings with
  | none => exact absurd has ((defect?_eq_none_iff.mp stands).not_has defect)
  | some found =>
    obtain ⟨hasFound, leastFound⟩ := first found stands
    rw [hasFound.eq_of_rank has (Nat.le_antisymm (leastFound defect has) (least found hasFound))]

end Order

section Records

/-- The first configuration whose build type has the identifier of another's. -/
def firstAlike (configurations : List Configuration) (configuration : Configuration) :
    Option Configuration :=
  configurations.find? fun other =>
    configurationIdentifier other.buildType = configurationIdentifier configuration.buildType

/-- There are as many records as configurations whose build type is not that of the first
configuration with the same identifier. -/
theorem length_sharedIdentifiers (label : String) (configurations : List Configuration) :
    (sharedIdentifiers label [] (configurations.map (·.buildType))).length =
      configurations.countP fun configuration =>
        (firstAlike configurations configuration).any (·.buildType ≠ configuration.buildType) := by
  rw [sharedIdentifiers_eq label [] [] _ fun _ => rfl, List.nil_append,
    List.length_filterMap_eq_countP, List.countP_map]
  apply List.countP_congr
  intro configuration _
  have found : firstWith (configurations.map (·.buildType))
      (configurationIdentifier configuration.buildType) =
        (firstAlike configurations configuration).map (·.buildType) := by
    rw [firstWith, List.find?_map]
    rfl
  rw [Function.comp_apply, sharedAmong, found]
  cases firstAlike configurations configuration with
  | none => rfl
  | some other =>
    by_cases same : other.buildType = configuration.buildType <;> simp [Option.filter, same]

end Records

section Validation

variable (project : Project) (settings : Settings)

/-- How a project is judged, and what is recorded about it. -/
theorem validate_eq :
    (project.validate settings).value =
        (project.defect? settings).map (⟨project.label, ·⟩) ∧
      (project.declarationDefect = none → (project.validate settings).notes =
        sharedIdentifiers project.label [] (project.configurations.map (·.buildType))) := by
  rw [validate, defect?]
  cases project.declarationDefect with
  | some defect => exact ⟨rfl, nofun⟩
  | none =>
    refine ⟨?_, fun _ => rfl⟩
    dsimp only
    by_cases unfilled : (settings.requiresFiles && project.filters.files.isEmpty) = true
    · rw [if_pos unfilled, if_pos unfilled]
      rfl
    · rw [if_neg unfilled, if_neg unfilled]
      rfl

/-- A project is accepted exactly if it has all that is asked of it. Otherwise it is rejected under
its label, for the first of the things that are wrong with it. If its declarations are in order,
there is a record about shared identifiers exactly if two configurations have different build types
with one identifier, and there are as many as configurations whose build type is not that of the
first configuration with the same identifier. -/
theorem validate_exact :
    ((project.validate settings).value = none ↔ project.Valid settings) ∧
    (∀ invalid, (project.validate settings).value = some invalid ↔
      invalid.project = project.label ∧ project.Has settings invalid.defect ∧
        ∀ other, project.Has settings other → invalid.defect.rank ≤ other.rank) ∧
    (project.WellDeclared →
      ((project.validate settings).notes ≠ [] ↔
        ∃ first ∈ project.configurations, ∃ second ∈ project.configurations,
          first.buildType ≠ second.buildType ∧
            configurationIdentifier first.buildType =
              configurationIdentifier second.buildType) ∧
      (project.validate settings).notes.length =
        project.configurations.countP fun configuration =>
          (firstAlike project.configurations configuration).any
            (·.buildType ≠ configuration.buildType)) := by
  obtain ⟨value, notes⟩ := project.validate_eq settings
  refine ⟨?_, fun invalid => ?_, fun declared => ?_⟩
  · rw [value, Option.map_eq_none_iff, defect?_eq_none_iff]
  · rw [value, Option.map_eq_some_iff]
    constructor
    · rintro ⟨defect, found, rfl⟩
      exact ⟨rfl, (defect?_eq_some_iff defect).mp found⟩
    · rintro ⟨label, first⟩
      refine ⟨invalid.defect, (defect?_eq_some_iff invalid.defect).mpr first, ?_⟩
      rw [← label]
  · rw [notes (declarationDefect_eq_none_iff.mpr declared)]
    refine ⟨?_, length_sharedIdentifiers project.label project.configurations⟩
    rw [ne_eq, sharedIdentifiers_eq_nil_iff]
    simp only [List.forall_mem_map]
    push Not
    constructor
    · rintro ⟨first, listed, second, listedToo, same, apart⟩
      exact ⟨first, listed, second, listedToo, apart, same⟩
    · rintro ⟨first, listed, second, listedToo, apart, same⟩
      exact ⟨first, listed, second, listedToo, same, apart⟩

/-- A project whose build types differ by blanks and case only. -/
def spacedTypes : Project where
  name := "spaced"
  dialect := some .vcproj
  configurations := [{ buildType := "Debug Static", platform := "Win32" },
    { buildType := "debug  static", platform := "Win32" },
    { buildType := "Debug Static", platform := "x64" }]

/-- One of its three configurations is recorded. -/
theorem validate_exact_spaced :
    spacedTypes.WellDeclared ∧ (spacedTypes.validate {}).notes ≠ [] ∧
      (spacedTypes.validate {}).notes.length = 1 := by
  have declared : spacedTypes.WellDeclared := declarationDefect_eq_none_iff.mp (by decide)
  obtain ⟨any, count⟩ := (validate_exact spacedTypes {}).2.2 declared
  refine ⟨declared, any.mpr ?_, ?_⟩
  · exact ⟨_, List.mem_cons_self, _, List.mem_cons_of_mem _ List.mem_cons_self, by decide,
      by decide +kernel⟩
  · rw [count]
    decide +kernel

end Validation

end Project

end ProjectScribe
