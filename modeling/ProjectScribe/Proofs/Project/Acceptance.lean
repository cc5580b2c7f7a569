import Mathlib.Data.List.Basic
import ProjectScribe.Validation

/-!
# What accepted projects have

No two configurations of an accepted project agree in both their build type and their platform. A
record about a shared identifier is written for each configuration whose build type is not the
first one with its identifier, so without such records build types with one identifier are one.
-/
namespace ProjectScribe

/-- Configurations that do not agree in both their build type and their platform. -/
def Configuration.Differs (first second : Configuration) : Prop :=
  first.buildType = second.buildType → first.platform ≠ second.platform

namespace Project

open Script (configurationIdentifier)

section Repetition

/-- Nothing is repeated if the configurations differ from each other and from those before them. -/
theorem firstRepeated_eq_none_iff (before list : List Configuration) :
    firstRepeated before list = none ↔
      list.Pairwise Configuration.Differs ∧
        ∀ earlier ∈ before, ∀ configuration ∈ list, earlier.Differs configuration := by
  induction list generalizing before with
  | nil => simp [firstRepeated]
  | cons configuration rest inductionHypothesis =>
    have fresh : (before.any fun earlier =>
        earlier.isOf configuration.buildType configuration.platform) = true ↔
          ¬ ∀ earlier ∈ before, earlier.Differs configuration := by
      simp [Configuration.isOf, Configuration.Differs]
    rw [firstRepeated]
    split
    · next repeated =>
      refine iff_of_false nofun fun ⟨_, apart⟩ => fresh.mp repeated fun earlier listed => ?_
      exact apart earlier listed configuration List.mem_cons_self
    · next unrepeated =>
      have apart := not_not.mp (mt fresh.mpr unrepeated)
      rw [inductionHypothesis, List.pairwise_cons]
      constructor
      · rintro ⟨distinct, others⟩
        obtain ⟨earlier, here⟩ := List.forall_mem_append.mp others
        exact ⟨⟨here configuration List.mem_cons_self, distinct⟩, fun other listed =>
          List.forall_mem_cons.mpr ⟨apart other listed, earlier other listed⟩⟩
      · rintro ⟨⟨here, distinct⟩, others⟩
        refine ⟨distinct, List.forall_mem_append.mpr ⟨fun other listed => ?_, ?_⟩⟩
        · exact (List.forall_mem_cons.mp (others other listed)).2
        · exact List.forall_mem_singleton.mpr here

end Repetition

section Identifiers

/-- The first of some build types with an identifier. -/
def firstWith (buildTypes : List String) (identifier : String) : Option String :=
  buildTypes.find? (configurationIdentifier · = identifier)

/-- The first one behind others is found if none of these has the identifier. -/
theorem firstWith_append_cons (before rest : List String) (buildType identifier : String) :
    firstWith (before ++ buildType :: rest) identifier = (firstWith before identifier).or
      (if configurationIdentifier buildType = identifier then some buildType
        else firstWith rest identifier) := by
  rw [firstWith, List.find?_append, firstWith]
  by_cases same : configurationIdentifier buildType = identifier <;> simp [same, firstWith]

/-- What is recorded about a build type among others: that it shares its identifier with the first
one that has it, unless it is this one. -/
def sharedAmong (label : String) (buildTypes : List String) (buildType : String) :
    Option SharedIdentifier :=
  ((firstWith buildTypes (configurationIdentifier buildType)).filter (· ≠ buildType)).map
    fun other => ⟨label, other, buildType, configurationIdentifier buildType⟩

/-- There is a record for each build type that is not the first one with its identifier. -/
theorem sharedIdentifiers_eq (label : String) (first : List (String × String))
    (before list : List String)
    (registered : ∀ identifier, (first.find? (·.1 = identifier)).map (·.2) =
      firstWith before identifier) :
    sharedIdentifiers label first list = list.filterMap (sharedAmong label (before ++ list)) := by
  induction list generalizing first before with
  | nil => rfl
  | cons buildType rest inductionHypothesis =>
    have here := registered (configurationIdentifier buildType)
    have stands := firstWith_append_cons before rest buildType (configurationIdentifier buildType)
    rw [if_pos rfl] at stands
    -- The first build type with an identifier stays the first one, whether or not others follow.
    have next := fun identifier => firstWith_append_cons before [] buildType identifier
    rw [List.filterMap_cons, sharedIdentifiers, sharedAmong, stands, ← here,
      List.append_cons before buildType rest]
    split
    · next unknown =>
      rw [unknown, inductionHypothesis _ (before ++ [buildType])]
      · simp [Option.filter]
      · intro identifier
        rw [next, List.find?_append, Option.map_or, registered]
        by_cases same : configurationIdentifier buildType = identifier <;> simp [same, firstWith]
    · next known other found =>
      have kept : ∀ identifier, (first.find? (·.1 = identifier)).map (·.2) =
          firstWith (before ++ [buildType]) identifier := by
        intro identifier
        rw [registered, next]
        by_cases same : configurationIdentifier buildType = identifier
        · rw [← same, ← here, found]
          rfl
        · simp [same, firstWith]
      rw [found, inductionHypothesis first (before ++ [buildType]) kept]
      by_cases same : other = buildType <;> simp [Option.filter, same]

/-- There are no records about shared identifiers just if build types with one identifier are
one. -/
theorem sharedIdentifiers_eq_nil_iff (label : String) (list : List String) :
    sharedIdentifiers label [] list = [] ↔
      ∀ first ∈ list, ∀ second ∈ list,
        configurationIdentifier first = configurationIdentifier second → first = second := by
  have found : ∀ buildType ∈ list, ∃ other ∈ list,
      firstWith list (configurationIdentifier buildType) = some other ∧
        configurationIdentifier other = configurationIdentifier buildType := by
    intro buildType listed
    have has : (firstWith list (configurationIdentifier buildType)).isSome = true :=
      List.find?_isSome.mpr ⟨buildType, listed, decide_eq_true rfl⟩
    obtain ⟨other, first⟩ := Option.isSome_iff_exists.mp has
    have same := List.find?_some (p := (configurationIdentifier · = _)) first
    exact ⟨other, List.mem_of_find?_eq_some first, first, of_decide_eq_true same⟩
  have unrecorded : ∀ buildType other,
      firstWith list (configurationIdentifier buildType) = some other →
        (sharedAmong label list buildType = none ↔ other = buildType) := by
    intro buildType other first
    rw [sharedAmong, first]
    by_cases same : other = buildType <;> simp [Option.filter, same]
  rw [sharedIdentifiers_eq label [] [] list fun _ => rfl, List.nil_append,
    List.filterMap_eq_nil_iff]
  constructor
  · intro none first listed second listedToo same
    obtain ⟨other, -, firstFound, -⟩ := found first listed
    have ofFirst := (unrecorded first other firstFound).mp (none first listed)
    have ofSecond := (unrecorded second other (same ▸ firstFound)).mp (none second listedToo)
    exact ofFirst.symm.trans ofSecond
  · intro one buildType listed
    obtain ⟨other, among, first, same⟩ := found buildType listed
    exact (unrecorded buildType other first).mpr (one other among buildType listed same)

end Identifiers

section Acceptance

variable {project : Project} {settings : Settings}

/-- The configurations of an accepted project differ from each other, and if nothing is recorded,
build types with one identifier are one. -/
theorem accepted_configurations (accepted : (project.validate settings).value = none) :
    project.configurations.Pairwise Configuration.Differs ∧
      ((project.validate settings).notes = [] ↔
        ∀ first ∈ project.configurations, ∀ second ∈ project.configurations,
          configurationIdentifier first.buildType = configurationIdentifier second.buildType →
            first.buildType = second.buildType) := by
  unfold validate at accepted ⊢
  cases defect : project.declarationDefect with
  | some defect =>
    rw [defect] at accepted
    exact absurd accepted (by simp)
  | none =>
    refine ⟨?_, ?_⟩
    · unfold declarationDefect at defect
      split at defect
      · cases defect
      · split at defect
        · cases defect
        · split at defect
          · cases defect
          · rw [Option.map_eq_none_iff, firstRepeated_eq_none_iff] at defect
            exact defect.1
    · rw [sharedIdentifiers_eq_nil_iff]
      simp only [List.forall_mem_map]

end Acceptance

end Project

end ProjectScribe
