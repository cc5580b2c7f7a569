import ProjectScribe.Proofs.Text.Letters
import ProjectScribe.Reading.Classification

/-!
# Chains of filters

The filters around a file form a chain, which is listed here from the outermost inwards. A filter
holds back the files in it if it holds generated files by its name, which comes first, or if it is
not tracked. A file is left out for the sake of its filters if one of them holds it back, and the
reason is that of the outermost such filter or of the innermost, as a format has it. Of a file that
no filter holds back its own name decides.
-/
namespace ProjectScribe

/-- Whether a reason is one that filters give, not one that names of files give. -/
def SkipReason.IsOfFilters (reason : SkipReason) : Prop :=
  reason = .generatedFilesFilter ∨ reason = .notSourceControlled

namespace Reading

/-- The names of filters for generated files, which are English or German. Neither the blanks around
such a name nor the case of its letters matter. -/
def NamesGenerated (name : String) : Prop :=
  Text.lower (trimmed name) = "generated files" ∨ Text.lower (trimmed name) = "generierte dateien"

theorem isGeneratedFilter_iff {name : String} :
    isGeneratedFilter name = true ↔ NamesGenerated name := by
  have english : Text.lower "Generated Files" = "generated files" := by decide
  have german : Text.lower "Generierte Dateien" = "generierte dateien" := by decide
  simp only [isGeneratedFilter, List.any_cons, List.any_nil, Bool.or_false, Bool.or_eq_true,
    Text.sameLetters_iff, english, german]
  exact or_congr eq_comm eq_comm

theorem isGeneratedFilter_eq_false_iff {name : String} :
    isGeneratedFilter name = false ↔ ¬ NamesGenerated name := by
  rw [← isGeneratedFilter_iff, Bool.not_eq_true]

/-- Filters whose names differ by case only hold generated files or do not. -/
theorem isGeneratedFilter_congr {name other : String}
    (same : Text.lower name = Text.lower other) :
    isGeneratedFilter name = isGeneratedFilter other := by
  have letters : name.toList.map Text.lowerChar = other.toList.map Text.lowerChar := by
    simpa [Text.lower, ← String.toList_inj] using same
  have trimmedSame : Text.lower (trimmed name) = Text.lower (trimmed other) := by
    simp only [Text.lower, trimmed, String.toList_ofList, Text.map_trim, letters]
  rw [Bool.eq_iff_iff, isGeneratedFilter_iff, isGeneratedFilter_iff, NamesGenerated,
    NamesGenerated, trimmedSame]

/-- What a filter says about the files in it: its name, and whether they are tracked. -/
structure Marking where
  name : String
  isTracked : Bool
deriving DecidableEq, Repr

namespace Marking

/-- A filter holds back its files if it holds generated ones or ones that are not tracked. -/
def HoldsBack (filter : Marking) : Prop :=
  NamesGenerated filter.name ∨ filter.isTracked = false

/-- Why a filter holds back its files: whether they are tracked counts only if they are not
generated. -/
inductive Gives (filter : Marking) : SkipReason → Prop where
  | generated (named : NamesGenerated filter.name) : Gives filter .generatedFilesFilter
  | untracked (named : ¬ NamesGenerated filter.name) (untracked : filter.isTracked = false) :
      Gives filter .notSourceControlled

/-- The reason that a filter has to hold back its files, if it has one. -/
def reason? (filter : Marking) : Option SkipReason :=
  filterSkipReason? filter.name filter.isTracked

theorem reason?_eq_some_iff (filter : Marking) (reason : SkipReason) :
    filter.reason? = some reason ↔ filter.Gives reason := by
  rw [reason?, filterSkipReason?]
  constructor
  · intro found
    split at found
    · next named =>
      obtain rfl := Option.some.inj found
      exact .generated (isGeneratedFilter_iff.mp named)
    · next named =>
      split at found
      · cases found
      · next tracked =>
        obtain rfl := Option.some.inj found
        rw [Bool.not_eq_true] at named tracked
        exact .untracked (isGeneratedFilter_eq_false_iff.mp named) tracked
  · intro gives
    cases gives with
    | generated named => rw [if_pos (isGeneratedFilter_iff.mpr named)]
    | untracked named untracked => simp [isGeneratedFilter_eq_false_iff.mpr named, untracked]

theorem reason?_eq_none_iff (filter : Marking) : filter.reason? = none ↔ ¬ filter.HoldsBack := by
  rw [reason?, filterSkipReason?, HoldsBack, ← isGeneratedFilter_iff]
  cases isGeneratedFilter filter.name <;> cases filter.isTracked <;> simp

/-- The reasons that filters give are reasons of filters. -/
theorem Gives.isOfFilters {filter : Marking} {reason : SkipReason} (gives : filter.Gives reason) :
    reason.IsOfFilters := by
  cases gives with
  | generated => exact .inl rfl
  | untracked => exact .inr rfl

end Marking

/-- The reason of the outermost filter of a chain that holds back its files. -/
def OutermostGives (chain : List Marking) (reason : SkipReason) : Prop :=
  ∃ around filter inside, chain = around ++ filter :: inside ∧ filter.Gives reason ∧
    ∀ other ∈ around, ¬ other.HoldsBack

/-- The reason of the innermost filter of a chain that holds back its files. -/
def InnermostGives (chain : List Marking) (reason : SkipReason) : Prop :=
  ∃ around filter inside, chain = around ++ filter :: inside ∧ filter.Gives reason ∧
    ∀ other ∈ inside, ¬ other.HoldsBack

/-- The reason that is found from the outside. -/
def outermostReason? (chain : List Marking) : Option SkipReason := chain.findSome? (·.reason?)

/-- The reason that is found from the inside. -/
def innermostReason? (chain : List Marking) : Option SkipReason :=
  chain.reverse.findSome? (·.reason?)

section Chains

theorem outermostReason?_eq_some_iff (chain : List Marking) (reason : SkipReason) :
    outermostReason? chain = some reason ↔ OutermostGives chain reason := by
  simp only [outermostReason?, List.findSome?_eq_some_iff, Marking.reason?_eq_some_iff,
    Marking.reason?_eq_none_iff]
  rfl

theorem innermostReason?_eq_some_iff (chain : List Marking) (reason : SkipReason) :
    innermostReason? chain = some reason ↔ InnermostGives chain reason := by
  simp only [innermostReason?, List.findSome?_eq_some_iff, Marking.reason?_eq_some_iff,
    Marking.reason?_eq_none_iff]
  constructor
  · rintro ⟨inside, filter, around, turned, gives, apart⟩
    refine ⟨around.reverse, filter, inside.reverse, ?_, gives, by simpa using apart⟩
    rw [← chain.reverse_reverse, turned]
    simp
  · rintro ⟨around, filter, inside, rfl, gives, apart⟩
    exact ⟨inside.reverse, filter, around.reverse, by simp, gives, by simpa using apart⟩

theorem outermostReason?_eq_none_iff (chain : List Marking) :
    outermostReason? chain = none ↔ ∀ filter ∈ chain, ¬ filter.HoldsBack := by
  simp only [outermostReason?, List.findSome?_eq_none_iff, Marking.reason?_eq_none_iff]

/-- Seen from either end, there is a reason or there is none. -/
theorem innermostReason?_eq_none_iff (chain : List Marking) :
    innermostReason? chain = none ↔ ∀ filter ∈ chain, ¬ filter.HoldsBack := by
  simp only [innermostReason?, List.findSome?_eq_none_iff, List.mem_reverse,
    Marking.reason?_eq_none_iff]

/-- A filter inside all others of a chain counts from the outside if none of them gives a reason. -/
theorem outermostReason?_concat (chain : List Marking) (filter : Marking) :
    outermostReason? (chain ++ [filter]) = (outermostReason? chain).or filter.reason? := by
  rw [outermostReason?, List.findSome?_append]
  simp [outermostReason?]

/-- A filter inside all others of a chain counts first from the inside. -/
theorem innermostReason?_concat (chain : List Marking) (filter : Marking) :
    innermostReason? (chain ++ [filter]) = filter.reason?.or (innermostReason? chain) := by
  rw [innermostReason?, List.reverse_append, List.reverse_singleton, List.findSome?_append]
  simp [innermostReason?]

end Chains

/-- A file to which reading comes, with the filters around it. -/
structure Visit where
  chain : List Marking
  path : String

/-- The verdict on a file: the reason that is found among its filters, or else that of its name. -/
def Visit.verdict (reason? : List Marking → Option SkipReason) (visit : Visit) :
    Option SkipReason :=
  (reason? visit.chain).or (skipReason? visit.path)

/-- A rule by which files are left out: for the sake of a filter exactly if some filter around them
holds them back, and otherwise for the sake of their names. The one of several filters that gives
its reason is told by the rule. -/
structure Visit.FollowsRule (gives : List Marking → SkipReason → Prop)
    (verdict : Visit → Option SkipReason) : Prop where
  forFilters : ∀ visit, (∃ reason, verdict visit = some reason ∧ reason.IsOfFilters) ↔
    ∃ filter ∈ visit.chain, filter.HoldsBack
  reason : ∀ visit, (∃ filter ∈ visit.chain, filter.HoldsBack) →
    ∃ reason, gives visit.chain reason ∧ verdict visit = some reason
  otherwise : ∀ visit, (∀ filter ∈ visit.chain, ¬ filter.HoldsBack) →
    verdict visit = skipReason? visit.path

section Verdicts

/-- No name of a file gives a reason of filters. -/
theorem not_isOfFilters_of_skipReason? {path : String} {reason : SkipReason}
    (found : skipReason? path = some reason) : ¬ reason.IsOfFilters := by
  simp only [skipReason?] at found
  split at found
  · cases found
    simp [SkipReason.IsOfFilters]
  · split at found
    · cases found
      simp [SkipReason.IsOfFilters]
    · split at found
      · cases found
        simp [SkipReason.IsOfFilters]
      · cases found

/-- To look for a reason of filters first, and then for one of the name, is to follow the rule. -/
theorem Visit.followsRule_verdict {gives : List Marking → SkipReason → Prop}
    {reason? : List Marking → Option SkipReason}
    (found : ∀ chain reason, reason? chain = some reason ↔ gives chain reason)
    (missing : ∀ chain, reason? chain = none ↔ ∀ filter ∈ chain, ¬ filter.HoldsBack)
    (ofFilters : ∀ chain reason, gives chain reason → reason.IsOfFilters) :
    FollowsRule gives (verdict reason?) := by
  have ofFree : ∀ visit : Visit, (∀ filter ∈ visit.chain, ¬ filter.HoldsBack) →
      visit.verdict reason? = skipReason? visit.path := by
    intro visit free
    rw [verdict, (missing visit.chain).mpr free, Option.none_or]
  have ofHeld : ∀ visit : Visit, (∃ filter ∈ visit.chain, filter.HoldsBack) →
      ∃ reason, gives visit.chain reason ∧ visit.verdict reason? = some reason := by
    rintro visit ⟨filter, listed, holds⟩
    cases given : reason? visit.chain with
    | none => exact absurd holds ((missing _).mp given filter listed)
    | some reason =>
      refine ⟨reason, (found _ _).mp given, ?_⟩
      rw [verdict, given, Option.some_or]
  refine ⟨fun visit => ⟨?_, fun held => ?_⟩, ofHeld, ofFree⟩
  · rintro ⟨reason, given, isOfFilters⟩
    by_contra free
    rw [ofFree visit fun filter listed holds => free ⟨filter, listed, holds⟩] at given
    exact not_isOfFilters_of_skipReason? given isOfFilters
  · obtain ⟨reason, gives, given⟩ := ofHeld visit held
    exact ⟨reason, given, ofFilters _ _ gives⟩

end Verdicts

end Reading

end ProjectScribe
