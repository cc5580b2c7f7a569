import Mathlib.Data.List.Basic
import ProjectScribe.Proofs.Reading.Profile
import ProjectScribe.Script.BuildVariable

/-!
# What conditions select

A condition compares the full name, the build type or the platform of a configuration with a
value. Which configurations it selects is decided by the value alone: one with a bar is taken for
a full name, and any other for a build type, without the blanks around it. Here that is compared
with what the condition says, which is found by putting the build type and the platform of a
configuration in the place of the variables on the left.

The selection is right for full names and build types, unless the value is not one that these can
have. It is wrong for platforms, unless the configurations of this platform are those of a build
type with the same name.
-/
namespace ProjectScribe.Reading.ElementFormat

open Script (Piece variablePieces)

section Comparisons

/-- What a condition may compare. -/
inductive Subject where
  | fullName
  | buildType
  | platform
deriving DecidableEq, Repr

/-- How a condition writes what it compares. -/
def Subject.text : Subject → String
  | fullName => "$(Configuration)|$(Platform)"
  | buildType => "$(Configuration)"
  | platform => "$(Platform)"

/-- A condition that compares something with a value, with a gap on both sides of the equality. -/
def comparison (subject : Subject) (gap value : String) : String :=
  "'" ++ subject.text ++ "'" ++ gap ++ "==" ++ gap ++ "'" ++ value ++ "'"

/-- What a piece of a text stands for in a configuration. -/
def pieceIn (configuration : Configuration) : Piece → List Char
  | .plain c => [c]
  | .variable name =>
    if name = "Configuration".toList then configuration.buildType.toList
    else if name = "Platform".toList then configuration.platform.toList
    else ("$(" ++ String.ofList name ++ ")").toList

/-- A text with the build type and the platform of a configuration in the place of their
variables. -/
def valueIn (configuration : Configuration) (text : String) : String :=
  String.ofList ((variablePieces text.toList).flatMap (pieceIn configuration))

/-- What the subjects of conditions are in a configuration. -/
theorem valueIn_text (configuration : Configuration) (subject : Subject) :
    valueIn configuration subject.text = match subject with
      | .fullName => configuration.fullName
      | .buildType => configuration.buildType
      | .platform => configuration.platform := by
  have cut : variablePieces subject.text.toList = match subject with
      | .fullName => [.variable "Configuration".toList, .plain '|', .variable "Platform".toList]
      | .buildType => [.variable "Configuration".toList]
      | .platform => [.variable "Platform".toList] := by
    cases subject <;> decide
  rw [valueIn, cut, ← String.toList_inj]
  cases subject <;> simp [pieceIn, Configuration.fullName]

end Comparisons

section Selections

variable {subject : Subject} {gap value : String} {configuration : Configuration}

/-- The selection that a value makes: by the build type and the platform around its first bar, or
by the build type alone. -/
def Selection.ofValue (value : String) : Selection :=
  match Text.cutAt '|' (Text.trim value.toList) with
  | some (buildType, platform) => ⟨String.ofList buildType, some (String.ofList platform)⟩
  | none => ⟨trimmed value, none⟩

/-- A comparison selects by its value, whatever it compares. -/
theorem ofCondition?_comparison (blank : ∀ c ∈ gap.toList, Text.isBlank c = true)
    (unquoted : Text.EndsOutside (· == '\'') value.toList) :
    Selection.ofCondition? (comparison subject gap value) = some (Selection.ofValue value) := by
  have uncut : '=' ∉ ("'" ++ subject.text ++ "'" ++ gap).toList := by
    have inSubject : '=' ∉ ("'" ++ subject.text ++ "'").toList := by cases subject <;> decide
    rw [String.toList_append, List.mem_append]
    rintro (inside | inGap)
    · exact inSubject inside
    · exact absurd (blank _ inGap) (by decide)
  have parts : (comparison subject gap value).toList =
      ("'" ++ subject.text ++ "'" ++ gap).toList ++
        ('=' :: ['='] ++ (gap.toList ++ '\'' :: (value.toList ++ ['\'']))) := by
    simp [comparison]
  have quoted : Text.trim (gap.toList ++ '\'' :: (value.toList ++ ['\''])) =
      '\'' :: (value.toList ++ ['\'']) := by
    rw [Text.trim_append_of_blank blank]
    exact (Text.EndsOutside.of_wrapped _ (by decide)).strip_eq
  have bare : Text.strip (· == '\'') ('\'' :: (value.toList ++ ['\''])) = value.toList := by
    by_cases empty : value.toList = []
    · rw [empty]
      rfl
    · exact unquoted.strip_wrapped empty (beq_self_eq_true '\'')
  rw [Selection.ofCondition?, parts, show "==".toList = '=' :: ['='] from rfl,
    Text.cutAtText_append uncut, Option.map_some]
  simp only [quoted, bare]
  rfl

/-- A value names the configurations that have it, without the blanks around it, for their full
name if it has a bar, and for their build type otherwise. -/
def NamedBy (value : String) (configuration : Configuration) : Prop :=
  (if '|' ∈ value.toList then configuration.fullName else configuration.buildType) = trimmed value

instance (value : String) (configuration : Configuration) :
    Decidable (NamedBy value configuration) :=
  inferInstanceAs (Decidable (_ = _))

/-- The full name of a configuration is cut into its parts again. -/
theorem cutAt_fullName (uncut : '|' ∉ configuration.buildType.toList) :
    Text.cutAt '|' configuration.fullName.toList =
      some (configuration.buildType.toList, configuration.platform.toList) := by
  have parts : configuration.fullName.toList =
      configuration.buildType.toList ++ '|' :: configuration.platform.toList := by
    simp [Configuration.fullName]
  rw [parts, Text.cutAt_append uncut]

/-- A value selects the configurations that it names. -/
theorem selects_ofValue_iff (uncut : '|' ∉ configuration.buildType.toList) :
    (Selection.ofValue value).selects configuration = true ↔ NamedBy value configuration := by
  have barred : '|' ∈ Text.trim value.toList ↔ '|' ∈ value.toList := Text.mem_strip_iff (by decide)
  unfold NamedBy
  by_cases bar : '|' ∈ value.toList
  · obtain ⟨before, after, split, plain⟩ := List.eq_append_cons_of_mem (barred.mpr bar)
    have cut : Text.cutAt '|' (Text.trim value.toList) = some (before, after) := by
      rw [split, Text.cutAt_append plain]
    rw [if_pos bar, Selection.ofValue, cut]
    simp only [Selection.selects, Option.all_some, Bool.and_eq_true, decide_eq_true_eq]
    constructor
    · rintro ⟨buildType, platform⟩
      rw [← String.toList_inj, toList_trimmed, split]
      simp [Configuration.fullName, buildType, platform]
    · intro named
      have both := cutAt_fullName uncut
      rw [named, toList_trimmed, cut] at both
      obtain ⟨rfl, rfl⟩ := Prod.mk.inj (Option.some.inj both)
      exact ⟨String.ofList_toList.symm, String.ofList_toList.symm⟩
  · rw [if_neg bar, Selection.ofValue, Text.cutAt_eq_none_iff.mpr (mt barred.mp bar)]
    simp [Selection.selects]

end Selections

section Labels

/-- The condition that asks for a build type and a platform. -/
def conditionFor (label : String × String) : String :=
  comparison .fullName "" (label.1 ++ "|" ++ label.2)

/-- A label that can be asked for: it is trimmed and has no single quotes at the ends of its parts,
and no bar in the build type. -/
structure IsAskable (label : String × String) : Prop where
  uncut : '|' ∉ label.1.toList
  buildTypeWhole : trimmed label.1 = label.1
  platformWhole : trimmed label.2 = label.2
  buildTypeUnquoted : Text.EndsOutside (· == '\'') label.1.toList
  platformUnquoted : Text.EndsOutside (· == '\'') label.2.toList

/-- Parts without bars and single quotes make a label that can be asked for. -/
theorem IsAskable.of_isLabel {buildType platform : String} (buildTypeLabel : IsLabel buildType)
    (platformLabel : IsLabel platform) : IsAskable (buildType, platform) where
  uncut := buildTypeLabel.uncut
  buildTypeWhole := buildTypeLabel.whole
  platformWhole := platformLabel.whole
  buildTypeUnquoted := .of_forall fun _ listed => beq_eq_false_iff_ne.mpr
    fun quote => buildTypeLabel.unquoted (quote ▸ listed)
  platformUnquoted := .of_forall fun _ listed => beq_eq_false_iff_ne.mpr
    fun quote => platformLabel.unquoted (quote ▸ listed)

/-- The condition for a label asks for its build type and its platform. -/
theorem ofCondition?_conditionFor {label : String × String} (askable : IsAskable label) :
    Selection.ofCondition? (conditionFor label) = some ⟨label.1, some label.2⟩ := by
  have parts : (label.1 ++ "|" ++ label.2).toList = label.1.toList ++ '|' :: label.2.toList := by
    simp
  have unquoted : Text.EndsOutside (· == '\'') (label.1 ++ "|" ++ label.2).toList := by
    rw [parts]
    exact askable.buildTypeUnquoted.append_cons (by decide) askable.platformUnquoted
  have whole : Text.trim (label.1 ++ "|" ++ label.2).toList =
      label.1.toList ++ '|' :: label.2.toList := by
    rw [parts]
    exact ((trimmed_eq_self_iff.mp askable.buildTypeWhole).append_cons (by decide)
      (trimmed_eq_self_iff.mp askable.platformWhole)).strip_eq
  rw [conditionFor, ofCondition?_comparison (by simp) unquoted, Selection.ofValue, whole,
    Text.cutAt_append askable.uncut]
  simp only [String.ofList_toList]

end Labels

section Places

variable {subject : Subject} {gap value : String} {configuration : Configuration}
  {configurations : List Configuration}

/-- The places of the configurations that a condition selects. -/
def selectedPlaces (condition : Option String) (configurations : List Configuration) : List Nat :=
  configurations.findIdxs (selected condition configurations).value

/-- A step for the selected configurations changes those at the selected places. -/
theorem getElem?_forSelected (condition : Option String)
    (step : Configuration → Reading Configuration) (project : Project) (place : Nat) :
    (forSelected condition step project).value.configurations[place]? =
      project.configurations[place]?.map fun configuration =>
        if place ∈ selectedPlaces condition project.configurations then (step configuration).value
        else configuration := by
  simp only [forSelected, Reported.value_bind, Reported.value_pure, Reported.value_forEach,
    List.getElem?_map]
  cases found : project.configurations[place]? with
  | none => rfl
  | some configuration =>
    obtain ⟨within, rfl⟩ := List.getElem?_eq_some_iff.mp found
    simp only [Option.map_some, selectedPlaces, List.mem_findIdxs_iff_pos_getElem within]
    split <;> rfl

/-- Two properties have the same places in a list if they are the same for what is in it. -/
theorem findIdxs_eq_findIdxs_iff {α : Type} {p q : α → Bool} {list : List α} :
    list.findIdxs p = list.findIdxs q ↔ ∀ a ∈ list, p a = q a := by
  constructor
  · intro same a listed
    obtain ⟨place, within, rfl⟩ := List.getElem_of_mem listed
    rw [Bool.eq_iff_iff, ← List.mem_findIdxs_iff_pos_getElem within, same,
      List.mem_findIdxs_iff_pos_getElem within]
  · intro same
    rw [List.findIdxs_eq_filterMap_zipIdx, List.findIdxs_eq_filterMap_zipIdx]
    refine List.filterMap_congr fun (a, place) listed => ?_
    rw [same a (List.fst_mem_of_mem_zipIdx listed)]

instance (text : String) : Decidable (IsLabel text) :=
  decidable_of_iff (trimmed text = text ∧ '|' ∉ text.toList ∧ '\'' ∉ text.toList)
    ⟨fun ⟨whole, uncut, unquoted⟩ => ⟨whole, uncut, unquoted⟩,
      fun ⟨whole, uncut, unquoted⟩ => ⟨whole, uncut, unquoted⟩⟩

/-- The build type and the platform of a configuration are labels. -/
def IsLabelled (configuration : Configuration) : Prop :=
  IsLabel configuration.buildType ∧ IsLabel configuration.platform

instance (configuration : Configuration) : Decidable (IsLabelled configuration) :=
  inferInstanceAs (Decidable (_ ∧ _))

/-- A value that a full name or a build type can have: it is trimmed, and has a bar just if it is
a full name. -/
def Subject.Admits (subject : Subject) (value : String) : Prop :=
  trimmed value = value ∧ ('|' ∈ value.toList ↔ subject = .fullName)

instance (subject : Subject) (value : String) : Decidable (subject.Admits value) :=
  inferInstanceAs (Decidable (_ ∧ (_ ↔ _)))

/-- Full names and build types of labelled configurations are values that these can have. -/
theorem admits_valueIn (labelled : IsLabelled configuration) (named : subject ≠ .platform) :
    subject.Admits (valueIn configuration subject.text) := by
  obtain ⟨buildType, platform⟩ := labelled
  rw [valueIn_text]
  cases subject with
  | platform => exact absurd rfl named
  | buildType => exact ⟨buildType.whole, by simpa using buildType.uncut⟩
  | fullName =>
    refine ⟨trimmed_eq_self_iff.mpr ?_, by simp [Configuration.fullName]⟩
    have ends := (trimmed_eq_self_iff.mp buildType.whole).append_cons (c := '|') (by decide)
      (trimmed_eq_self_iff.mp platform.whole)
    simpa [Configuration.fullName] using ends

/-- A value that a full name or a build type can have names the configurations that have it. -/
theorem namedBy_iff_of_admits (named : subject ≠ .platform) (admitted : subject.Admits value) :
    NamedBy value configuration ↔ valueIn configuration subject.text = value := by
  obtain ⟨whole, barred⟩ := admitted
  rw [NamedBy, whole, valueIn_text]
  cases subject with
  | platform => exact absurd rfl named
  | buildType => rw [if_neg (by simp [barred])]
  | fullName => rw [if_pos (barred.mpr rfl)]

/-- A condition that compares something with a value, between single quotes, selects the
configurations of which it is true just in these cases: it compares full names or build types, and
the value is one that these can have, or names no configuration at all; or it compares platforms,
and the value names just the configurations that have it for their platform. -/
theorem selectedPlaces_right_iff (subject : Subject) (gap value : String)
    (labelled : ∀ configuration ∈ configurations, IsLabelled configuration)
    (blank : ∀ c ∈ gap.toList, Text.isBlank c = true) (unquoted : '\'' ∉ value.toList) :
    selectedPlaces (some (comparison subject gap value)) configurations =
        configurations.findIdxs (fun configuration => valueIn configuration subject.text = value) ↔
      (subject ≠ .platform → subject.Admits value ∨
        ∀ configuration ∈ configurations, ¬ NamedBy value configuration) ∧
      (subject = .platform → ∀ configuration ∈ configurations,
        NamedBy value configuration ↔ configuration.platform = value) := by
  have outside : Text.EndsOutside (· == '\'') value.toList :=
    .of_forall fun c listed => beq_eq_false_iff_ne.mpr fun quote => unquoted (quote ▸ listed)
  have agreement : selectedPlaces (some (comparison subject gap value)) configurations =
        configurations.findIdxs (fun configuration => valueIn configuration subject.text = value) ↔
      ∀ configuration ∈ configurations,
        NamedBy value configuration ↔ valueIn configuration subject.text = value := by
    rw [selectedPlaces, findIdxs_eq_findIdxs_iff, selected, ofCondition?_comparison blank outside]
    refine forall₂_congr fun configuration listed => ?_
    rw [← selects_ofValue_iff (labelled configuration listed).1.uncut, Bool.eq_iff_iff,
      decide_eq_true_iff]
    rfl
  rw [agreement]
  by_cases platforms : subject = .platform
  · subst platforms
    simp [valueIn_text]
  · simp only [platforms, not_false_eq_true, forall_const, false_implies, and_true, ne_eq]
    constructor
    · intro right
      by_cases admitted : subject.Admits value
      · exact .inl admitted
      · refine .inr fun configuration listed named => admitted ?_
        rw [← (right configuration listed).mp named]
        exact admits_valueIn (labelled configuration listed) platforms
    · rintro (admitted | unnamed) configuration listed
      · exact namedBy_iff_of_admits platforms admitted
      · refine iff_of_false (unnamed configuration listed) fun has => ?_
        have admitted := admits_valueIn (labelled configuration listed) platforms
        rw [has] at admitted
        exact unnamed configuration listed ((namedBy_iff_of_admits platforms admitted).mpr has)

/-- Two build types for two platforms. -/
def matrix : List Configuration :=
  [{ buildType := "Debug", platform := "Win32" }, { buildType := "Debug", platform := "x64" },
    { buildType := "Release", platform := "Win32" }, { buildType := "Release", platform := "x64" }]

/-- Full names and build types select the configurations that have them. -/
theorem selectedPlaces_right_matrix :
    (∀ configuration ∈ matrix, IsLabelled configuration) ∧
      selectedPlaces (some "'$(Configuration)|$(Platform)'=='Release|Win32'") matrix = [2] ∧
      selectedPlaces (some "'$(Configuration)' == 'Debug'") matrix = [0, 1] := by
  have labelled : ∀ configuration ∈ matrix, IsLabelled configuration := by decide
  refine ⟨labelled, ?_, ?_⟩
  · exact (selectedPlaces_right_iff .fullName "" "Release|Win32" labelled
      (List.all_eq_true.mp (by decide)) (by decide)).mpr (by decide)
  · exact (selectedPlaces_right_iff .buildType " " "Debug" labelled
      (List.all_eq_true.mp (by decide)) (by decide)).mpr (by decide)

/-- A platform selects no configuration that has it. -/
theorem platformAlone_unselected :
    (∀ configuration ∈ matrix, IsLabelled configuration) ∧
      matrix.findIdxs (fun configuration => valueIn configuration "$(Platform)" = "x64") = [1, 3] ∧
      selectedPlaces (some "'$(Platform)'=='x64'") matrix = [] := by
  decide

end Places

end ProjectScribe.Reading.ElementFormat
