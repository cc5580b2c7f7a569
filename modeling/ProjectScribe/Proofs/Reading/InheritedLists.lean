import ProjectScribe.Proofs.Reading.Definitions
import ProjectScribe.Proofs.Reading.ToolSettings

/-!
# Inherited values of lists

A group of settings can go on with the values that a list has so far, by an item that stands for
them. The reader leaves this item out. For definitions nothing is lost by that, since every group
adds its own to those that are there. But every other list is replaced as a whole, so that a
configuration has the items of the last value that is stated for it and no others: what earlier
groups state is kept exactly if the last value repeats it.
-/
namespace ProjectScribe

namespace Defines

/-- The keys of definitions. -/
def keys (defines : Defines) : List String := defines.entries.map (·.1)

/-- A value under a key adds just the key. -/
theorem mem_keys_insert {defines : Defines} {key value other : String} :
    other ∈ (defines.insert key value).keys ↔ other = key ∨ other ∈ defines.keys :=
  mem_keys_insertInto

/-- Values under keys add just these keys. -/
theorem mem_keys_insertAll {defines : Defines} {pairs : List (String × String)} {key : String} :
    key ∈ (defines.insertAll pairs).keys ↔ key ∈ pairs.map (·.1) ∨ key ∈ defines.keys := by
  induction pairs generalizing defines with
  | nil => simp [insertAll]
  | cons pair rest inductionHypothesis =>
    have further := @inductionHypothesis (defines.insert pair.1 pair.2)
    rw [mem_keys_insert] at further
    refine further.trans ?_
    rw [List.map_cons, List.mem_cons]
    exact or_left_comm.trans or_assoc.symm

end Defines

namespace Reading.ElementFormat

open Xml (Element)

section Groups

/-- For each configuration that elements declare, in order, the groups of settings behind its
declaration that define tools and apply to it. -/
def declaredGroups : List Element → List (List Element)
  | [] => []
  | part :: rest => (declarations part).map (definitionGroups rest) ++ declaredGroups rest

/-- The groups of settings for each configuration that a document declares. -/
def settingGroups (document : Element) : List (List Element) :=
  if document.name = "Project" then declaredGroups document.children else []

/-- What holds of every configuration without tools and what elements make of it, holds of all
configurations that are read. -/
theorem forall₂_configurationsOf {relation : List Element → Configuration → Prop}
    (each : ∀ (parts : List Element) (configuration : Configuration),
      configuration.compilers = [] ∧ configuration.linkers = [] →
        relation (definitionGroups parts configuration) (settledBy parts configuration))
    (document : Element) (companion : Option Element) (fallback : String) :
    List.Forall₂ relation (settingGroups document) (configurationsOf document companion fallback) := by
  have every : ∀ parts : List Element,
      List.Forall₂ relation (declaredGroups parts) (configurationsFrom parts) := by
    intro parts
    induction parts with
    | nil => exact .nil
    | cons part rest inductionHypothesis =>
      rw [declaredGroups, configurationsFrom]
      refine List.rel_append ?_ inductionHypothesis
      rw [List.forall₂_map_left_iff, List.forall₂_map_right_iff, List.forall₂_same]
      intro configuration declared
      unfold declarations at declared
      split at declared
      · obtain ⟨element, -, rfl⟩ := List.mem_map.mp declared
        exact each rest _ (tools_readDeclaration element)
      · cases declared
  rw [settingGroups, configurationsOf_eq]
  split
  · exact every document.children
  · exact .nil

end Groups

section Definitions

/-- The values that groups state for the definitions of the compiler. -/
def statedDefinitions (groups : List Element) : List String :=
  statedValues ["ClCompile"] "PreprocessorDefinitions" groups

/-- The keys that are defined in a configuration. -/
def definedKeys (configuration : Configuration) : List String :=
  configuration.compilers.flatMap (·.defines.keys)

/-- What an element of the compiler makes of definitions: if it states some, they are added. -/
def addDefinitions (element : Element) (defines : Defines) : Defines :=
  if element.name = "PreprocessorDefinitions" then
    defines.insertAll ((ownItems (textOf element)).map definition)
  else defines

theorem defines_readCompilerElement (compiler : CompilerSettings) (element : Element) :
    (readCompilerElement element.name (textOf element) compiler).value.defines =
      addDefinitions element compiler.defines := by
  rw [addDefinitions]
  generalize textOf element = value
  unfold readCompilerElement
  split <;> simp_all [Defines.insertAll]

/-- Elements add to definitions what they state, one after the other. -/
theorem foldl_addDefinitions (elements : List Element) (defines : Defines) :
    elements.foldl (fun defines element => addDefinitions element defines) defines =
      defines.insertAll ((((elements.filter (·.name = "PreprocessorDefinitions")).map
        textOf).flatMap ownItems).map definition) := by
  induction elements generalizing defines with
  | nil => rfl
  | cons element rest inductionHypothesis =>
    rw [List.foldl_cons, inductionHypothesis, addDefinitions, List.filter_cons]
    by_cases named : element.name = "PreprocessorDefinitions"
    · rw [if_pos named, if_pos (by simpa using named), List.map_cons, List.flatMap_cons,
        List.map_append, Defines.insertAll, Defines.insertAll, Defines.insertAll,
        List.foldl_append]
    · rw [if_neg named, if_neg (by simpa using named)]

/-- A configuration defines the keys of all definitions that are stated for it, and no others. -/
theorem mem_definedKeys_settledBy {parts : List Element} {configuration : Configuration}
    (fresh : configuration.compilers = [] ∧ configuration.linkers = []) {key : String} :
    key ∈ definedKeys (settledBy parts configuration) ↔
      ∃ value ∈ statedDefinitions (definitionGroups parts configuration),
        ∃ item ∈ ownItems value, (definition item).1 = key := by
  have none : (compilerOf configuration).defines = {} := by
    rw [compilerOf, fresh.1]
    rfl
  have changed : (compilerOf (settledBy parts configuration)).defines =
      Defines.insertAll {} (((statedDefinitions (definitionGroups parts configuration)).flatMap
        ownItems).map definition) := by
    have changes : ChangedBy (fun configuration => (compilerOf configuration).defines)
        ["ClCompile"] addDefinitions :=
      changedBy_compiler CompilerSettings.defines defines_readCompilerElement
    rw [changes.settledBy, foldl_addDefinitions, none]
    rfl
  have single : definedKeys (settledBy parts configuration) =
      (compilerOf (settledBy parts configuration)).defines.keys :=
    (hasFewTools_settledBy parts fresh).compilers_flatMap (by simp [Defines.keys])
  rw [single, changed, Defines.mem_keys_insertAll]
  constructor
  · rintro (added | initially)
    · obtain ⟨pair, defined, rfl⟩ := List.mem_map.mp added
      obtain ⟨item, listed, rfl⟩ := List.mem_map.mp defined
      obtain ⟨value, stated, within⟩ := List.mem_flatMap.mp listed
      exact ⟨value, stated, item, within, rfl⟩
    · exact absurd initially List.not_mem_nil
  · rintro ⟨value, stated, item, within, rfl⟩
    have listed := List.mem_flatMap.mpr ⟨value, stated, within⟩
    exact .inl (List.mem_map_of_mem (List.mem_map_of_mem listed))

end Definitions

section Lists

/-- Whether a list has all items that are stated for it. -/
def ListSetting.KeepsAll (setting : ListSetting) (groups : List Element)
    (configuration : Configuration) : Prop :=
  ∀ value ∈ setting.stated groups, setting.items value ⊆ setting.of configuration

/-- Of what is stated for a list of a configuration the last value counts, and nothing else. So
the list has all items that are stated for it exactly if the last value repeats those of the
others. The definitions of the configuration have all keys that are stated for them. -/
theorem lists_inherited (document : Element) (companion : Option Element) (fallback : String) :
    List.Forall₂ (fun groups configuration =>
        (∀ setting : ListSetting,
          setting.of configuration =
              ((setting.stated groups).getLast?.map setting.items).getD [] ∧
            (setting.KeepsAll groups configuration ↔
              ∀ last ∈ (setting.stated groups).getLast?, ∀ value ∈ setting.stated groups,
                setting.items value ⊆ setting.items last)) ∧
          ∀ key, key ∈ definedKeys configuration ↔
            ∃ value ∈ statedDefinitions groups, ∃ item ∈ ownItems value,
              (definition item).1 = key)
      (settingGroups document) (configurationsOf document companion fallback) := by
  refine forall₂_configurationsOf (fun parts configuration fresh => ⟨fun setting => ?_, ?_⟩)
    document companion fallback
  · have counts := setting.of_settledBy parts fresh
    refine ⟨counts, ?_⟩
    rw [ListSetting.KeepsAll, counts]
    cases last : (setting.stated (definitionGroups parts configuration)).getLast? with
    | none =>
      rw [List.getLast?_eq_none_iff] at last
      simp [last]
    | some value => simp
  · exact fun key => mem_definedKeys_settledBy fresh

/-- A group of settings that states directories in which headers are sought. -/
def searching (directories : String) : Element :=
  .mk "ItemDefinitionGroup" [] "" [.mk "ClCompile" [] "" [
    .mk "AdditionalIncludeDirectories" [] directories []]]

/-- A project with two groups of settings, of which the second goes on with the directories of
the first. -/
def searchingOn : Element :=
  .mk "Project" [] "" [
    .mk "ItemGroup" [⟨"Label", "ProjectConfigurations"⟩] "" [
      .mk "ProjectConfiguration" [⟨"Include", "Debug|x64"⟩] "" []],
    searching "a", searching "%(AdditionalIncludeDirectories);b"]

/-- Not every list goes on with the values of an earlier group when a later one asks for them: the
directories of the first group are gone. -/
theorem directories_dropped :
    ¬ ∀ (document : Element) (companion : Option Element) (fallback : String)
        (setting : ListSetting),
      List.Forall₂ (fun groups configuration => ∀ first second,
          setting.stated groups = [first, second] →
            "%(" ++ setting.element ++ ")" ∈ items isSemicolon second →
              setting.items first ⊆ setting.of configuration ∧
                setting.items second ⊆ setting.of configuration)
        (settingGroups document) (configurationsOf document companion fallback) := by
  intro kept
  have groups : settingGroups searchingOn =
      [[searching "a", searching "%(AdditionalIncludeDirectories);b"]] := by rfl
  obtain ⟨configuration, single, only⟩ : ∃ configuration,
      configurationsOf searchingOn none "p" = [configuration] ∧
        ListSetting.includeDirs.of configuration = ["b"] := ⟨_, rfl, by decide⟩
  have both := kept searchingOn none "p" .includeDirs
  rw [groups, single] at both
  cases both with
  | cons here _ =>
    have first := (here "a" "%(AdditionalIncludeDirectories);b" rfl (by decide)).1
    rw [only] at first
    exact absurd first (by decide)

end Lists

end Reading.ElementFormat

end ProjectScribe
