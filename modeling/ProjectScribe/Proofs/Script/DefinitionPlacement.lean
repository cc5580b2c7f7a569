import ProjectScribe.Proofs.Mapping.Precedence
import ProjectScribe.Proofs.Mapping.PushHistory
import ProjectScribe.Proofs.Reading.Definitions
import ProjectScribe.Proofs.Script.Placement

/-!
# Where definitions are placed

Definitions are placed by their keys, one for each key, and what a table makes of a key goes through
buckets of its own before it joins what is gathered. The detour does not show: the definitions are
read as if every token had been pushed at once, in the order in which the entry of the key states
them. So with nothing in the table each key is defined once, for every platform.
-/
namespace ProjectScribe.Script.Source

open Mapping
open PlatformTokens (ReadAlike pushAll_append readAlike_regrouped)

variable {source : Source} {configuration : Configuration} {definition : String × String}
  {definitions stated : List (String × String)} {key value : String}

section Distinct

/-- All definitions that are stated for a configuration: those of its compilers in order, each with
its definitions in the order of their keys, and those that its character set brings with it. -/
def statedDefinitions (configuration : Configuration) : List (String × String) :=
  configuration.compilers.flatMap (·.defines.entries) ++
    (charsetDefines configuration.charset).map fun key => (key, "")

/-- One definition for each key, in the order in which the keys come up: the first that is stated. -/
def firstStated (stated : List (String × String)) : List (String × String) :=
  (stated.map (·.1)).eraseDups.filterMap fun key => stated.find? (·.1 = key)

theorem find?_key_of_mem (listed : key ∈ stated.map (·.1)) :
    ∃ definition, stated.find? (·.1 = key) = some definition ∧ definition.1 = key := by
  cases found : stated.find? (·.1 = key) with
  | some definition => exact ⟨definition, rfl, by simpa using List.find?_some found⟩
  | none =>
    obtain ⟨definition, among, same⟩ := List.mem_map.mp listed
    exact absurd (by simpa using same) (List.find?_eq_none.mp found definition among)

/-- The first definition counts, and no further one with its key. -/
theorem firstStated_cons (key value : String) (stated : List (String × String)) :
    firstStated ((key, value) :: stated) =
      (key, value) :: (firstStated stated).filter (·.1 ≠ key) := by
  have others : ∀ other ∈ (stated.map (·.1)).eraseDups.filter (!· == key),
      ((key, value) :: stated).find? (·.1 = other) = stated.find? (·.1 = other) := by
    intro other listed
    have apart : other ≠ key := by simpa using (List.mem_filter.mp listed).2
    rw [List.find?_cons_of_neg (by simpa using apart.symm)]
  have kept : ∀ other, (if !other == key then stated.find? (·.1 = other) else none) =
      (stated.find? (·.1 = other)).filter (·.1 ≠ key) := by
    intro other
    cases found : stated.find? (·.1 = other) with
    | none => simp
    | some definition =>
      have same : definition.1 = other := by simpa using List.find?_some found
      by_cases apart : other = key <;> simp [Option.filter, same, apart]
  rw [firstStated, List.map_cons, List.eraseDups_cons, PlatformTokens.eraseDups_filter,
    List.filterMap_cons_some (b := (key, value)) (by simp), List.filterMap_congr others,
    List.filterMap_filter, firstStated, List.filter_filterMap]
  simp only [kept]

theorem mem_of_mem_firstStated (listed : definition ∈ firstStated stated) :
    definition ∈ stated := by
  obtain ⟨key, -, found⟩ := List.mem_filterMap.mp listed
  exact List.mem_of_find?_eq_some found

/-- The keys that are defined are those that come up, each once. -/
theorem keys_firstStated (stated : List (String × String)) :
    (firstStated stated).map (·.1) = (stated.map (·.1)).eraseDups := by
  have found : ∀ key ∈ (stated.map (·.1)).eraseDups,
      (stated.find? (·.1 = key)).map (·.1) = some key := by
    intro key listed
    obtain ⟨definition, found, same⟩ := find?_key_of_mem (List.mem_eraseDups.mp listed)
    rw [found, Option.map_some, same]
  rw [firstStated, List.map_filterMap, List.filterMap_congr found, List.filterMap_some]

/-- Definitions are added to others by the keys that these lack. -/
theorem addDefines_eq (definitions stated : List (String × String)) :
    addDefines definitions stated =
      definitions ++ (firstStated stated).filter (·.1 ∉ definitions.map (·.1)) := by
  induction stated generalizing definitions with
  | nil => simp [addDefines, firstStated]
  | cons definition rest inductionHypothesis =>
    obtain ⟨key, value⟩ := definition
    rw [addDefines, firstStated_cons]
    by_cases known : key ∈ definitions.map (·.1)
    · have same : ∀ other : String × String, decide (other.1 ∉ definitions.map (·.1)) =
          (decide (other.1 ∉ definitions.map (·.1)) && decide (other.1 ≠ key)) := by
        intro other
        by_cases keyed : other.1 = key <;> simp [keyed, known]
      rw [if_pos (by simpa using known), inductionHypothesis,
        List.filter_cons_of_neg (by simpa using known), List.filter_filter]
      simp only [← same]
    · have more : ∀ other : String × String,
          decide (other.1 ∉ (definitions ++ [(key, value)]).map (·.1)) =
            (decide (other.1 ∉ definitions.map (·.1)) && decide (other.1 ≠ key)) := by
        intro other
        by_cases keyed : other.1 = key <;> simp [keyed]
      rw [if_neg (by simpa using known), inductionHypothesis,
        List.filter_cons_of_pos (by simpa using known), List.filter_filter, List.append_assoc]
      simp only [more]
      rfl

theorem distinctDefines_eq (configuration : Configuration) :
    distinctDefines configuration = firstStated (statedDefinitions configuration) := by
  rw [distinctDefines, addDefines_eq]
  simp [statedDefinitions]

end Distinct

section Direct

/-- The value of a definition as it is translated. -/
def translatedValue (source : Source) (definition : String × String) : String :=
  (translate source.names definition.2).value

/-- The tokens that the entry of a key states, pushed at once and in this order. The key itself
keeps its value. -/
def placeAtOnce (source : Source) (gathered : PlatformTokens) (definition : String × String) :
    PlatformTokens :=
  let (key, _) := definition
  let value := source.translatedValue definition
  (Table.placementsBy key (source.tables.defines.lookup key)).foldl
    (fun gathered (platform, token) =>
      gathered.push platform (if token = key ∧ value ≠ "" then key ++ "=" ++ value else token))
    gathered

/-- What is pushed at once for a definition. -/
def pushedAtOnce (source : Source) (definition : String × String) : List (String × String) :=
  (source.tables.defines.placements definition.1).map fun (platform, token) =>
    (platform, definitionText definition.1 (source.translatedValue definition) token)

theorem placeAtOnce_eq (source : Source) (gathered : PlatformTokens)
    (definition : String × String) :
    source.placeAtOnce gathered definition = gathered.pushAll (source.pushedAtOnce definition) := by
  rw [pushedAtOnce, Table.placements_eq, PlatformTokens.pushAll, List.foldl_map]
  rfl

theorem foldl_placeAtOnce (source : Source) (gathered : PlatformTokens)
    (definitions : List (String × String)) :
    definitions.foldl source.placeAtOnce gathered =
      gathered.pushAll (definitions.flatMap source.pushedAtOnce) := by
  induction definitions generalizing gathered with
  | nil => rfl
  | cons definition rest inductionHypothesis =>
    rw [List.foldl_cons, inductionHypothesis, placeAtOnce_eq, List.flatMap_cons, pushAll_append]

/-- The detour of a key through buckets of its own does not show. -/
theorem readAlike_definitionPlacements (source : Source) (definition : String × String) :
    ReadAlike (source.definitionPlacements definition) (source.pushedAtOnce definition) :=
  readAlike_regrouped (source.tables.defines.placements definition.1)
    (definitionText definition.1 (source.translatedValue definition))

theorem toList_defines (source : Source) (configuration : Configuration) :
    (source.defines configuration).value.toList =
      ((distinctDefines configuration).foldl source.placeAtOnce .empty).toList := by
  rw [value_defines, foldl_placeAtOnce]
  exact (ReadAlike.flatMap fun definition _ =>
    source.readAlike_definitionPlacements definition).toList_eq

/-- Definitions without values are what the table makes of their keys. -/
theorem placeAtOnce_of_no_value (valueless : source.translatedValue definition = "")
    (gathered : PlatformTokens) : source.placeAtOnce gathered definition =
      source.tables.defines.resolveInto definition.1 gathered := by
  have same : source.pushedAtOnce definition = source.tables.defines.placements definition.1 := by
    simp [pushedAtOnce, definitionText, valueless]
  rw [placeAtOnce_eq, same]
  rfl

end Direct

section Untranslated

/-- What a definition is where its key is not mapped. -/
def ownText (source : Source) (definition : String × String) : String :=
  if source.translatedValue definition = "" then definition.1
  else definition.1 ++ "=" ++ source.translatedValue definition

/-- The key that a text defines: what stands before its first equals sign. -/
def definedKey (text : String) : String := String.ofList (text.toList.takeWhile (· ≠ '='))

theorem definedKey_ownText (plain : '=' ∉ definition.1.toList) :
    definedKey (source.ownText definition) = definition.1 := by
  have within : ∀ c ∈ definition.1.toList, decide (c ≠ '=') = true := by
    intro c listed
    simpa using ne_of_mem_of_not_mem listed plain
  rw [ownText, definedKey]
  split
  · rw [List.takeWhile_eq_self_iff.mpr within, String.ofList_toList]
  · rw [String.toList_append, String.toList_append, List.append_assoc,
      List.takeWhile_append_of_pos within]
    simp

/-- Character sets bring keys without equals signs. -/
theorem plain_charsetDefines {charset : CharacterSet} (brought : key ∈ charsetDefines charset) :
    '=' ∉ key.toList := by
  have plain : ∀ charset, ∀ key ∈ charsetDefines charset, '=' ∉ key.toList := by
    intro charset
    cases charset <;> decide
  exact plain charset key brought

theorem plain_of_mem_stated
    (plain : ∀ compiler ∈ configuration.compilers, ∀ definition ∈ compiler.defines.entries,
      '=' ∉ definition.1.toList) :
    ∀ definition ∈ statedDefinitions configuration, '=' ∉ definition.1.toList := by
  intro definition listed
  rcases List.mem_append.mp listed with ofCompiler | ofCharset
  · obtain ⟨compiler, among, defined⟩ := List.mem_flatMap.mp ofCompiler
    exact plain compiler among definition defined
  · obtain ⟨key, brought, rfl⟩ := List.mem_map.mp ofCharset
    exact plain_charsetDefines brought

/-- Each key that is stated is defined once. -/
theorem definedKeys_ownTexts (source : Source)
    (plain : ∀ definition ∈ stated, '=' ∉ definition.1.toList) :
    ((firstStated stated).map source.ownText).map definedKey = (stated.map (·.1)).eraseDups := by
  rw [List.map_map, ← keys_firstStated]
  refine List.map_congr_left fun definition listed => ?_
  exact definedKey_ownText (plain definition (mem_of_mem_firstStated listed))

theorem pushedAtOnce_of_empty (unmapped : source.tables.defines = .empty)
    (definition : String × String) :
    source.pushedAtOnce definition = [(everyPlatform, source.ownText definition)] := by
  rw [pushedAtOnce, unmapped, Table.placements_empty, List.map_singleton, ownText]
  by_cases valueless : source.translatedValue definition = "" <;>
    simp [definitionText, valueless]

/-- Without a table the definitions are read as they are, for every platform. -/
theorem toList_defines_of_empty (unmapped : source.tables.defines = .empty)
    (distinct : ((distinctDefines configuration).map source.ownText).Nodup) :
    (source.defines configuration).value.toList =
      if distinctDefines configuration = [] then []
      else [(everyPlatform, (distinctDefines configuration).map source.ownText)] := by
  have pushed : (distinctDefines configuration).flatMap source.pushedAtOnce =
      ((distinctDefines configuration).map source.ownText).map fun token =>
        (everyPlatform, token) := by
    rw [List.map_map, List.map_eq_flatMap]
    exact List.flatMap_congr fun definition _ => source.pushedAtOnce_of_empty unmapped definition
  rw [toList_defines, foldl_placeAtOnce, pushed, PlatformTokens.toList_everywhere distinct]
  simp only [List.map_eq_nil_iff]

end Untranslated

/-- The definitions of a configuration, one for each key that is stated, are read as if the tokens
of the entry of each key had been pushed at once; where no definition has a value, as if each key
had been resolved into what is gathered. Without a table each key is defined once, for every
platform, with the value that is stated first. The definitions of a compiler, which have been
written key by key, stand in the order of their keys. -/
theorem defines_at_once (source : Source) (configuration : Configuration) :
    let stated := statedDefinitions configuration
    let definitions := firstStated stated
    let placed := (source.defines configuration).value
    placed.toList = (definitions.foldl source.placeAtOnce .empty).toList ∧
      ((∀ definition ∈ definitions, source.translatedValue definition = "") →
        placed.toList = (definitions.foldl (fun gathered definition =>
          source.tables.defines.resolveInto definition.1 gathered) .empty).toList) ∧
      (source.tables.defines = .empty →
        (∀ compiler ∈ configuration.compilers, ∀ definition ∈ compiler.defines.entries,
          '=' ∉ definition.1.toList) →
        placed.toList = (if definitions = [] then []
          else [("ALL", definitions.map source.ownText)]) ∧
        (definitions.map source.ownText).map definedKey = (stated.map (·.1)).eraseDups) ∧
      ∀ pairs, (Defines.insertAll {} pairs).Ordered := by
  intro stated definitions placed
  have distinct : distinctDefines configuration = definitions := distinctDefines_eq configuration
  have atOnce := source.toList_defines configuration
  rw [distinct] at atOnce
  refine ⟨atOnce, fun valueless => ?_, fun unmapped plain => ?_,
    fun pairs => Defines.Ordered.insertAll List.Pairwise.nil pairs⟩
  · rw [atOnce]
    congr 1
    exact List.foldl_ext _ _ _ fun gathered definition listed =>
      placeAtOnce_of_no_value (valueless definition listed) gathered
  · have keys := source.definedKeys_ownTexts (plain_of_mem_stated plain)
    have once : (definitions.map source.ownText).Nodup := by
      refine List.Nodup.of_map definedKey ?_
      rw [keys]
      exact PlatformTokens.nodup_eraseDups _
    rw [← distinct] at once ⊢
    exact ⟨toList_defines_of_empty unmapped once, distinct ▸ keys⟩

end ProjectScribe.Script.Source
