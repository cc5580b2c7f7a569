import ProjectScribe.Proofs.Script.BodyInstructions
import ProjectScribe.Proofs.Script.VariableReferences

/-!
# References to variables that scripts still contain

What a script draws from the directories, libraries, definitions, files and flags of a project is
translated, so that no reference to a variable of the build is left in it. Two things are not: the
keys of definitions, of which only the values are translated, and the names of build types, which
stand in everything that is for one configuration only. Without mapping tables these are the only
ways in which a reference gets into what is drawn, if the name of the project file is fit to stand
for a variable.
-/
namespace ProjectScribe.Script

open Instruction (under listed appendProperty)
open Mapping (everyPlatform PlatformTokens Table)

section Texts

theorem not_refers_nil {name : List Char} : ¬ Refers [] name := by
  rintro ⟨-, inside⟩
  exact absurd (List.infix_nil.mp inside) (by simp [referenceTo])

/-- A definition refers to a variable if its key or its value does. -/
theorem hasReference_definition_iff (key value : String) :
    HasReference (key ++ "=" ++ value) ↔ HasReference key ∨ HasReference value := by
  unfold HasReference
  rw [← exists_or]
  refine exists_congr fun name => ?_
  have written : (key ++ "=" ++ value).toList = key.toList ++ '=' :: value.toList := by simp
  rw [written]
  exact refers_append_cons_iff (by decide) (by decide)

/-- A value for one configuration refers to a variable if the value or the configuration does. -/
theorem hasReference_onlyIn_iff (identifier value : String) :
    HasReference (Source.onlyIn identifier value) ↔
      HasReference identifier ∨ HasReference value := by
  have written : (Source.onlyIn identifier value).toList =
      "$<$<CONFIG".toList ++ ':' :: (identifier.toList ++ '>' :: ([] ++ ':' ::
        (value.toList ++ '>' :: []))) := by simp [Source.onlyIn]
  have start : ¬ HasReference "$<$<CONFIG" := by decide
  unfold HasReference at start ⊢
  rw [← exists_or]
  refine exists_congr fun name => ?_
  have before : ¬ Refers "$<$<CONFIG".toList name := fun refers => start ⟨name, refers⟩
  rw [written, refers_append_cons_iff (by decide) (by decide),
    refers_append_cons_iff (by decide) (by decide), refers_append_cons_iff (by decide) (by decide),
    refers_append_cons_iff (by decide) (by decide), or_iff_right before,
    or_iff_right not_refers_nil, or_iff_left not_refers_nil]

/-- Texts with blanks between them refer to no variable if none of them does. -/
theorem not_hasReference_intercalate {texts : List String}
    (free : ∀ text ∈ texts, ¬ HasReference text) :
    ¬ HasReference (" " ++ " ".intercalate texts) := by
  have joined : ∀ (name : List Char) (parts : List (List Char)),
      (∀ part ∈ parts, ¬ Refers part name) → ¬ Refers ([' '].intercalate parts) name := by
    intro name parts free
    induction parts with
    | nil => simpa using not_refers_nil
    | cons first rest inductionHypothesis =>
      rw [List.forall_mem_cons] at free
      cases rest with
      | nil => simpa using free.1
      | cons second others =>
        rw [List.intercalate_cons_cons, List.append_assoc, List.singleton_append,
          refers_append_cons_iff (by decide) (by decide)]
        exact not_or.mpr ⟨free.1, inductionHypothesis free.2⟩
  rintro ⟨name, refers⟩
  have written : (" " ++ " ".intercalate texts).toList =
      [] ++ ' ' :: [' '].intercalate (texts.map String.toList) := by simp
  rw [written, refers_append_cons_iff (by decide) (by decide), or_iff_right not_refers_nil]
    at refers
  refine joined name _ (List.forall_mem_map.mpr fun text listed refersToo => ?_) refers
  exact free text listed ⟨name, refersToo⟩

end Texts

section Drawn

/-- The arguments of an instruction that are drawn from the directories, libraries, definitions,
files and flags of a project: directories and libraries, the values of a variable for sources, and
what is added to a property behind the target, the way in which it is added, and the property. -/
def Instruction.drawn : Instruction → List String
  | .command name arguments =>
    if name = "include_directories" ∨ name = "link_directories" then arguments
    else if name = "target_link_libraries" then arguments.drop 1
    else if name = "set" then
      if arguments.head?.any (Text.startsWith "SOURCES_files".toList ·.toList) then
        arguments.drop 1
      else []
    else if name = "set_property" then arguments.drop 5
    else []
  | _ => []

namespace Source

variable {source : Source} {tokens : List String} {platform text : String} {list : List String}
  {configuration : Configuration}

/-- From an assignment to a variable for sources, its values are drawn. -/
theorem drawn_sources (group : String) (files : List String) :
    (Instruction.command "set" (sourcesVariable group :: files)).drawn = files := by
  have started : ∀ rest, Text.startsWith "SOURCES_files".toList ("SOURCES_files".toList ++ rest) =
      true := fun rest => by
    rw [Text.startsWith, Option.isSome_iff_exists]
    exact ⟨rest, Text.afterStart?_eq_some_iff.mpr rfl⟩
  have starts : Text.startsWith "SOURCES_files".toList (sourcesVariable group).toList = true := by
    unfold sourcesVariable
    split
    · simpa using started []
    · have written : ("SOURCES_files_" ++ variablePart group).toList =
          "SOURCES_files".toList ++ '_' :: (variablePart group).toList := by simp
      rw [written]
      exact started _
  have named : (Instruction.command "set" (sourcesVariable group :: files)).drawn =
      if Text.startsWith "SOURCES_files".toList (sourcesVariable group).toList then files
      else [] := rfl
  rw [named, if_pos starts]

/-- The head of a script draws on nothing. -/
theorem drawn_head (source : Source) (now : Nat) (asksForPlatform : Bool) :
    ∀ instruction ∈ source.head now asksForPlatform, instruction.drawn = [] := by
  have banner : ∀ instruction ∈ source.banner now, instruction.drawn = [] := by
    unfold Source.banner
    simp only [List.forall_mem_append]
    refine ⟨⟨⟨List.forall_mem_singleton.mpr rfl, ?_⟩, ?_⟩, List.forall_mem_singleton.mpr rfl⟩
    · split
      · exact List.forall_mem_singleton.mpr rfl
      · simp
    · split
      · exact List.forall_mem_singleton.mpr rfl
      · simp
  have requirements : ∀ instruction ∈ source.requirements, instruction.drawn = [] := by
    have policiesSet : ∀ instruction ∈ policies.flatMap (fun policy =>
        under (some ("POLICY " ++ policy.1))
          [.command "cmake_policy" ["SET", policy.1, policy.2]]), instruction.drawn = [] :=
      List.forall_mem_flatMap.mpr fun _ _ =>
        forall_mem_under (fun _ _ => rfl) (List.forall_mem_singleton.mpr rfl) rfl
    have rootSet : ∀ instruction ∈ under (some "NOT V2C_MASTER_PROJECT_SOURCE_DIR")
        [Instruction.setVariable "V2C_MASTER_PROJECT_SOURCE_DIR" "$\x7bCMAKE_SOURCE_DIR\x7d"],
        instruction.drawn = [] :=
      forall_mem_under (fun _ _ => rfl) (List.forall_mem_singleton.mpr rfl) rfl
    unfold Source.requirements
    simp only [List.forall_mem_append, List.forall_mem_cons]
    exact ⟨⟨⟨⟨⟨rfl, rfl, by simp⟩, policiesSet⟩, rfl, by simp⟩, rootSet⟩,
      rfl, rfl, rfl, rfl, by simp⟩
  have block : ∀ isNeeded, ∀ instruction ∈ platformBlock isNeeded, instruction.drawn = [] := by
    intro isNeeded
    unfold platformBlock
    split
    · simp only [List.forall_mem_append, List.forall_mem_singleton]
      exact ⟨List.forall_mem_map.mpr fun _ _ => rfl, rfl⟩
    · simp
  unfold head
  simp only [List.forall_mem_append]
  exact ⟨⟨⟨banner, requirements⟩, List.forall_mem_cons.mpr ⟨rfl, List.forall_mem_cons.mpr
    ⟨rfl, List.forall_mem_singleton.mpr rfl⟩⟩⟩, block _⟩

/-- Without entries in the table, what is placed are the translations of the tokens, on every
platform. -/
theorem mem_of_place_empty {table : Table} (empty : table = .empty)
    (bucket : (platform, list) ∈ (source.place table tokens).value.toList) (listed : text ∈ list) :
    ∃ token ∈ tokens, text = (translate source.names token).value := by
  subst empty
  have orderly := source.orderly_place .empty tokens
  have held := (PlatformTokens.exists_bucket_iff orderly).mpr ⟨list, bucket, listed⟩
  rw [value_place, PlatformTokens.mem_tokensOf_pushAll] at held
  rcases held with placed | nothing
  · obtain ⟨token, among, placed⟩ := List.mem_flatMap.mp placed
    rw [Table.placements_empty, List.mem_singleton] at placed
    exact ⟨token, among, (Prod.mk.inj placed).2⟩
  · exact absurd nothing List.not_mem_nil

/-- Without entries in the table, what is placed of definitions are their own keys, with their
translated values. -/
theorem mem_tokensOf_defines_iff (empty : source.tables.defines = .empty) :
    text ∈ (source.defines configuration).value.tokensOf platform ↔
      platform = everyPlatform ∧ ∃ definition ∈ distinctDefines configuration,
        text = definitionText definition.1 (translate source.names definition.2).value
          definition.1 := by
  have placements : ∀ definition, source.definitionPlacements definition =
      [(everyPlatform, definitionText definition.1 (translate source.names definition.2).value
        definition.1)] := by
    intro definition
    rw [definitionPlacements, empty]
    rfl
  rw [value_defines, PlatformTokens.mem_tokensOf_pushAll]
  simp only [placements, List.mem_flatMap, List.mem_singleton, Prod.mk.injEq]
  constructor
  · rintro (⟨definition, among, rfl, rfl⟩ | nothing)
    · exact ⟨rfl, definition, among, rfl⟩
    · exact absurd nothing List.not_mem_nil
  · rintro ⟨rfl, definition, among, rfl⟩
    exact .inl ⟨definition, among, rfl, rfl⟩

/-- The identifiers of configurations with compiler settings and the keys of all definitions refer
to no variables. -/
def Named (source : Source) : Prop :=
  ∀ configuration ∈ source.project.configurations,
    (configuration.compilers ≠ [] →
      ¬ HasReference (configurationIdentifier configuration.buildType)) ∧
    ∀ definition ∈ distinctDefines configuration, ¬ HasReference definition.1

/-- A definition whose value refers to nothing refers to a variable just if its key does. -/
theorem hasReference_definitionText_iff {key value : String} (free : ¬ HasReference value) :
    HasReference (definitionText key value key) ↔ HasReference key := by
  unfold definitionText
  split
  · rw [hasReference_definition_iff, or_iff_left free]
  · rfl

/-- What is in a block of the block of a configuration, under the conditions of the configuration
and of the target, is in the script. -/
theorem mem_script_of_mem_settings {now : Nat} {instruction : Instruction}
    (among : configuration ∈ source.project.configurations)
    (listed : instruction ∈ byPlatform (source.defines configuration).value (fun _ values =>
        appendProperty source.target
          ("COMPILE_DEFINITIONS_" ++ configurationIdentifier configuration.buildType) values) ∨
      instruction ∈ source.flagSection (configurationIdentifier configuration.buildType)
        (source.compilerFlags configuration) (source.linkerFlags configuration)) :
    instruction ∈ (source.script now).value := by
  obtain ⟨before, behind, written, -⟩ := script_eq_configurationBlock now among
  rw [written]
  refine List.mem_append_left _ (List.mem_append_right _ (List.mem_append_left _
    (List.mem_append_right _ (mem_under (mem_under ?_)))))
  rcases listed with defined | flagged
  · exact List.mem_append_left _ (List.mem_append_left _ defined)
  · exact List.mem_append_right _ flagged

/-- What is for one configuration only refers to nothing, if the identifier does not. -/
theorem not_hasReference_onlyIn {identifier : String} {texts : List String}
    (identified : ¬ HasReference identifier) (free : ∀ text ∈ texts, ¬ HasReference text) :
    ∀ text ∈ texts.map (onlyIn identifier), ¬ HasReference text := by
  refine List.forall_mem_map.mpr fun text listed => ?_
  rw [hasReference_onlyIn_iff, not_or]
  exact ⟨identified, free text listed⟩

section Named

variable (empty : source.tables = {})
  (whole : ∀ text, ¬ HasReference (translate source.names text).value)

include whole

theorem not_hasReference_translateAll (texts : List String) :
    ∀ text ∈ (translateAll source.names texts).value, ¬ HasReference text := by
  simpa [translateAll] using fun text _ => whole text

theorem not_hasReference_place {table : Table} (isEmpty : table = .empty)
    (bucket : (platform, list) ∈ (source.place table tokens).value.toList) :
    ∀ text ∈ list, ¬ HasReference text := by
  intro text listed
  obtain ⟨token, -, rfl⟩ := mem_of_place_empty isEmpty bucket listed
  exact whole token

include empty

/-- Nothing refers to a variable that is drawn by an instruction of a known form, if the keys and
the identifiers do not. -/
theorem not_hasReference_of_forms (named : source.Named) {instruction : Instruction}
    (form : source.Forms instruction) :
    ∀ argument ∈ instruction.drawn, ¬ HasReference argument := by
  cases form with
  | headers bucket => exact not_hasReference_place whole (by rw [empty]) bucket
  | libraryDirs bucket => exact not_hasReference_place whole (by rw [empty]) bucket
  | linked bucket => exact not_hasReference_place whole (by rw [empty]) bucket
  | sources place =>
    intro argument listed
    have inside : argument ∈ source.builtPaths place := by
      rwa [drawn_sources] at listed
    obtain ⟨file, -, rfl⟩ := List.mem_map.mp inside
    exact whole file.path
  | @definitions configuration platform values among bucket =>
    intro argument listed
    have held := (PlatformTokens.exists_bucket_iff (source.orderly_defines configuration)).mpr
      ⟨values, bucket, listed⟩
    rw [mem_tokensOf_defines_iff (by rw [empty])] at held
    obtain ⟨-, definition, keyed, rfl⟩ := held
    rw [hasReference_definitionText_iff (whole _)]
    exact (named configuration among).2 definition keyed
  | @extraHeaders configuration platform dirs extra among bucket within =>
    intro argument listed
    obtain ⟨dir, inside, -⟩ := List.mem_map.mp listed
    obtain ⟨token, stated, -⟩ := mem_of_place_empty (by rw [empty]) bucket (within inside)
    have compiled : configuration.compilers ≠ [] := by
      rintro none
      simp [none] at stated
    have directories := not_hasReference_place whole (by rw [empty]) bucket
    exact not_hasReference_onlyIn ((named configuration among).1 compiled)
      (fun text listed => directories text (within listed)) argument listed
  | @compilerFlags configuration among =>
    intro argument listed
    obtain ⟨flag, inside, -⟩ := List.mem_map.mp listed
    have compiled : configuration.compilers ≠ [] := by
      rintro none
      simp [Source.compilerFlags, translateAll, none] at inside
    exact not_hasReference_onlyIn ((named configuration among).1 compiled)
      (not_hasReference_translateAll whole _) argument listed
  | linkerFlags among =>
    intro argument listed
    rw [List.mem_singleton.mp listed]
    exact not_hasReference_intercalate (not_hasReference_translateAll whole _)
  | creation creates =>
    rcases creates with rfl | rfl
    · exact fun argument listed => absurd listed List.not_mem_nil
    · exact fun argument listed => absurd listed List.not_mem_nil
  | _ => exact fun argument listed => absurd listed List.not_mem_nil

/-- If nothing that a script draws refers to a variable, the keys and the identifiers do not. -/
theorem named_of_script {now : Nat}
    (free : ∀ instruction ∈ (source.script now).value, ∀ argument ∈ instruction.drawn,
      ¬ HasReference argument) : source.Named := by
  intro configuration among
  constructor
  · intro compiled refers
    obtain ⟨first, others, compilers⟩ := List.exists_cons_of_ne_nil compiled
    obtain ⟨flag, others, flags⟩ : ∃ flag others, source.compilerFlags configuration =
        flag :: others := by
      rw [Source.compilerFlags, compilers]
      exact ⟨_, _, rfl⟩
    have drawn : onlyIn (configurationIdentifier configuration.buildType) flag ∈
        (source.compilerFlags configuration).map
          (onlyIn (configurationIdentifier configuration.buildType)) := by simp [flags]
    refine free (.command "set_property" (["TARGET", source.target, "APPEND", "PROPERTY",
      "COMPILE_OPTIONS"] ++ (source.compilerFlags configuration).map
        (onlyIn (configurationIdentifier configuration.buildType))))
      (mem_script_of_mem_settings among (.inr ?_)) _ drawn
      ((hasReference_onlyIn_iff _ _).mpr (.inl refers))
    simp [flagSection, flags, mem_under, appendProperty, listed]
  · intro definition keyed refers
    have held := (mem_tokensOf_defines_iff (by rw [empty])).mpr ⟨rfl, definition, keyed, rfl⟩
    obtain ⟨values, bucket, drawn⟩ :=
      (PlatformTokens.exists_bucket_iff (source.orderly_defines configuration)).mp held
    refine free (.command "set_property" (["TARGET", source.target, "APPEND", "PROPERTY",
      "COMPILE_DEFINITIONS_" ++ configurationIdentifier configuration.buildType] ++ values))
      (mem_script_of_mem_settings among (.inl ?_)) _ drawn
      ((hasReference_definitionText_iff (whole _)).mpr refers)
    refine List.mem_flatMap.mpr ⟨_, bucket, mem_under ?_⟩
    simp [appendProperty, listed, List.ne_nil_of_mem drawn]

end Named

/-- Without mapping tables, and with a name of the project file that has none of the characters
around the name in a reference, two things are known. Translated texts refer to no variable at all
just if this name has a character that no name of a variable has, such as a dot. If it does, then
nothing that a script draws from the directories, libraries, definitions, files and flags of the
project refers to a variable just if no key of a definition does, and no identifier of a
configuration that has settings of a compiler. -/
theorem drawn_untranslated_iff (source : Source) (now : Nat) (empty : source.tables = {})
    (plain : ∀ c ∈ source.fileName.toList, c ∉ ['$', '(', ')']) :
    ((∀ text, ¬ HasReference (translate source.names text).value) ↔
      ∃ c ∈ source.fileName.toList, Text.isIdentifierRest c = false) ∧
    ((∃ c ∈ source.fileName.toList, Text.isIdentifierRest c = false) →
      ((∀ instruction ∈ (source.script now).value, ∀ argument ∈ instruction.drawn,
          ¬ HasReference argument) ↔
        ∀ configuration ∈ source.project.configurations,
          (configuration.compilers ≠ [] →
            ¬ HasReference (configurationIdentifier configuration.buildType)) ∧
          ∀ definition ∈ distinctDefines configuration, ¬ HasReference definition.1)) := by
  have translations : (∀ text, ¬ HasReference (translate source.names text).value) ↔
      ∃ c ∈ source.fileName.toList, Text.isIdentifierRest c = false := translate_wholly_iff plain
  refine ⟨translations, fun foreign => ?_⟩
  have whole := translations.mpr foreign
  constructor
  · exact fun free => named_of_script empty whole free
  · intro named instruction listed argument drawn
    rw [script, Reported.value_bind, Reported.value_pure] at listed
    rcases List.mem_append.mp listed with inHead | inBody
    · rw [source.drawn_head _ _ _ inHead] at drawn
      exact absurd drawn List.not_mem_nil
    · exact not_hasReference_of_forms empty whole named (source.forms_body _ inBody) argument drawn

/-- A source with a definition, whose value refers to variables. -/
def defining : Source where
  project := {
    name := "p"
    configurations := [{ buildType := "D", platform := "W", compilers := [{
      includeDirs := [{ path := "$(SolutionDir)include" }]
      defines := ⟨[("OUT", "$(OutDir)/$(Unknown)")]⟩ }] }] }
  tables := {}
  settings := {}
  fileName := "p.vcproj"

theorem drawn_untranslated_defining :
    defining.tables = {} ∧ (∀ c ∈ defining.fileName.toList, c ∉ ['$', '(', ')']) ∧
      (∃ c ∈ defining.fileName.toList, Text.isIdentifierRest c = false) ∧
      ∀ instruction ∈ (defining.script 0).value, ∀ argument ∈ instruction.drawn,
        ¬ HasReference argument := by
  have plain : ∀ c ∈ defining.fileName.toList, c ∉ ['$', '(', ')'] := by simp [defining]
  have foreign : ∃ c ∈ defining.fileName.toList, Text.isIdentifierRest c = false :=
    ⟨'.', by decide, by decide⟩
  refine ⟨rfl, plain, foreign, ((drawn_untranslated_iff defining 0 rfl plain).2 foreign).mpr ?_⟩
  decide +kernel

/-- A source whose definition has a key that refers to the name of the project. -/
def exporting : Source where
  project := {
    name := "p"
    configurations := [{ buildType := "D", platform := "W",
                         compilers := [{ defines := ⟨[("$(ProjectName)_EXPORTS", "")]⟩ }] }] }
  tables := {}
  settings := {}
  fileName := "p.vcproj"

/-- The key of a definition gets into a script as it is. -/
theorem exporting_untranslated :
    exporting.tables = {} ∧ (∀ c ∈ exporting.fileName.toList, c ∉ ['$', '(', ')']) ∧
      ∃ instruction ∈ (exporting.script 0).value, ∃ argument ∈ instruction.drawn,
        HasReference argument := by
  refine ⟨rfl, by simp [exporting], .command "set_property" ["TARGET", "p", "APPEND", "PROPERTY",
    "COMPILE_DEFINITIONS_D", "$(ProjectName)_EXPORTS"], ?_, "$(ProjectName)_EXPORTS",
    List.mem_singleton.mpr rfl, by decide⟩
  decide +kernel

end Source

end Drawn

end ProjectScribe.Script
