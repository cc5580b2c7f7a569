import ProjectScribe.Proofs.Reading.Lists
import ProjectScribe.Proofs.Script.ArgumentText
import ProjectScribe.Proofs.Script.BodyInstructions

/-!
# Flags of linkers

The flags of all linkers of a configuration are joined by spaces to one text, and a command in the
block of the configuration appends this text to a property. A linker is given the text and takes
it apart again at the blanks outside of quotes, but no flag has got quotes around it. So a linker
finds the flags that were joined exactly if each of them is a word without quotes and no backslash
in the text comes to stand before another one or before the closing quote.
-/
namespace ProjectScribe.Script

open Instruction (under listed commandAt)
open Reading (words words_joined words_of_dense)

section Words

/-- The texts that a text holds for a tool: those between the blanks outside of quotes. -/
def parts (text : String) : List String :=
  (argumentsFrom .between text.toList).map String.ofList

/-- Without quotes a text is taken apart into its words. -/
theorem argumentsFrom_unquoted {text : List Char} (unquoted : '"' ∉ text) :
    argumentsFrom .between text = Text.words text ∧
      ∀ current ≠ [], argumentsFrom (.bare current) text = Text.wordsFrom current text := by
  induction text with
  | nil => exact ⟨rfl, fun current filled => by simp [argumentsFrom, Text.wordsFrom, filled]⟩
  | cons c text inductionHypothesis =>
    obtain ⟨noQuote, further⟩ := List.ne_and_not_mem_of_not_mem_cons unquoted
    obtain ⟨between, within⟩ := inductionHypothesis further
    have other : ¬ c = '"' := Ne.symm noQuote
    refine ⟨?_, fun current filled => ?_⟩
    · rw [argumentsFrom, if_neg other, between, within [c] (List.cons_ne_nil c []), Text.words,
        Text.words, Text.wordsFrom]
      rfl
    · rw [argumentsFrom, if_neg other, between, within _ (List.cons_ne_nil c current),
        Text.wordsFrom, Text.words]
      simp [filled]

theorem parts_unquoted {text : String} (unquoted : '"' ∉ text.toList) : parts text = words text := by
  rw [parts, (argumentsFrom_unquoted unquoted).1, words]

/-- What a reader has read of an argument. -/
def Reader.current : Reader → List Char
  | between => []
  | bare current | quoted current => current

/-- No quote is part of what is read. -/
theorem unquoted_of_mem_argumentsFrom {reader : Reader} {text word : List Char}
    (start : '"' ∉ reader.current) (listed : word ∈ argumentsFrom reader text) : '"' ∉ word := by
  fun_induction argumentsFrom reader text with
  | case1 => exact absurd listed List.not_mem_nil
  | case2 current | case3 current =>
    rw [List.mem_singleton.mp listed, List.mem_reverse]
    exact start
  | case4 rest inductionHypothesis => exact inductionHypothesis List.not_mem_nil listed
  | case5 c rest other blank inductionHypothesis =>
    exact inductionHypothesis List.not_mem_nil listed
  | case6 c rest other kept inductionHypothesis =>
    exact inductionHypothesis (by simpa [Reader.current] using Ne.symm other) listed
  | case7 current rest inductionHypothesis => exact inductionHypothesis start listed
  | case8 current c rest other blank inductionHypothesis =>
    obtain rfl | later := List.mem_cons.mp listed
    · rw [List.mem_reverse]
      exact start
    · exact inductionHypothesis List.not_mem_nil later
  | case9 current c rest other kept inductionHypothesis =>
    exact inductionHypothesis (List.not_mem_cons_of_ne_of_not_mem (Ne.symm other) start) listed
  | case10 current rest inductionHypothesis => exact inductionHypothesis start listed
  | case11 current c rest other inductionHypothesis =>
    exact inductionHypothesis (List.not_mem_cons_of_ne_of_not_mem (Ne.symm other) start) listed

end Words

section Line

/-- Flags behind one another. -/
def flagLine (flags : List String) : String := " " ++ " ".intercalate flags

/-- A flag that stays in one part, and that without quotes around it. -/
structure IsWord (flag : String) : Prop where
  filled : flag ≠ ""
  dense : ∀ c ∈ flag.toList, Text.isBlank c = false
  unquoted : '"' ∉ flag.toList

instance (flag : String) : Decidable (IsWord flag) :=
  decidable_of_iff (flag ≠ "" ∧ flag.toList.all (!Text.isBlank ·) = true ∧ '"' ∉ flag.toList) (by
    simp only [List.all_eq_true, Bool.not_eq_true']
    exact ⟨fun ⟨filled, dense, unquoted⟩ => ⟨filled, dense, unquoted⟩,
      fun ⟨filled, dense, unquoted⟩ => ⟨filled, dense, unquoted⟩⟩)

variable {flags : List String}

/-- The words of a line are those of its flags. -/
theorem words_flagLine (flags : List String) : words (flagLine flags) = flags.flatMap words := by
  cases flags with
  | nil => decide
  | cons first others =>
    have spaced : flagLine (first :: others) = " ".intercalate ("" :: first :: others) := by
      rw [flagLine, ← String.toList_inj]
      simp
    rw [spaced, words_joined]
    rfl

theorem words_flagLine_of_isWord (single : ∀ flag ∈ flags, IsWord flag) :
    words (flagLine flags) = flags := by
  rw [words_flagLine, List.flatMap_congr fun flag listed =>
    words_of_dense (single flag listed).filled (single flag listed).dense, List.flatMap_singleton']

/-- A line has quotes only in its flags. -/
theorem unquoted_flagLine (unquoted : ∀ flag ∈ flags, '"' ∉ flag.toList) :
    '"' ∉ (flagLine flags).toList := by
  intro quote
  have kept : '"' ∈ (Text.words (flagLine flags).toList).flatten := by
    rw [Text.flatten_words, List.mem_filter]
    exact ⟨quote, rfl⟩
  obtain ⟨word, listed, within⟩ := List.mem_flatten.mp kept
  have among : String.ofList word ∈ words (flagLine flags) := List.mem_map_of_mem listed
  rw [words_flagLine] at among
  obtain ⟨flag, flagListed, wordOfFlag⟩ := List.mem_flatMap.mp among
  obtain ⟨text, textListed, same⟩ := List.mem_map.mp wordOfFlag
  obtain rfl := String.ofList_inj.mp same
  exact unquoted flag flagListed ((Text.of_mem_words textListed).2 '"' within).1

/-- A line is written between quotes if a slash begins it. -/
theorem quoteIfNeeded_flagLine (name : List Char) {first : String}
    (begins : first.toList = '/' :: name) (others : List String) :
    quoteIfNeeded (flagLine (first :: others)).toList =
      '"' :: ((flagLine (first :: others)).toList ++ ['"']) := by
  obtain ⟨rest, line⟩ : ∃ rest, (flagLine (first :: others)).toList = ' ' :: '/' :: rest := by
    cases others with
    | nil => exact ⟨name, by simp [flagLine, begins]⟩
    | cons second others => exact ⟨_, by simp [flagLine, String.toList_intercalate, begins]; rfl⟩
  have needs : needsQuoting (' ' :: '/' :: rest) = true := by
    simp [needsQuoting, isSplit, splitsBefore, Text.isBlank]
  rw [line, quoteIfNeeded_of_bare (hasQuotes_of_head?_ne (by simp)), needs]
  rfl

/-- What a text without quotes says between quotes has no quotes either. -/
theorem unquoted_of_read {text value : List Char} (unquoted : '"' ∉ text)
    (read : argumentText? ('"' :: (text ++ ['"'])) = some value) : '"' ∉ value := by
  rw [argumentText?_quoted, closedText?_eq_some_iff] at read
  obtain ⟨inner, cut, opened, rfl⟩ := read
  intro quote
  obtain ⟨letter, listed, means⟩ := List.mem_map.mp quote
  have written : '"' ∈ letter.written := by
    rw [← means]
    cases letter with
    | plain c | escaped c => simp [Letter.written, Letter.meaning]
  rw [← flatMap_written_of_cut cut] at unquoted
  exact unquoted (List.mem_flatMap.mpr ⟨letter, listed, written⟩)

/-- A text without quotes says between quotes nothing else that has its words. -/
theorem eq_of_read_of_words_eq {text value : List Char} (unquoted : '"' ∉ text)
    (read : argumentText? ('"' :: (text ++ ['"'])) = some value)
    (same : Text.words value = Text.words text) : value = text := by
  have free := unquoted_of_read unquoted read
  rw [argumentText?_quoted, closedText?_eq_some_iff] at read
  obtain ⟨inner, cut, opened, rfl⟩ := read
  have characters := flatMap_written_of_cut cut
  -- A backslash that is lost is missing among the characters of the words.
  have counted := congrArg (List.length ∘ List.flatten) same
  simp only [Function.comp_apply, Text.flatten_words, ← List.countP_eq_length_filter] at counted
  have plain := (countP_written (!Text.isBlank ·) rfl opened).2 (by
    rw [characters, escaped_of_unquoted free, counted])
  have written : ∀ c ∈ inner.map Letter.meaning, (letterFor c).written = [c] := by
    intro c listed
    have other : c ≠ '"' := by
      rintro rfl
      exact free listed
    rw [letterFor, if_neg other]
    rfl
  calc inner.map Letter.meaning
      = ((inner.map Letter.meaning).map letterFor).flatMap Letter.written := by
        rw [List.flatMap_map, List.flatMap_congr written, List.flatMap_singleton']
    _ = text := by rw [← plain, characters]

/-- Flags are read back from the argument that is written for their line exactly if each is a word
without quotes and no backslash of the line stands before a backslash or the closing quote. -/
theorem readArgument_flagLine_iff (name : List Char) {first : String}
    (begins : first.toList = '/' :: name) (others : List String) :
    (readArgument (argument (flagLine (first :: others)))).map parts = some (first :: others) ↔
      (∀ flag ∈ first :: others, IsWord flag) ∧
        Unescaping ((flagLine (first :: others)).toList ++ ['"']) := by
  have quoted := quoteIfNeeded_flagLine name begins others
  generalize first :: others = flags at quoted ⊢
  have written : readArgument (argument (flagLine flags)) =
      (argumentText? ('"' :: ((flagLine flags).toList ++ ['"']))).map String.ofList := by
    rw [readArgument, argument, String.toList_ofList, quoted]
  have exactly : '"' ∉ (flagLine flags).toList →
      (argumentText? ('"' :: ((flagLine flags).toList ++ ['"'])) = some (flagLine flags).toList ↔
        Unescaping ((flagLine flags).toList ++ ['"'])) := by
    intro unquoted
    have read := argumentText?_quoted_escaped_iff (flagLine flags).toList
    rwa [escaped_of_unquoted unquoted] at read
  rw [written]
  constructor
  · intro read
    obtain ⟨value, known, held⟩ := Option.map_eq_some_iff.mp read
    obtain ⟨text, said, rfl⟩ := Option.map_eq_some_iff.mp known
    have free : ∀ flag ∈ flags, '"' ∉ flag.toList := by
      intro flag listed
      obtain ⟨part, among, rfl⟩ := List.mem_map.mp (held ▸ listed)
      rw [String.toList_ofList]
      exact unquoted_of_mem_argumentsFrom List.not_mem_nil among
    have unquoted := unquoted_flagLine free
    have textUnquoted := unquoted_of_read unquoted said
    rw [parts_unquoted (by simpa using textUnquoted)] at held
    have single : ∀ flag ∈ flags, IsWord flag := by
      intro flag listed
      obtain ⟨word, among, rfl⟩ := List.mem_map.mp (held ▸ listed)
      rw [String.toList_ofList] at among
      obtain ⟨filled, within⟩ := Text.of_mem_words among
      exact ⟨by simpa using filled, fun c inside => (within c (by simpa using inside)).2,
        free _ listed⟩
    have same : (Text.words text).map String.ofList =
        (Text.words (flagLine flags).toList).map String.ofList := by
      rw [← words, words_flagLine_of_isWord single, ← held, words, String.toList_ofList]
    have injective := List.map_injective_iff.mpr fun _ _ => String.ofList_inj.mp
    refine ⟨single, (exactly unquoted).mp ?_⟩
    rw [said, eq_of_read_of_words_eq unquoted said (injective same)]
  · rintro ⟨single, alone⟩
    have unquoted := unquoted_flagLine fun flag listed => (single flag listed).unquoted
    rw [(exactly unquoted).mpr alone, Option.map_some, Option.map_some, String.ofList_toList,
      parts_unquoted unquoted, words_flagLine_of_isWord single]

end Line

namespace Source

section Block

/-- Whether an instruction appends a text to a property. -/
def appendsText : Instruction → Bool
  | .command _ arguments => arguments[2]? == some "APPEND_STRING"
  | _ => false

theorem filter_appendsText_eq_nil {instructions : List Instruction}
    (other : ∀ instruction ∈ instructions, appendsText instruction = false) :
    instructions.filter appendsText = [] :=
  List.filter_eq_nil_iff.mpr fun instruction listed => by simp [other instruction listed]

/-- The borders of a block append nothing. -/
theorem filter_appendsText_under (condition : Option String) (instructions : List Instruction) :
    (under condition instructions).filter appendsText = instructions.filter appendsText := by
  cases condition <;>
    simp [under, Instruction.openIf?, Instruction.closeIf?, appendsText, List.filter_append]

/-- The command that appends the flags for a build type. -/
def appendFlags (target identifier : String) (flags : List String) : Instruction :=
  .command "set_property"
    ["TARGET", target, "APPEND_STRING", "PROPERTY", "LINK_FLAGS_" ++ identifier, flagLine flags]

variable {configuration : Configuration}

/-- In the block of a configuration a text is appended once if there are flags for the linker, and
else never. -/
theorem filter_configurationBlock (source : Source) (ofDirectory : Mapping.PlatformTokens)
    (configuration : Configuration) :
    (source.configurationBlock ofDirectory configuration).value.filter appendsText =
      if (source.linkerFlags configuration).isEmpty then []
      else [appendFlags source.target (configurationIdentifier configuration.buildType)
        (source.linkerFlags configuration)] := by
  let identifier := configurationIdentifier configuration.buildType
  have definitions : ∀ instruction ∈ byPlatform (source.defines configuration).value
      (fun _ values => Instruction.appendProperty source.target
        ("COMPILE_DEFINITIONS_" ++ identifier) values), appendsText instruction = false :=
    forall_mem_byPlatform (fun _ _ _ _ _ => rfl) (fun _ _ _ => forall_mem_listed rfl) rfl
  have includes : ∀ instruction ∈ source.extraIncludes identifier ofDirectory
      (source.includeDirs configuration).value, appendsText instruction = false :=
    forall_mem_byPlatform (fun _ _ _ _ _ => rfl) (fun _ _ _ => forall_mem_listed rfl) rfl
  have options : ∀ instruction ∈ Instruction.appendProperty source.target "COMPILE_OPTIONS"
      ((source.compilerFlags configuration).map (onlyIn identifier)),
      appendsText instruction = false := forall_mem_listed rfl
  have flags : (source.flagSection identifier (source.compilerFlags configuration)
      (source.linkerFlags configuration)).filter appendsText =
      if (source.linkerFlags configuration).isEmpty then []
      else [appendFlags source.target identifier (source.linkerFlags configuration)] := by
    rw [flagSection]
    split
    · next none =>
      rw [Bool.and_eq_true] at none
      rw [if_pos none.2]
      rfl
    · rw [filter_appendsText_under, List.filter_append, filter_appendsText_eq_nil options]
      split <;> rfl
  have parts : (source.configurationBlock ofDirectory configuration).value =
      [.comment ("Configuration \"" ++ configuration.fullName ++ "\"")] ++
        under (source.configurationCondition configuration)
          (under (some ("TARGET " ++ argument source.target))
            (byPlatform (source.defines configuration).value (fun _ values =>
                Instruction.appendProperty source.target
                  ("COMPILE_DEFINITIONS_" ++ identifier) values) ++
              source.extraIncludes identifier ofDirectory (source.includeDirs configuration).value ++
              source.flagSection identifier (source.compilerFlags configuration)
                (source.linkerFlags configuration))) ++
        [.blank] := rfl
  rw [parts]
  simp only [List.filter_append, filter_appendsText_under, filter_appendsText_eq_nil definitions,
    filter_appendsText_eq_nil includes, flags]
  simp [appendsText, identifier]

/-- The flags of a configuration with a linker begin with one that has no variable in it. -/
theorem linkerFlags_eq_cons (source : Source) (linking : configuration.linkers ≠ []) :
    ∃ first others, source.linkerFlags configuration = first :: others ∧
      ∃ name, first.toList = '/' :: name := by
  obtain ⟨linker, linkers, listed⟩ := List.exists_cons_of_ne_nil linking
  have flags : source.linkerFlags configuration =
      (configuration.linkers.flatMap (linkFlags · configuration.optimizesWhole)).map fun flag =>
        (translate source.names flag).value := Reported.value_forEach _ _
  rw [flags, listed, List.flatMap_cons, linkFlags]
  cases linker.isIncremental with
  | true => exact ⟨"/INCREMENTAL", _, rfl, "INCREMENTAL".toList, rfl⟩
  | false => exact ⟨"/INCREMENTAL:NO", _, rfl, "INCREMENTAL:NO".toList, rfl⟩

/-- The block of a configuration with a linker stands in the script and appends one text, which is
an argument for the flags of all linkers in order. A linker reads these flags exactly if each is a
word without quotes and no backslash in the text stands before a backslash or the closing quote. -/
theorem linkerFlags_read_iff (source : Source) (configuration : Configuration) (now : Nat)
    (among : configuration ∈ source.project.configurations)
    (linking : configuration.linkers ≠ []) :
    let block := (source.configurationBlock source.directoryIncludes.value configuration).value
    let identifier := configurationIdentifier configuration.buildType
    let flags := source.linkerFlags configuration
    block <:+: (source.script now).value ∧
    block.filter appendsText = [appendFlags source.target identifier flags] ∧
    (∀ depth, (appendFlags source.target identifier flags).textAt depth =
      commandAt depth "set_property" (["TARGET", source.target, "APPEND_STRING", "PROPERTY",
        "LINK_FLAGS_" ++ identifier].map argument ++ [argument (flagLine flags)])) ∧
    ((readArgument (argument (flagLine flags))).map parts = some flags ↔
      (∀ flag ∈ flags, IsWord flag) ∧ Unescaping ((flagLine flags).toList ++ ['"'])) := by
  intro block identifier flags
  obtain ⟨first, others, cons, name, begins⟩ := source.linkerFlags_eq_cons linking
  refine ⟨?_, ?_, fun _ => rfl, ?_⟩
  · have inBlocks : block <:+: source.configurationBlocks :=
      List.infix_of_mem_flatten (List.mem_map_of_mem among)
    have inScript : source.configurationBlocks <:+: (source.script now).value :=
      ⟨source.front now ++ source.creation.value.toList ++ source.behindCreation,
        [hook .postTarget], by rw [value_script, behind]; simp only [List.append_assoc]⟩
    exact inBlocks.trans inScript
  · rw [filter_configurationBlock, if_neg (by simp [cons])]
  · have read := readArgument_flagLine_iff name begins others
    rwa [← cons] at read

/-- The settings of a library with two linkers. -/
def twoLinkers (moduleDefinition : String) : Configuration where
  buildType := "Debug"
  platform := "Win32"
  kind := .dynamicLibrary
  linkers := [{
    moduleDefinition := some moduleDefinition
    options := { flags := ["/MAP", "/VERSION:1.0"] } }, { isIncremental := true }]

/-- A library whose only configuration has two linkers. -/
def linkedTwice (moduleDefinition : String) : Source where
  project := {
    name := "p"
    dialect := some .vcproj
    configurations := [twoLinkers moduleDefinition]
    hasBuildUnits := true }
  tables := {}
  settings := {}
  fileName := "p.vcproj"

theorem linkerFlags_read_linkedTwice :
    (readArgument (argument (flagLine
        ((linkedTwice "src\\a.def").linkerFlags (twoLinkers "src\\a.def"))))).map parts =
      some ["/INCREMENTAL:NO", "/DEF:src\\a.def", "/MAP", "/VERSION:1.0", "/INCREMENTAL"] := by
  obtain ⟨-, -, -, read⟩ := linkerFlags_read_iff (linkedTwice "src\\a.def")
    (twoLinkers "src\\a.def") 0 (by simp [linkedTwice]) (List.cons_ne_nil _ _)
  have flags : (linkedTwice "src\\a.def").linkerFlags (twoLinkers "src\\a.def") =
    ["/INCREMENTAL:NO", "/DEF:src\\a.def", "/MAP", "/VERSION:1.0", "/INCREMENTAL"] := by decide
  rw [flags] at read ⊢
  exact read.mpr (by decide +kernel)

/-- The texts of a project from which the flags of a linker are made. -/
def statedTexts (linker : LinkerSettings) : List String :=
  linker.moduleDefinition.toList ++ linker.programDatabase.toList ++ linker.options.flags

/-- A flag with a path in which there is a blank is read as two. -/
theorem spacedDefinition_split :
    ¬ ∀ source : Source, ∀ configuration ∈ source.project.configurations,
      configuration.linkers ≠ [] →
      (∀ linker ∈ configuration.linkers, ∀ text ∈ statedTexts linker, '"' ∉ text.toList) →
        (readArgument (argument (flagLine (source.linkerFlags configuration)))).map parts =
          some (source.linkerFlags configuration) := by
  intro kept
  have read := kept (linkedTwice "my dir/a.def") (twoLinkers "my dir/a.def")
    (by simp [linkedTwice]) (List.cons_ne_nil _ _) (by decide)
  have flags : (linkedTwice "my dir/a.def").linkerFlags (twoLinkers "my dir/a.def") =
    ["/INCREMENTAL:NO", "/DEF:my dir/a.def", "/MAP", "/VERSION:1.0", "/INCREMENTAL"] := by decide
  rw [flags, readArgument_flagLine_iff "INCREMENTAL:NO".toList rfl] at read
  exact absurd (read.1 "/DEF:my dir/a.def" (by decide)) (by decide)

end Block

end Source

end ProjectScribe.Script
