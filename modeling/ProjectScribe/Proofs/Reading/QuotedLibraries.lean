import ProjectScribe.Proofs.Reading.LinkedLibraries

/-!
# Quotes around libraries

A list of libraries joins their names by blanks, and a name with a blank in it stands in quotes.
The reader of the older format first takes the list apart at its blanks and then takes the quotes
off the parts. So quotes do not hold a name together: each word of it becomes a library, and the
libraries that are read are those that were written exactly if no name has a blank in it.
-/
namespace ProjectScribe.Reading.AttributeFormat

open Xml (Attribute Element)

section Names

/-- A name that a list of libraries can hold: it has no blanks at its ends and no quotes. -/
structure IsLibraryName (name : String) : Prop where
  filled : name ≠ ""
  whole : trimmed name = name
  unquoted : ∀ c ∈ name.toList, isQuote c = false

/-- A name as a list of libraries holds it: in quotes if there is a blank in it. -/
def writtenLibrary (name : String) : String :=
  if name.toList.any Text.isBlank then "\"" ++ name ++ "\"" else name

/-- The value that lists libraries. -/
def writtenLibraries (names : List String) : String :=
  " ".intercalate (names.map writtenLibrary)

/-- The values that a tool gives an attribute. -/
def valuesOf (tool : Element) (name : String) : List String :=
  (tool.attributes.filter (·.name = name)).map (·.value)

variable {name : String}

theorem IsLibraryName.outside (library : IsLibraryName name) :
    Text.EndsOutside Text.isBlank name.toList := trimmed_eq_self_iff.mp library.whole

theorem IsLibraryName.words_ne_nil (library : IsLibraryName name) : words name ≠ [] := by
  have filled : name.toList ≠ [] := by simpa using library.filled
  have start : name.toList.head filled ∈ name.toList.head? := List.head?_eq_some_head filled
  have found := Text.words_ne_nil (List.mem_of_mem_head? start)
    (library.outside.first _ start)
  rw [words]
  simpa using found

/-- Each word of a name is a library of its own. -/
theorem IsLibraryName.libraryName_ne_empty (library : IsLibraryName name) {word : String}
    (listed : word ∈ words name) : libraryName word ≠ "" := by
  obtain ⟨text, found, rfl⟩ := List.mem_map.mp listed
  obtain ⟨filled, within⟩ := Text.of_mem_words found
  refine Reading.libraryName_ne_empty (by simpa using filled) (.of_forall ?_) (.of_forall ?_)
  · intro c inside
    rw [String.toList_ofList] at inside
    exact (within c inside).2
  · intro c inside
    rw [String.toList_ofList] at inside
    exact library.unquoted c (within c inside).1

/-- The quotes around a word do not count for the library that it names. -/
theorem libraryName_strip {word : List Char} (dense : ∀ c ∈ word, Text.isBlank c = false) :
    libraryName (String.ofList (Text.strip isQuote word)) = libraryName (String.ofList word) := by
  have stripped : ∀ c ∈ Text.strip isQuote word, Text.isBlank c = false := by
    intro c inside
    by_cases quote : isQuote c = true
    · rw [isQuote, beq_iff_eq] at quote
      rw [quote]
      rfl
    · exact dense c ((Text.mem_strip_iff (by simpa using quote)).mp inside)
  have outer := (Text.EndsOutside.of_forall dense).strip_eq
  have inner := (Text.EndsOutside.of_forall stripped).strip_eq
  simp only [libraryName, String.toList_ofList, Text.trim, outer, inner, Text.strip_strip]

/-- Texts whose words differ by quotes at their ends name the same libraries. -/
theorem libraries_congr {first second : String}
    (same : (Text.words first.toList).map (Text.strip isQuote) =
      (Text.words second.toList).map (Text.strip isQuote)) :
    (words first).map libraryName = (words second).map libraryName := by
  have named : ∀ text : String, (words text).map libraryName =
      ((Text.words text.toList).map (Text.strip isQuote)).map
        fun bare => libraryName (String.ofList bare) := by
    intro text
    rw [words, List.map_map, List.map_map]
    refine List.map_congr_left fun word listed => ?_
    have dense : ∀ c ∈ word, Text.isBlank c = false :=
      fun c inside => ((Text.of_mem_words listed).2 c inside).2
    rw [Function.comp_apply, Function.comp_apply, libraryName_strip dense]
  rw [named, named, same]

/-- Quotes do not hold a name together: it is read as the libraries that its words name. -/
theorem IsLibraryName.libraries_written (library : IsLibraryName name) :
    (words (writtenLibrary name)).map libraryName = (words name).map libraryName := by
  rw [writtenLibrary]
  split
  · refine libraries_congr ?_
    have parts : ("\"" ++ name ++ "\"").toList = '"' :: (name.toList ++ ['"']) := by simp
    rw [parts]
    exact Text.strip_words_wrapped rfl rfl (by simpa using library.filled) library.outside
  · rfl

theorem IsLibraryName.length_words_eq_one_iff (library : IsLibraryName name) :
    (words name).length = 1 ↔ ∀ c ∈ name.toList, Text.isBlank c = false := by
  rw [words, List.length_map]
  exact Text.length_words_eq_one_iff (by simpa using library.filled) library.outside

end Names

/-- Where every element gives something, they give as many things as there are of them exactly if
each gives one. -/
theorem length_flatMap_eq_iff {α β : Type} {give : α → List β} {list : List α}
    (filled : ∀ a ∈ list, give a ≠ []) :
    (list.flatMap give).length = list.length ↔ ∀ a ∈ list, (give a).length = 1 := by
  have more : ∀ rest : List α, (∀ a ∈ rest, give a ≠ []) →
      rest.length ≤ (rest.flatMap give).length := by
    intro rest gives
    induction rest with
    | nil => exact Nat.le_refl 0
    | cons a others inductionHypothesis =>
      have first := List.length_pos_iff.mpr (gives a List.mem_cons_self)
      have further := inductionHypothesis fun b listed => gives b (List.mem_cons_of_mem a listed)
      rw [List.flatMap_cons, List.length_append, List.length_cons]
      omega
  induction list with
  | nil => simp
  | cons a rest inductionHypothesis =>
    rw [List.forall_mem_cons] at filled
    have first := List.length_pos_iff.mpr filled.1
    have further := more rest filled.2
    have others := inductionHypothesis filled.2
    rw [List.forall_mem_cons, List.flatMap_cons, List.length_append, List.length_cons]
    constructor
    · intro same
      exact ⟨by omega, others.mp (by omega)⟩
    · rintro ⟨one, single⟩
      rw [one, others.mpr single, Nat.add_comm]

section Lists

variable {names : List String}

/-- A list of libraries is read as those that the words of its names name. -/
theorem named_writtenLibraries (libraries : ∀ name ∈ names, IsLibraryName name) :
    named (words (writtenLibraries names)) =
      names.flatMap fun name => (words name).map libraryName := by
  have each : ∀ name ∈ names, ((words (writtenLibrary name)).map libraryName).filter (· ≠ "") =
      (words name).map libraryName := by
    intro name listed
    rw [(libraries name listed).libraries_written, List.filter_eq_self]
    intro bare given
    obtain ⟨word, within, rfl⟩ := List.mem_map.mp given
    simpa using (libraries name listed).libraryName_ne_empty within
  rw [named, writtenLibraries, words_joined, List.flatMap_map, List.map_flatMap,
    List.filter_flatMap]
  exact List.flatMap_congr each

/-- The libraries of a tool with a list of names are what the words of the names are called, and
these are the names without their extensions exactly if no name has a blank in it. -/
theorem dependencies_written_iff (tool : Element)
    (libraries : ∀ name ∈ names, IsLibraryName name)
    (written : (valuesOf tool "AdditionalDependencies").getLast? =
      some (writtenLibraries names)) :
    (readLinker tool).value.dependencies =
        names.flatMap (fun name => (words name).map libraryName) ∧
      ((readLinker tool).value.dependencies = names.map libraryName ↔
        ∀ name ∈ names, ∀ c ∈ name.toList, Text.isBlank c = false) := by
  have stated : statedLibraries tool = words (writtenLibraries names) := by
    have lists : libraryLists tool = (valuesOf tool "AdditionalDependencies").map words := by
      rw [libraryLists, valuesOf, List.map_map]
      rfl
    rw [statedLibraries, lists, List.getLast?_map, written]
    rfl
  have read : (readLinker tool).value.dependencies =
      names.flatMap fun name => (words name).map libraryName := by
    rw [dependencies_readLinker, stated, named_writtenLibraries libraries]
  refine ⟨read, fun same => ?_, fun dense => ?_⟩
  · have single : ∀ name ∈ names, ((words name).map libraryName).length = 1 := by
      have filled : ∀ name ∈ names, (words name).map libraryName ≠ [] := by
        intro name listed
        simpa using (libraries name listed).words_ne_nil
      rw [← length_flatMap_eq_iff filled, ← read, same, List.length_map]
    intro name listed
    rw [← (libraries name listed).length_words_eq_one_iff, ← single name listed,
      List.length_map]
  · have alone : ∀ name ∈ names, (words name).map libraryName = [libraryName name] := by
      intro name listed
      rw [words_of_dense (libraries name listed).filled (dense name listed)]
      rfl
    rw [read, List.flatMap_congr alone, ← List.map_eq_flatMap]

/-- The names of two libraries, one of them with a blank in it. -/
def spacedNames : List String := ["my lib.lib", "user32.lib"]

/-- A linker that gets these libraries. -/
def spacedTool : Element :=
  .mk "Tool" [⟨"Name", "VCLinkerTool"⟩,
    ⟨"AdditionalDependencies", writtenLibraries spacedNames⟩] "" []

theorem isLibraryName_of_mem_spacedNames : ∀ name ∈ spacedNames, IsLibraryName name := by
  intro name listed
  rw [spacedNames, List.mem_cons, List.mem_singleton] at listed
  obtain rfl | rfl := listed
  · exact ⟨by decide, by decide, by simp [isQuote]⟩
  · exact ⟨by decide, by decide, by simp [isQuote]⟩

theorem dependencies_spacedTool :
    (readLinker spacedTool).value.dependencies = ["my", "lib", "user32"] := by
  rw [(dependencies_written_iff spacedTool isLibraryName_of_mem_spacedNames rfl).1]
  decide

/-- Quotes do not keep every library in one piece. -/
theorem quoted_libraries_split :
    ¬ ∀ (tool : Element) (names : List String), (∀ name ∈ names, IsLibraryName name) →
      (valuesOf tool "AdditionalDependencies").getLast? = some (writtenLibraries names) →
        (readLinker tool).value.dependencies = names.map libraryName := by
  intro kept
  have whole := kept spacedTool spacedNames isLibraryName_of_mem_spacedNames rfl
  exact absurd whole (by decide)

end Lists

end ProjectScribe.Reading.AttributeFormat
