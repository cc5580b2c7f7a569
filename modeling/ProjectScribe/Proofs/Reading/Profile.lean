import ProjectScribe.Proofs.Reading.Definitions

/-!
# A configuration to be written

A profile is all that both formats can say about one configuration, before it is written in either
of them. Its parts carry what makes them writable: items that no list takes apart, names that fit
into a condition, and places in the tables of choices. Each setting of a profile is given with the
attribute that says it in the older format, the element that says it in the newer one, and what it
changes.
-/
namespace ProjectScribe.Reading

open Xml (Attribute Element)

section Texts

/-- A text that no list takes apart or shortens: it has neither blanks nor separators nor double
quotes. -/
structure IsWhole (text : String) : Prop where
  filled : text ≠ ""
  dense : ∀ c ∈ text.toList, Text.isBlank c = false
  unmarked : ∀ c ∈ text.toList, isListMark c = false
  unquoted : ∀ c ∈ text.toList, isQuote c = false

instance (text : String) : Decidable (IsWhole text) :=
  decidable_of_iff (text ≠ "" ∧ text.toList.all (!Text.isBlank ·) = true ∧
      text.toList.all (!isListMark ·) = true ∧ text.toList.all (!isQuote ·) = true) (by
    simp only [List.all_eq_true, Bool.not_eq_true']
    exact ⟨fun ⟨filled, dense, unmarked, unquoted⟩ => ⟨filled, dense, unmarked, unquoted⟩,
      fun ⟨filled, dense, unmarked, unquoted⟩ => ⟨filled, dense, unmarked, unquoted⟩⟩)

/-- An item of a list, which does not stand for inherited values. -/
abbrev PlainText := { text : String // IsWhole text ∧ isInherited text = false }

/-- A definition as an item of a list: a key, and a value behind an equals sign if it has one. -/
def definitionItem : String × Option String → String
  | (key, none) => key
  | (key, some value) => key ++ "=" ++ value

/-- A definition that is an item of a list, with a key that no equals sign cuts. -/
abbrev PlainDefinition :=
  { pair : String × Option String // '=' ∉ pair.1.toList ∧ IsWhole (definitionItem pair) ∧
    isInherited (definitionItem pair) = false }

/-- The key and the value of a definition, which is empty if there is none. -/
def PlainDefinition.meaning (definition : PlainDefinition) : String × String :=
  (definition.val.1, definition.val.2.getD "")

/-- The name of a build type or of a platform, which stands before or behind a bar, and in a
condition between single quotes. -/
structure IsLabel (text : String) : Prop where
  whole : trimmed text = text
  uncut : '|' ∉ text.toList
  unquoted : '\'' ∉ text.toList

/-- A build type or a platform. -/
abbrev Label := { text : String // IsLabel text }

/-- The items of a list. -/
def texts (list : List PlainText) : List String := list.map (·.val)

/-- The mark for the values of an option that a configuration inherits, if it does. -/
def marks (inherits : Bool) (name : String) : List String :=
  if inherits then ["%(" ++ name ++ ")"] else []

variable {list : List String}

theorem IsWhole.trimmed_eq {text : String} (whole : IsWhole text) : trimmed text = text :=
  trimmed_eq_self_iff.mpr (.of_forall whole.dense)

theorem IsWhole.bare_eq {text : String} (whole : IsWhole text) : bare text = text := by
  rw [bare, bareItem_eq_self (.of_forall whole.dense) (.of_forall whole.unquoted),
    String.ofList_toList]

/-- Whole items are found again in the list that joins them. -/
theorem items_of_whole (isSeparator : Char → Bool) (separates : isSeparator ';' = true)
    (fewer : ∀ c, isListMark c = false → isSeparator c = false)
    (whole : ∀ item ∈ list, IsWhole item) :
    items isSeparator (";".intercalate list) = list := by
  have plain : ∀ item ∈ list, ∀ c ∈ item.toList, isSeparator c = false :=
    fun item listed c within => fewer c ((whole item listed).unmarked c within)
  have filled : ∀ item ∈ list, bare item ≠ "" := by
    intro item listed
    rw [(whole item listed).bare_eq]
    exact (whole item listed).filled
  rw [items_intercalate isSeparator separates list plain filled]
  refine (List.map_congr_left ?_).trans (List.map_id list)
  intro item listed
  exact (whole item listed).bare_eq

theorem trimmed_of_whole (separator : String) (whole : ∀ item ∈ list, IsWhole item) :
    trimmed (separator.intercalate list) = separator.intercalate list :=
  trimmed_intercalate separator list fun item listed =>
    ⟨(whole item listed).filled, (whole item listed).trimmed_eq⟩

/-- Whole words are found again in the text that joins them. -/
theorem words_of_whole (whole : ∀ item ∈ list, IsWhole item) :
    words (" ".intercalate list) = list :=
  words_intercalate list fun item listed => ⟨(whole item listed).filled, (whole item listed).dense⟩

/-- The mark for inherited values is whole if the name in it is. -/
theorem isWhole_of_mem_marks {inherits : Bool} {name item : String} (whole : IsWhole name)
    (marked : item ∈ marks inherits name) : IsWhole item ∧ isInherited item = true := by
  cases inherits with
  | false => exact absurd marked (by simp [marks])
  | true =>
    obtain rfl : item = "%(" ++ name ++ ")" := by simpa [marks] using marked
    have parts : ("%(" ++ name ++ ")").toList = ['%', '('] ++ (name.toList ++ [')']) := by simp
    have ofParts : ∀ p : Char → Bool, p '%' = false → p '(' = false → p ')' = false →
        (∀ c ∈ name.toList, p c = false) →
        ∀ c ∈ ("%(" ++ name ++ ")").toList, p c = false := by
      intro p first second last inner c within
      simp only [parts, List.cons_append, List.nil_append, List.mem_cons, List.mem_append,
        List.not_mem_nil, or_false] at within
      rcases within with rfl | rfl | within | rfl
      · exact first
      · exact second
      · exact inner c within
      · exact last
    refine ⟨⟨?_, ofParts _ rfl rfl rfl whole.dense, ofParts _ rfl rfl rfl whole.unmarked,
      ofParts _ rfl rfl rfl whole.unquoted⟩, ?_⟩
    · intro empty
      rw [empty] at parts
      exact absurd parts (by simp)
    · rw [isInherited_iff, parts]
      exact List.prefix_append _ _

variable {inherits : Bool} {name : String}

/-- What stands in a list besides its marks for inherited values. -/
theorem filter_own (plain : ∀ item ∈ list, IsWhole item ∧ isInherited item = false)
    (whole : IsWhole name) : (list ++ marks inherits name).filter (!isInherited ·) = list := by
  have none : (marks inherits name).filter (!isInherited ·) = [] := by
    rw [List.filter_eq_nil_iff]
    intro item marked
    simp [(isWhole_of_mem_marks whole marked).2]
  have all : list.filter (!isInherited ·) = list := by
    rw [List.filter_eq_self]
    intro item listed
    simp [(plain item listed).2]
  rw [List.filter_append, none, all, List.append_nil]

theorem isWhole_with_marks (plain : ∀ item ∈ list, IsWhole item ∧ isInherited item = false)
    (whole : IsWhole name) : ∀ item ∈ list ++ marks inherits name, IsWhole item := by
  intro item listed
  rcases List.mem_append.mp listed with listed | marked
  · exact (plain item listed).1
  · exact (isWhole_of_mem_marks whole marked).1

/-- The newer format finds the items of a list, whether or not it goes on with inherited values. -/
theorem ownItems_with_marks (plain : ∀ item ∈ list, IsWhole item ∧ isInherited item = false)
    (whole : IsWhole name) :
    ownItems (trimmed (";".intercalate (list ++ marks inherits name))) = list := by
  have all : ∀ item ∈ list ++ marks inherits name, IsWhole item := isWhole_with_marks plain whole
  rw [trimmed_of_whole ";" all, ownItems, items_of_whole isSemicolon rfl ?_ all,
    filter_own plain whole]
  intro c unmarked
  rw [isListMark, Bool.or_eq_false_iff] at unmarked
  exact unmarked.1

/-- The newer format finds the options of a tool, whether or not they go on with inherited ones. -/
theorem ownWords_with_marks (plain : ∀ item ∈ list, IsWhole item ∧ isInherited item = false)
    (whole : IsWhole name) :
    ownWords (trimmed (" ".intercalate (list ++ marks inherits name))) = list := by
  have all : ∀ item ∈ list ++ marks inherits name, IsWhole item := isWhole_with_marks plain whole
  rw [trimmed_of_whole " " all, ownWords, words_of_whole all, filter_own plain whole]

theorem plain_texts (list : List PlainText) :
    ∀ item ∈ texts list, IsWhole item ∧ isInherited item = false := by
  intro item listed
  obtain ⟨text, -, rfl⟩ := List.mem_map.mp listed
  exact text.property

/-- A definition that is an item is read back as it is. -/
theorem definition_of_plain (item : PlainDefinition) :
    definition (definitionItem item.val) = item.meaning := by
  obtain ⟨⟨key, value⟩, uncut, whole, own⟩ := item
  cases value with
  | none =>
    change definition key = (key, "")
    rw [definition, Text.cutAt_eq_none_iff.mpr uncut]
    exact Prod.ext whole.trimmed_eq rfl
  | some value =>
    change definition (key ++ "=" ++ value) = (key, value)
    have parts : (key ++ "=" ++ value).toList = key.toList ++ '=' :: value.toList := by simp
    have dense : ∀ c ∈ (key ++ "=" ++ value).toList, Text.isBlank c = false := whole.dense
    rw [parts] at dense
    have keyTrimmed : trimmed key = key := trimmed_eq_self_iff.mpr (.of_forall fun c listed =>
      dense c (List.mem_append_left _ listed))
    have valueTrimmed : trimmed value = value :=
      trimmed_eq_self_iff.mpr (.of_forall fun c listed =>
        dense c (List.mem_append_right _ (List.mem_cons_of_mem _ listed)))
    rw [definition, parts, Text.cutAt_append uncut]
    exact Prod.ext keyTrimmed valueTrimmed

theorem plain_definitionItems (list : List PlainDefinition) :
    ∀ item ∈ list.map fun definition => definitionItem definition.val,
      IsWhole item ∧ isInherited item = false := by
  intro item listed
  obtain ⟨definition, -, rfl⟩ := List.mem_map.mp listed
  exact definition.property.2

end Texts

namespace Choice

variable {α : Type} {choice : Choice α}

/-- A row of the table. -/
abbrev Place (choice : Choice α) : Type := Fin choice.table.length

/-- The number of a row, which the older format writes. -/
def Place.number (place : choice.Place) : String := toString place.val

/-- The symbol of a row, which the newer format writes. -/
def Place.symbol (place : choice.Place) : String := choice.table[place].1

/-- What a row stands for. -/
def Place.meaning (place : choice.Place) : α := choice.table[place].2

/-- Every row is found by its number and by its symbol. -/
def Exact (choice : Choice α) : Prop :=
  ∀ place : choice.Place, choice.decode place.number = pure place.meaning ∧
    choice.decode place.symbol = pure place.meaning

instance [DecidableEq α] : Decidable choice.Exact :=
  inferInstanceAs (Decidable (∀ place : choice.Place,
    choice.decode place.number = pure place.meaning ∧
      choice.decode place.symbol = pure place.meaning))

/-- Blanks around a value do not matter. -/
theorem decode_trimmed (value : String) : choice.decode (trimmed value) = choice.decode value := by
  rw [decode, decode, trimmed_trimmed]

theorem exact_targetKinds : targetKinds.Exact := by decide

theorem exact_libraryUsages : libraryUsages.Exact := by decide

theorem exact_characterSets : characterSets.Exact := by decide

theorem exact_exceptionHandlings : exceptionHandlings.Exact := by decide

theorem exact_optimizations : optimizations.Exact := by decide

theorem exact_warningLevels : warningLevels.Exact := by decide

theorem exact_headerModes : headerModes.Exact := by decide

theorem exact_runtimeLibraries : runtimeLibraries.Exact := by decide

end Choice

/-- A configuration before it is written. -/
structure Profile where
  buildType : Label
  platform : Label
  kind : targetKinds.Place
  mfc : libraryUsages.Place
  atl : libraryUsages.Place
  charset : characterSets.Place
  optimizesWhole : Bool
  runtime : runtimeLibraries.Place
  includeDirs : List PlainText
  defines : List PlainDefinition
  rtti : Bool
  exceptionHandling : exceptionHandlings.Place
  optimization : optimizations.Place
  warningLevel : warningLevels.Place
  warningsAsErrors : Bool
  headerMode : headerModes.Place
  header : Option String
  binary : Option String
  disabledWarnings : List PlainText
  compilerFlags : List PlainText
  dependencies : List PlainText
  libraryDirs : List PlainText
  moduleDefinition : Option String
  programDatabase : Option String
  isIncremental : Bool
  optimizesReferences : Bool
  linkerFlags : List PlainText

namespace Profile

variable (profile : Profile)

/-- How code is compiled. -/
def compiler : CompilerSettings where
  includeDirs := (texts profile.includeDirs).map fun dir => { path := Path.normal dir }
  defines := Defines.insertAll {} (profile.defines.map PlainDefinition.meaning)
  rtti := profile.rtti
  exceptionHandling := profile.exceptionHandling.meaning
  optimization := profile.optimization.meaning
  warningLevel := profile.warningLevel.meaning
  warningsAsErrors := profile.warningsAsErrors
  precompiled :=
    ⟨profile.headerMode.meaning, profile.header.map Path.normal, profile.binary.map Path.normal⟩
  options := ⟨texts profile.compilerFlags, texts profile.disabledWarnings⟩

/-- How the program is linked. -/
def linker : LinkerSettings where
  dependencies := (texts profile.dependencies).map libraryName
  libraryDirs := (texts profile.libraryDirs).map Path.normal
  moduleDefinition := profile.moduleDefinition.map Path.normal
  programDatabase := profile.programDatabase.map Path.normal
  isIncremental := profile.isIncremental
  optimizesReferences := profile.optimizesReferences
  options := { flags := texts profile.linkerFlags }

/-- The configuration that a profile describes. -/
def configuration : Configuration where
  buildType := profile.buildType.val
  platform := profile.platform.val
  kind := profile.kind.meaning
  mfc := profile.mfc.meaning
  atl := profile.atl.meaning
  charset := profile.charset.meaning
  optimizesWhole := profile.optimizesWhole
  usesDebugRuntime := profile.runtime.meaning.isDebug
  compilers := [profile.compiler]
  linkers := [profile.linker]

end Profile

section Settings

/-- A setting in both formats, with what it changes. -/
structure Setting (σ : Type) where
  older : Attribute
  newer : Element
  effect : σ → σ

/-- An element with nothing but a text. -/
def leaf (name text : String) : Element := .mk name [] text []

/-- A switch. -/
def switch (on : Bool) : String := if on then "true" else "false"

/-- A switch as one of three positions. -/
def position (on : Bool) : String := if on then "2" else "1"

namespace Setting

variable {σ α : Type}

/-- A list with semicolons, which in the newer format may go on with inherited values. -/
def list (inherits : Bool) (name : String) (items : List String)
    (effect : List String → σ → σ) : Setting σ where
  older := ⟨name, ";".intercalate items⟩
  newer := leaf name (";".intercalate (items ++ marks inherits name))
  effect := effect items

/-- Options of a tool with spaces between them. -/
def flags (inherits : Bool) (items : List String) (effect : List String → σ → σ) : Setting σ where
  older := ⟨"AdditionalOptions", " ".intercalate items⟩
  newer := leaf "AdditionalOptions" (" ".intercalate (items ++ marks inherits "AdditionalOptions"))
  effect := effect items

/-- A choice: a number in the older format, a symbol in the newer one. -/
def choice {choice : Choice α} (olderName newerName : String) (place : choice.Place)
    (effect : α → σ → σ) : Setting σ where
  older := ⟨olderName, place.number⟩
  newer := leaf newerName place.symbol
  effect := effect place.meaning

/-- A switch of two positions. -/
def bool (olderName newerName : String) (on : Bool) (effect : Bool → σ → σ) : Setting σ where
  older := ⟨olderName, switch on⟩
  newer := leaf newerName (switch on)
  effect := effect on

/-- A path, if there is one. -/
def path? (olderName newerName : String) (path : Option String) (effect : String → σ → σ) :
    List (Setting σ) :=
  (path.map fun path =>
    ⟨⟨olderName, path⟩, leaf newerName path, effect (Path.normal path)⟩).toList

/-- Names of libraries, with spaces between them in the older format and semicolons in the newer. -/
def libraries (inherits : Bool) (names : List String) : Setting LinkerSettings where
  older := ⟨"AdditionalDependencies", " ".intercalate names⟩
  newer := leaf "AdditionalDependencies"
    (";".intercalate (names ++ marks inherits "AdditionalDependencies"))
  effect := fun linker => { linker with dependencies := names.map libraryName }

/-- Whether references are optimized: one of three positions in the older format, and of two in the
newer. -/
def references (on : Bool) : Setting LinkerSettings where
  older := ⟨"OptimizeReferences", position on⟩
  newer := leaf "OptimizeReferences" (switch on)
  effect := fun linker => { linker with optimizesReferences := on }

end Setting

end Settings

namespace Profile

variable (profile : Profile) (inherits : Bool)

/-- The settings of a configuration as a whole. -/
def generalSettings : List (Setting Configuration) :=
  [.choice "ConfigurationType" "ConfigurationType" profile.kind fun kind configuration =>
      { configuration with kind := kind },
    .choice "UseOfMFC" "UseOfMfc" profile.mfc fun mfc configuration =>
      { configuration with mfc := mfc },
    .choice "UseOfATL" "UseOfAtl" profile.atl fun atl configuration =>
      { configuration with atl := atl },
    .choice "CharacterSet" "CharacterSet" profile.charset fun charset configuration =>
      { configuration with charset := charset },
    .bool "WholeProgramOptimization" "WholeProgramOptimization" profile.optimizesWhole
      fun whole configuration => { configuration with optimizesWhole := whole }]

/-- The settings of the compiler. -/
def compilerSettings : List (Setting CompilerSettings) :=
  [.list inherits "AdditionalIncludeDirectories" (texts profile.includeDirs)
      fun dirs compiler => { compiler with
        includeDirs := dirs.map fun dir => { path := Path.normal dir } },
    .list inherits "PreprocessorDefinitions"
      (profile.defines.map fun definition => definitionItem definition.val)
      fun items compiler => { compiler with
        defines := compiler.defines.insertAll (items.map definition) },
    .bool "RuntimeTypeInfo" "RuntimeTypeInfo" profile.rtti fun rtti compiler =>
      { compiler with rtti := rtti },
    .choice "ExceptionHandling" "ExceptionHandling" profile.exceptionHandling
      fun exceptions compiler => { compiler with exceptionHandling := exceptions },
    .choice "Optimization" "Optimization" profile.optimization fun optimization compiler =>
      { compiler with optimization := optimization },
    .choice "WarningLevel" "WarningLevel" profile.warningLevel fun level compiler =>
      { compiler with warningLevel := level },
    .bool "WarnAsError" "TreatWarningAsError" profile.warningsAsErrors fun errors compiler =>
      { compiler with warningsAsErrors := errors },
    .choice "UsePrecompiledHeader" "PrecompiledHeader" profile.headerMode fun mode compiler =>
      { compiler with precompiled.mode := mode },
    .list inherits "DisableSpecificWarnings" (texts profile.disabledWarnings)
      fun warnings compiler => { compiler with options.disabledWarnings := warnings },
    .flags inherits (texts profile.compilerFlags) fun flags compiler =>
      { compiler with options.flags := flags }] ++
  Setting.path? "PrecompiledHeaderThrough" "PrecompiledHeaderFile" profile.header
    (fun header compiler => { compiler with precompiled.header := some header }) ++
  Setting.path? "PrecompiledHeaderFile" "PrecompiledHeaderOutputFile" profile.binary
    (fun binary compiler => { compiler with precompiled.binary := some binary })

/-- The settings of the linker, but for the one that the newer format does not count as such. -/
def linkerSettings : List (Setting LinkerSettings) :=
  [.libraries inherits (texts profile.dependencies),
    .list inherits "AdditionalLibraryDirectories" (texts profile.libraryDirs)
      fun dirs linker => { linker with libraryDirs := dirs.map Path.normal },
    .references profile.optimizesReferences,
    .flags inherits (texts profile.linkerFlags) fun flags linker =>
      { linker with options.flags := flags }] ++
  Setting.path? "ModuleDefinitionFile" "ModuleDefinitionFile" profile.moduleDefinition
    (fun file linker => { linker with moduleDefinition := some file }) ++
  Setting.path? "ProgramDatabaseFile" "ProgramDatabaseFile" profile.programDatabase
    (fun file linker => { linker with programDatabase := some file })

/-- The build type and the platform with a bar between them. -/
def fullName : String := profile.buildType.val ++ "|" ++ profile.platform.val

section Older

/-- The compiler in the older format. -/
def olderCompiler : Element :=
  .mk "Tool"
    (⟨"Name", "VCCLCompilerTool"⟩ :: (profile.compilerSettings false).map (·.older) ++
      [⟨"RuntimeLibrary", profile.runtime.number⟩]) "" []

/-- The linker in the older format. -/
def olderLinker : Element :=
  .mk "Tool"
    ([⟨"Name", "VCLinkerTool"⟩, ⟨"LinkIncremental", position profile.isIncremental⟩] ++
      (profile.linkerSettings false).map (·.older)) "" []

/-- A configuration in the older format. -/
def olderConfiguration : Element :=
  .mk "Configuration" (⟨"Name", profile.fullName⟩ :: profile.generalSettings.map (·.older)) ""
    [profile.olderCompiler, profile.olderLinker]

/-- A document of the older format with one configuration. -/
def olderDocument (name : String) : Element :=
  .mk "VisualStudioProject" [⟨"Name", name⟩] ""
    [.mk "Configurations" [] "" [profile.olderConfiguration]]

end Older

section Newer

/-- What a condition compares with the full name of a configuration. -/
def asked : String := "'$(Configuration)|$(Platform)'"

/-- The condition under which a group applies to the configuration. -/
def condition : String := asked ++ "==" ++ "'" ++ profile.fullName ++ "'"

/-- The declaration of the configuration in the newer format. -/
def newerDeclaration : Element :=
  .mk "ItemGroup" [⟨"Label", "ProjectConfigurations"⟩] ""
    [.mk "ProjectConfiguration" [⟨"Include", profile.fullName⟩] ""
      [leaf "Configuration" profile.buildType.val, leaf "Platform" profile.platform.val]]

/-- The properties of the configuration as a whole in the newer format. -/
def newerGeneral : Element :=
  .mk "PropertyGroup" [⟨"Condition", profile.condition⟩, ⟨"Label", "Configuration"⟩] ""
    (profile.generalSettings.map (·.newer))

/-- The property by which the newer format links incrementally. -/
def newerIncremental : Element :=
  .mk "PropertyGroup" [⟨"Condition", profile.condition⟩] ""
    [leaf "LinkIncremental" (switch profile.isIncremental)]

/-- The tools in the newer format. -/
def newerTools : Element :=
  .mk "ItemDefinitionGroup" [⟨"Condition", profile.condition⟩] ""
    [.mk "ClCompile" [] "" ((profile.compilerSettings inherits).map (·.newer) ++
        [leaf "RuntimeLibrary" profile.runtime.symbol]),
      .mk "Link" [] "" ((profile.linkerSettings inherits).map (·.newer))]

/-- A document of the newer format with one configuration. -/
def newerDocument : Element :=
  .mk "Project" [] ""
    [profile.newerDeclaration, profile.newerGeneral, profile.newerIncremental,
      profile.newerTools inherits]

end Newer

end Profile

end ProjectScribe.Reading
