import ProjectScribe.Proofs.Reading.Conditions

/-!
# Both formats say the same

A profile is written in the older format, as attributes of a configuration and of its tools, and in
the newer one, as elements below groups with a condition. Each format reads its document as one
project with the one configuration that the profile describes, and has nothing to note. What both
readers make of a single setting is proved once for each way of writing settings; a tool is then
read setting by setting.
-/
namespace ProjectScribe.Reading

open Xml (Attribute Element)

section Settings

variable {σ β : Type}

/-- A setting that both formats read as the change that it makes. The older format reads it with a
state of its own, in which the changed one is seen. -/
structure Setting.Agrees (readOlder : β → Attribute → Reading β) (seen : σ → β)
    (readNewer : σ → Element → Reading σ) (setting : Setting σ) : Prop where
  older : ∀ state, readOlder (seen state) setting.older = pure (seen (setting.effect state))
  newer : ∀ state, readNewer state setting.newer = pure (setting.effect state)

/-- What settings change, one after the other. -/
def applied (settings : List (Setting σ)) (state : σ) : σ :=
  settings.foldl (fun state setting => setting.effect state) state

/-- Entries are read as the changes that their settings make. -/
theorem fold_settings {γ : Type} {step : β → γ → Reading β} {seen : σ → β}
    {entry : Setting σ → γ} {settings : List (Setting σ)}
    (reads : ∀ setting ∈ settings, ∀ state,
      step (seen state) (entry setting) = pure (seen (setting.effect state))) (state : σ) :
    Reported.fold step (seen state) (settings.map entry) =
      pure (seen (applied settings state)) := by
  induction settings generalizing state with
  | nil => rfl
  | cons setting rest inductionHypothesis =>
    obtain ⟨here, further⟩ := List.forall_mem_cons.mp reads
    rw [List.map_cons, Reported.fold, here, pure_bind, inductionHypothesis further]
    rfl

end Settings

section Kinds

@[simp] theorem isYes_trimmed (value : String) : isYes (trimmed value) = isYes value := by
  rw [isYes, isYes, trimmed_trimmed]

@[simp] theorem isYes_switch (on : Bool) : isYes (switch on) = on := by
  cases on <;> decide

@[simp] theorem isOn_position (on : Bool) : isOn (position on) = on := by
  cases on <;> decide

@[simp] theorem normal_trimmed (path : String) : Path.normal (trimmed path) = Path.normal path := by
  rw [Path.normal, Path.normal, toList_trimmed, Text.trim, Text.trim, Text.strip_strip]

variable {σ β α : Type} {readOlder : β → Attribute → Reading β} {seen : σ → β}
  {readNewer : σ → Element → Reading σ} {inherits : Bool} {olderName newerName : String}

/-- Lists agree if both formats take items for them. -/
theorem agrees_list {items : List String} {effect : List String → σ → σ} {name : String}
    (older : ∀ value state, readOlder (seen state) ⟨name, value⟩ =
      pure (seen (effect (Reading.items isListMark value) state)))
    (newer : ∀ value state, readNewer state (leaf name value) =
      pure (effect (ownItems (trimmed value)) state))
    (plain : ∀ item ∈ items, IsWhole item ∧ isInherited item = false) (whole : IsWhole name) :
    (Setting.list inherits name items effect).Agrees readOlder seen readNewer where
  older := by
    intro state
    rw [Setting.list, older, items_of_whole isListMark rfl (fun _ unmarked => unmarked)
      fun item listed => (plain item listed).1]
  newer := by
    intro state
    rw [Setting.list, newer, ownItems_with_marks plain whole]

/-- Options agree if both formats take words for them. -/
theorem agrees_flags {items : List String} {effect : List String → σ → σ}
    (older : ∀ value state, readOlder (seen state) ⟨"AdditionalOptions", value⟩ =
      pure (seen (effect (words value) state)))
    (newer : ∀ value state, readNewer state (leaf "AdditionalOptions" value) =
      pure (effect (ownWords (trimmed value)) state))
    (plain : ∀ item ∈ items, IsWhole item ∧ isInherited item = false) :
    (Setting.flags inherits items effect).Agrees readOlder seen readNewer where
  older := by
    intro state
    rw [Setting.flags, older, words_of_whole fun item listed => (plain item listed).1]
  newer := by
    intro state
    rw [Setting.flags, newer, ownWords_with_marks plain (by decide)]

/-- Choices agree if both formats look them up in the same table. -/
theorem agrees_choice {choice : Choice α} (exact : choice.Exact) {place : choice.Place}
    {effect : α → σ → σ}
    (older : ∀ value state, readOlder (seen state) ⟨olderName, value⟩ = (do
      return seen (effect (← choice.decode value) state)))
    (newer : ∀ value state, readNewer state (leaf newerName value) = (do
      return effect (← choice.decode (trimmed value)) state)) :
    (Setting.choice olderName newerName place effect).Agrees readOlder seen readNewer where
  older := by
    intro state
    rw [Setting.choice, older, (exact place).1, pure_bind]
  newer := by
    intro state
    rw [Setting.choice, newer, Choice.decode_trimmed, (exact place).2, pure_bind]

/-- Switches agree if both formats ask whether they are on. -/
theorem agrees_bool {on : Bool} {effect : Bool → σ → σ}
    (older : ∀ value state, readOlder (seen state) ⟨olderName, value⟩ =
      pure (seen (effect (isYes value) state)))
    (newer : ∀ value state, readNewer state (leaf newerName value) =
      pure (effect (isYes (trimmed value)) state)) :
    (Setting.bool olderName newerName on effect).Agrees readOlder seen readNewer where
  older := by
    intro state
    rw [Setting.bool, older, isYes_switch]
  newer := by
    intro state
    rw [Setting.bool, newer, isYes_trimmed, isYes_switch]

/-- Paths agree if both formats take their normal form. -/
theorem agrees_path? {path : Option String} {effect : String → σ → σ}
    (older : ∀ value state, readOlder (seen state) ⟨olderName, value⟩ =
      pure (seen (effect (Path.normal value) state)))
    (newer : ∀ value state, readNewer state (leaf newerName value) =
      pure (effect (Path.normal (trimmed value)) state)) :
    ∀ setting ∈ Setting.path? olderName newerName path effect,
      setting.Agrees readOlder seen readNewer := by
  intro setting listed
  obtain ⟨written, -, rfl⟩ : ∃ written, path = some written ∧
      ⟨⟨olderName, written⟩, leaf newerName written, effect (Path.normal written)⟩ = setting := by
    simpa [Setting.path?] using listed
  constructor
  · intro state
    rw [older]
  · intro state
    rw [newer, normal_trimmed]

end Kinds

section Tools

variable (profile : Profile) (inherits : Bool)

/-- What one element says about a compiler. -/
def readCompilerLeaf (compiler : CompilerSettings) (element : Element) : Reading CompilerSettings :=
  ElementFormat.readCompilerElement element.name (ElementFormat.textOf element) compiler

/-- What one element says about a linker. -/
def readLinkerLeaf (linker : LinkerSettings) (element : Element) : Reading LinkerSettings :=
  ElementFormat.readLinkerElement "Link" element.name (ElementFormat.textOf element) linker

theorem agrees_general : ∀ setting ∈ profile.generalSettings,
    setting.Agrees AttributeFormat.readConfigurationAttribute id
      ElementFormat.readConfigurationProperty := by
  simp only [Profile.generalSettings, List.forall_mem_cons]
  refine ⟨?_, ?_, ?_, ?_, ?_, by simp⟩
  · exact agrees_choice Choice.exact_targetKinds (fun _ _ => rfl) (fun _ _ => rfl)
  · exact agrees_choice Choice.exact_libraryUsages (fun _ _ => rfl) (fun _ _ => rfl)
  · exact agrees_choice Choice.exact_libraryUsages (fun _ _ => rfl) (fun _ _ => rfl)
  · exact agrees_choice Choice.exact_characterSets (fun _ _ => rfl) (fun _ _ => rfl)
  · exact agrees_bool (fun _ _ => rfl) (fun _ _ => rfl)

theorem agrees_compiler (configuration : Configuration) :
    ∀ setting ∈ profile.compilerSettings inherits,
      setting.Agrees AttributeFormat.readCompilerAttribute (configuration, ·) readCompilerLeaf := by
  simp only [Profile.compilerSettings, List.forall_mem_append, List.forall_mem_cons]
  refine ⟨⟨⟨?_, ?_, ?_, ?_, ?_, ?_, ?_, ?_, ?_, ?_, by simp⟩, ?_⟩, ?_⟩
  · exact agrees_list (fun _ _ => rfl) (fun _ _ => rfl) (plain_texts _) (by decide)
  · exact agrees_list (fun _ _ => rfl) (fun _ _ => rfl) (plain_definitionItems _) (by decide)
  · exact agrees_bool (fun _ _ => rfl) (fun _ _ => rfl)
  · exact agrees_choice Choice.exact_exceptionHandlings (fun _ _ => rfl) (fun _ _ => rfl)
  · exact agrees_choice Choice.exact_optimizations (fun _ _ => rfl) (fun _ _ => rfl)
  · exact agrees_choice Choice.exact_warningLevels (fun _ _ => rfl) (fun _ _ => rfl)
  · exact agrees_bool (fun _ _ => rfl) (fun _ _ => rfl)
  · exact agrees_choice Choice.exact_headerModes (fun _ _ => rfl) (fun _ _ => rfl)
  · exact agrees_list (fun _ _ => rfl) (fun _ _ => rfl) (plain_texts _) (by decide)
  · exact agrees_flags (fun _ _ => rfl) (fun _ _ => rfl) (plain_texts _)
  · exact agrees_path? (fun _ _ => rfl) (fun _ _ => rfl)
  · exact agrees_path? (fun _ _ => rfl) (fun _ _ => rfl)

/-- Names of libraries agree, since the empty ones that the older format leaves out do not occur. -/
theorem agrees_libraries {names : List String}
    (plain : ∀ name ∈ names, IsWhole name ∧ isInherited name = false) :
    (Setting.libraries inherits names).Agrees
      (AttributeFormat.readLinkerAttribute "VCLinkerTool") id readLinkerLeaf := by
  have older : ∀ value linker,
      AttributeFormat.readLinkerAttribute "VCLinkerTool" linker ⟨"AdditionalDependencies", value⟩ =
        pure { linker with
          dependencies := ((words value).map libraryName).filter (· ≠ "") } := fun _ _ => rfl
  have newer : ∀ value linker, readLinkerLeaf linker (leaf "AdditionalDependencies" value) =
      pure { linker with dependencies := (ownItems (trimmed value)).map libraryName } :=
    fun _ _ => rfl
  have named : (names.map libraryName).filter (· ≠ "") = names.map libraryName := by
    rw [List.filter_eq_self]
    intro bare listed
    obtain ⟨name, given, rfl⟩ := List.mem_map.mp listed
    have whole := (plain name given).1
    simpa using libraryName_ne_empty whole.filled (.of_forall whole.dense)
      (.of_forall whole.unquoted)
  constructor
  · intro linker
    rw [id, id, Setting.libraries, older, words_of_whole fun item listed => (plain item listed).1,
      named]
  · intro linker
    rw [Setting.libraries, newer, ownItems_with_marks plain (by decide)]

/-- Positions and switches agree about the optimization of references. -/
theorem agrees_references (on : Bool) :
    (Setting.references on).Agrees
      (AttributeFormat.readLinkerAttribute "VCLinkerTool") id readLinkerLeaf := by
  have older : ∀ value linker,
      AttributeFormat.readLinkerAttribute "VCLinkerTool" linker ⟨"OptimizeReferences", value⟩ =
        pure { linker with optimizesReferences := isOn value } := fun _ _ => rfl
  have newer : ∀ value linker, readLinkerLeaf linker (leaf "OptimizeReferences" value) =
      pure { linker with optimizesReferences := isYes (trimmed value) } := fun _ _ => rfl
  constructor
  · intro linker
    rw [id, id, Setting.references, older, isOn_position]
  · intro linker
    rw [Setting.references, newer, isYes_trimmed, isYes_switch]

theorem agrees_linker : ∀ setting ∈ profile.linkerSettings inherits,
    setting.Agrees (AttributeFormat.readLinkerAttribute "VCLinkerTool") id readLinkerLeaf := by
  simp only [Profile.linkerSettings, List.forall_mem_append, List.forall_mem_cons]
  refine ⟨⟨⟨?_, ?_, ?_, ?_, by simp⟩, ?_⟩, ?_⟩
  · exact agrees_libraries inherits (plain_texts _)
  · exact agrees_list (fun _ _ => rfl) (fun _ _ => rfl) (plain_texts _) (by decide)
  · exact agrees_references _
  · exact agrees_flags (fun _ _ => rfl) (fun _ _ => rfl) (plain_texts _)
  · exact agrees_path? (fun _ _ => rfl) (fun _ _ => rfl)
  · exact agrees_path? (fun _ _ => rfl) (fun _ _ => rfl)

/-- The settings of a profile make up its compiler. -/
theorem applied_compiler : applied (profile.compilerSettings inherits) {} = profile.compiler := by
  have defined : (profile.defines.map fun definition => definitionItem definition.val).map
      definition = profile.defines.map PlainDefinition.meaning := by
    rw [List.map_map]
    apply List.map_congr_left
    intro item _
    rw [Function.comp_apply]
    exact definition_of_plain item
  rw [Profile.compilerSettings, Profile.compiler, ← defined]
  cases profile.header with
  | none => cases profile.binary <;> rfl
  | some header => cases profile.binary <;> rfl

/-- The settings of a profile make up its linker, beside the one that is not among them. -/
theorem applied_linker : applied (profile.linkerSettings inherits)
    { isIncremental := profile.isIncremental } = profile.linker := by
  rw [Profile.linkerSettings, Profile.linker]
  cases profile.moduleDefinition with
  | none => cases profile.programDatabase <;> rfl
  | some file => cases profile.programDatabase <;> rfl

end Tools

section Labels

variable (profile : Profile)

/-- A configuration of which only the build type and the platform are known. -/
def declared : Configuration where
  buildType := profile.buildType.val
  platform := profile.platform.val

theorem toList_fullName : profile.fullName.toList =
    profile.buildType.val.toList ++ '|' :: profile.platform.val.toList := by
  simp [Profile.fullName]

/-- The full name declares the build type and the platform. -/
theorem ofName_fullName : Configuration.ofName profile.fullName = declared profile := by
  have buildType := profile.buildType.property
  have platform := profile.platform.property
  rw [Configuration.ofName, toList_fullName, Text.cutAt_append buildType.uncut]
  change ({ buildType := trimmed _, platform := trimmed _ } : Configuration) = _
  rw [buildType.whole, platform.whole]
  rfl

/-- The condition asks for the build type and the platform. -/
theorem ofCondition?_condition : ElementFormat.Selection.ofCondition? profile.condition =
    some ⟨profile.buildType.val, some profile.platform.val⟩ := by
  have asking : profile.condition =
      ElementFormat.conditionFor (profile.buildType.val, profile.platform.val) := rfl
  rw [asking]
  exact ElementFormat.ofCondition?_conditionFor
    (.of_isLabel profile.buildType.property profile.platform.property)

/-- A group with the condition applies to the configuration. -/
theorem forSelected_condition {project : Project} {configuration changed : Configuration}
    {step : Configuration → Reading Configuration}
    (only : project.configurations = [configuration])
    (buildType : configuration.buildType = profile.buildType.val)
    (platform : configuration.platform = profile.platform.val)
    (stepped : step configuration = pure changed) :
    ElementFormat.forSelected (some profile.condition) step project =
      pure { project with configurations := [changed] } := by
  have chosen : (⟨profile.buildType.val, some profile.platform.val⟩ :
      ElementFormat.Selection).selects configuration = true := by
    simp [ElementFormat.Selection.selects, buildType, platform]
  rw [ElementFormat.forSelected, ElementFormat.selected, ofCondition?_condition, only]
  apply Reported.ext
  · simp [chosen, stepped]
  · simp [chosen, stepped]

end Labels

section Older

variable (profile : Profile)

/-- The run-time library decides whether the configuration uses one for debugging. -/
theorem debugRuntime_number (place : runtimeLibraries.Place) :
    debugRuntime place.number = pure place.meaning.isDebug := by
  rw [debugRuntime, (Choice.exact_runtimeLibraries place).1, pure_bind]

theorem debugRuntime_symbol (place : runtimeLibraries.Place) :
    debugRuntime (trimmed place.symbol) = pure place.meaning.isDebug := by
  rw [debugRuntime, Choice.decode_trimmed, (Choice.exact_runtimeLibraries place).2, pure_bind]

theorem readCompiler_olderCompiler (configuration : Configuration) :
    AttributeFormat.readCompiler configuration profile.olderCompiler =
      pure { configuration with
        usesDebugRuntime := profile.runtime.meaning.isDebug
        compilers := configuration.compilers ++ [profile.compiler] } := by
  have named : ∀ state, AttributeFormat.readCompilerAttribute state ⟨"Name", "VCCLCompilerTool"⟩ =
      pure state := fun _ => rfl
  have runtime : ∀ value compiler,
      AttributeFormat.readCompilerAttribute (configuration, compiler) ⟨"RuntimeLibrary", value⟩ =
        (do return ({ configuration with usesDebugRuntime := ← debugRuntime value }, compiler)) :=
    fun _ _ => rfl
  have settings := fold_settings (fun setting listed =>
    (agrees_compiler profile false configuration setting listed).older) {}
  rw [applied_compiler] at settings
  rw [AttributeFormat.readCompiler, Profile.olderCompiler, Element.attributes, List.cons_append,
    Reported.fold, named, pure_bind, Reported.fold_append, settings, pure_bind, Reported.fold,
    runtime, debugRuntime_number, pure_bind, pure_bind, Reported.fold, pure_bind]

theorem readLinker_olderLinker :
    AttributeFormat.readLinker profile.olderLinker = pure profile.linker := by
  have named : ∀ linker, AttributeFormat.readLinkerAttribute "VCLinkerTool" linker
      ⟨"Name", "VCLinkerTool"⟩ = pure linker := fun _ => rfl
  have incremental : ∀ value linker, AttributeFormat.readLinkerAttribute "VCLinkerTool" linker
      ⟨"LinkIncremental", value⟩ = pure { linker with isIncremental := isOn value } :=
    fun _ _ => rfl
  have settings := fold_settings (fun setting listed =>
    (agrees_linker profile false setting listed).older) { isIncremental := profile.isIncremental }
  rw [applied_linker] at settings
  have tool : profile.olderLinker.valueOf "Name" = "VCLinkerTool" := rfl
  rw [AttributeFormat.readLinker, tool, Profile.olderLinker, Element.attributes, List.cons_append,
    List.cons_append, List.nil_append, Reported.fold, named, pure_bind, Reported.fold,
    incremental, pure_bind, isOn_position]
  exact settings

theorem readConfiguration_olderConfiguration :
    AttributeFormat.readConfiguration profile.olderConfiguration =
      pure profile.configuration := by
  have named : ∀ configuration, AttributeFormat.readConfigurationAttribute configuration
      ⟨"Name", profile.fullName⟩ = pure configuration := fun _ => rfl
  have settings := fold_settings (fun setting listed =>
    (agrees_general profile setting listed).older) (declared profile)
  have name : profile.olderConfiguration.valueOf "Name" = profile.fullName := rfl
  have compiler : ∀ configuration, AttributeFormat.readTool configuration profile.olderCompiler =
      AttributeFormat.readCompiler configuration profile.olderCompiler := fun _ => rfl
  have linker : ∀ configuration, AttributeFormat.readTool configuration profile.olderLinker =
      (do
        let linker ← AttributeFormat.readLinker profile.olderLinker
        return { configuration with linkers := configuration.linkers ++ [linker] }) := fun _ => rfl
  rw [AttributeFormat.readConfiguration, name, ofName_fullName, Profile.olderConfiguration,
    Element.attributes, Element.children, Reported.fold, named, pure_bind]
  rw [id] at settings
  rw [settings, pure_bind, Reported.fold, compiler, readCompiler_olderCompiler, pure_bind,
    Reported.fold, linker, readLinker_olderLinker, pure_bind, pure_bind, Reported.fold]
  rfl

end Older

section Newer

variable {configuration : Configuration}

/-- A configuration has one compiler from the first change on. -/
theorem updateCompiler_fresh (change : CompilerSettings → Reading CompilerSettings)
    (fresh : configuration.compilers = []) :
    ElementFormat.updateCompiler configuration change =
      ElementFormat.updateCompiler { configuration with compilers := [{}] } change := by
  cases configuration
  cases fresh
  rfl

theorem updateCompiler_one {change : CompilerSettings → Reading CompilerSettings}
    {compiler changed : CompilerSettings} (changes : change compiler = pure changed) :
    ElementFormat.updateCompiler { configuration with compilers := [compiler] } change =
      pure { configuration with compilers := [changed] } := by
  change (do return { configuration with compilers := [← change compiler] }) = _
  rw [changes, pure_bind]

theorem updateLinker_one {change : LinkerSettings → Reading LinkerSettings}
    {linker changed : LinkerSettings} (changes : change linker = pure changed) :
    ElementFormat.updateLinker { configuration with linkers := [linker] } change =
      pure { configuration with linkers := [changed] } := by
  change (do return { configuration with linkers := [← change linker] }) = _
  rw [changes, pure_bind]

/-- All elements of a compiler but the run-time library are about the compiler alone. -/
theorem readCompilerSetting_eq {element : Element} (named : element.name ≠ "RuntimeLibrary") :
    ElementFormat.readCompilerSetting configuration element =
      ElementFormat.updateCompiler configuration fun compiler =>
        readCompilerLeaf compiler element :=
  if_neg named

/-- The run-time library is no setting of the compiler, which would have to note it. -/
theorem name_ne_of_read {compiler changed : CompilerSettings} {element : Element}
    (read : readCompilerLeaf compiler element = pure changed) :
    element.name ≠ "RuntimeLibrary" := by
  intro named
  rw [readCompilerLeaf, named] at read
  have noted : (ElementFormat.readCompilerElement "RuntimeLibrary" (ElementFormat.textOf element)
      compiler).notes = [.unknownElement .vcxproj "ClCompile" "RuntimeLibrary"] := rfl
  rw [read] at noted
  exact absurd noted (List.cons_ne_nil _ _).symm

variable (profile : Profile) (inherits : Bool)

/-- The settings of the compiler are read into a configuration without one. -/
theorem fold_readCompilerSetting (fresh : configuration.compilers = []) :
    Reported.fold ElementFormat.readCompilerSetting configuration
        ((profile.compilerSettings inherits).map (·.newer)) =
      pure { configuration with compilers := [profile.compiler] } := by
  have agree := agrees_compiler profile inherits configuration
  have named : ∀ setting ∈ profile.compilerSettings inherits,
      setting.newer.name ≠ "RuntimeLibrary" :=
    fun setting listed => name_ne_of_read ((agree setting listed).newer {})
  have reads : ∀ setting ∈ profile.compilerSettings inherits, ∀ compiler,
      ElementFormat.readCompilerSetting { configuration with compilers := [compiler] }
          setting.newer =
        pure { configuration with compilers := [setting.effect compiler] } := by
    intro setting listed compiler
    rw [readCompilerSetting_eq (named setting listed)]
    exact updateCompiler_one ((agree setting listed).newer compiler)
  have settings := fold_settings reads {}
  rw [applied_compiler] at settings
  rw [← settings]
  -- The first setting finds no compiler yet; all others find one.
  cases given : profile.compilerSettings inherits with
  | nil => exact absurd given (by simp [Profile.compilerSettings])
  | cons first rest =>
    have firstNamed := named first (by rw [given]; exact List.mem_cons_self)
    rw [List.map_cons, Reported.fold, Reported.fold, readCompilerSetting_eq firstNamed,
      readCompilerSetting_eq firstNamed, updateCompiler_fresh _ fresh]

/-- What one element of a linker says. -/
def readLinkerSetting (configuration : Configuration) (element : Element) :
    Reading Configuration :=
  ElementFormat.updateLinker configuration fun linker => readLinkerLeaf linker element

/-- The settings of the linker are read into a configuration whose linker has only been told
whether it links incrementally. -/
theorem fold_updateLinker
    (begun : configuration.linkers = [{ isIncremental := profile.isIncremental }]) :
    Reported.fold readLinkerSetting configuration
        ((profile.linkerSettings inherits).map (·.newer)) =
      pure { configuration with linkers := [profile.linker] } := by
  have reads : ∀ setting ∈ profile.linkerSettings inherits, ∀ linker,
      readLinkerSetting { configuration with linkers := [linker] } setting.newer =
        pure { configuration with linkers := [setting.effect linker] } :=
    fun setting listed linker =>
      updateLinker_one ((agrees_linker profile inherits setting listed).newer linker)
  have settings := fold_settings reads { isIncremental := profile.isIncremental }
  rw [applied_linker, ← begun] at settings
  exact settings

/-- The tools are read into a configuration without a compiler. -/
theorem fold_readToolDefinition (fresh : configuration.compilers = [])
    (begun : configuration.linkers = [{ isIncremental := profile.isIncremental }]) :
    Reported.fold ElementFormat.readToolDefinition configuration
        (profile.newerTools inherits).children =
      pure { configuration with
        usesDebugRuntime := profile.runtime.meaning.isDebug
        compilers := [profile.compiler]
        linkers := [profile.linker] } := by
  have compiler : ∀ state elements, ElementFormat.readToolDefinition state
      (.mk "ClCompile" [] "" elements) =
        Reported.fold ElementFormat.readCompilerSetting state elements := fun _ _ => rfl
  have runtime : ∀ state value, ElementFormat.readCompilerSetting state
      (leaf "RuntimeLibrary" value) =
        (do return { state with usesDebugRuntime := ← debugRuntime (trimmed value) }) :=
    fun _ _ => rfl
  have linker : ∀ state elements, ElementFormat.readToolDefinition state
      (.mk "Link" [] "" elements) =
        Reported.fold readLinkerSetting state elements := fun _ _ => rfl
  have linked : Reported.fold readLinkerSetting { configuration with
        usesDebugRuntime := profile.runtime.meaning.isDebug
        compilers := [profile.compiler] } ((profile.linkerSettings inherits).map (·.newer)) =
      pure { configuration with
        usesDebugRuntime := profile.runtime.meaning.isDebug
        compilers := [profile.compiler]
        linkers := [profile.linker] } := fold_updateLinker profile inherits begun
  rw [Profile.newerTools, Element.children, Reported.fold, compiler, Reported.fold_append,
    fold_readCompilerSetting profile inherits fresh, pure_bind, Reported.fold, runtime,
    debugRuntime_symbol, pure_bind, pure_bind, Reported.fold, pure_bind, Reported.fold, linker,
    linked, pure_bind, Reported.fold]

end Newer

section Documents

variable (profile : Profile) (inherits : Bool)

/-- The properties of the configuration as a whole, which leave its tools out. -/
def general : Configuration :=
  { profile.configuration with usesDebugRuntime := false, compilers := [], linkers := [] }

/-- The declaration is read twice, from the full name and from its parts. -/
theorem readProjectPart_declaration (dialect : Option Dialect) :
    ElementFormat.readProjectPart ({ dialect := dialect }, []) profile.newerDeclaration =
      pure ({ dialect := dialect, configurations := [declared profile] }, []) := by
  have part : ∀ state : Project × List ElementFormat.Item,
      ElementFormat.readProjectPart state profile.newerDeclaration = (do
        return (← Reported.fold ElementFormat.addDeclaration state.1
          profile.newerDeclaration.children, state.2)) := fun _ => rfl
  have declares : ∀ project name parts, ElementFormat.addDeclaration project
      (.mk "ProjectConfiguration" [⟨"Include", name⟩] "" parts) = (do
        let configuration ← ElementFormat.readDeclaration
          (.mk "ProjectConfiguration" [⟨"Include", name⟩] "" parts)
        return { project with configurations := project.configurations ++ [configuration] }) :=
    fun _ _ _ => rfl
  have read : ∀ name buildType platform, ElementFormat.readDeclaration
      (.mk "ProjectConfiguration" [⟨"Include", name⟩] ""
        [leaf "Configuration" buildType, leaf "Platform" platform]) =
      pure { Configuration.ofName name with
        buildType := trimmed buildType
        platform := trimmed platform } := fun _ _ _ => rfl
  rw [part, Profile.newerDeclaration, Element.children, Reported.fold, declares, read,
    ofName_fullName, profile.buildType.property.whole, profile.platform.property.whole, pure_bind,
    pure_bind, Reported.fold, pure_bind]
  rfl

theorem readProjectPart_general {project : Project}
    (only : project.configurations = [declared profile]) :
    ElementFormat.readProjectPart (project, []) profile.newerGeneral =
      pure ({ project with configurations := [general profile] }, []) := by
  have part : ∀ state : Project × List ElementFormat.Item,
      ElementFormat.readProjectPart state profile.newerGeneral = (do
        return (← ElementFormat.forSelected (some profile.condition) (fun configuration =>
          Reported.fold ElementFormat.readConfigurationProperty configuration
            (profile.generalSettings.map (·.newer))) state.1, state.2)) := fun _ => rfl
  have read : Reported.fold ElementFormat.readConfigurationProperty (declared profile)
      (profile.generalSettings.map (·.newer)) = pure (general profile) :=
    fold_settings (fun setting listed => (agrees_general profile setting listed).newer)
      (declared profile)
  have selected : ElementFormat.forSelected (some profile.condition) (fun configuration =>
      Reported.fold ElementFormat.readConfigurationProperty configuration
        (profile.generalSettings.map (·.newer))) project =
      pure { project with configurations := [general profile] } :=
    forSelected_condition profile only rfl rfl read
  rw [part, selected, pure_bind]

/-- The linker begins with the property that says whether it links incrementally. -/
theorem readProjectPart_incremental {project : Project}
    (only : project.configurations = [general profile]) :
    ElementFormat.readProjectPart (project, []) profile.newerIncremental =
      pure ({ project with configurations := [{ general profile with
        linkers := [{ isIncremental := profile.isIncremental }] }] }, []) := by
  have part : ∀ state : Project × List ElementFormat.Item,
      ElementFormat.readProjectPart state profile.newerIncremental = (do
        return (← ElementFormat.forSelected (some profile.condition) (fun configuration =>
          Reported.fold ElementFormat.readGeneralProperty configuration
            [leaf "LinkIncremental" (switch profile.isIncremental)]) state.1, state.2)) :=
    fun _ => rfl
  have step : ∀ value, Reported.fold ElementFormat.readGeneralProperty (general profile)
      [leaf "LinkIncremental" value] =
      pure { general profile with linkers := [{ isIncremental := isYes (trimmed value) }] } :=
    fun _ => rfl
  have read := step (switch profile.isIncremental)
  rw [isYes_trimmed, isYes_switch] at read
  have selected : ElementFormat.forSelected (some profile.condition) (fun configuration =>
      Reported.fold ElementFormat.readGeneralProperty configuration
        [leaf "LinkIncremental" (switch profile.isIncremental)]) project =
      pure { project with configurations := [{ general profile with
        linkers := [{ isIncremental := profile.isIncremental }] }] } :=
    forSelected_condition profile only rfl rfl read
  rw [part, selected, pure_bind]

theorem readProjectPart_tools {project : Project}
    (only : project.configurations = [{ general profile with
      linkers := [{ isIncremental := profile.isIncremental }] }]) :
    ElementFormat.readProjectPart (project, []) (profile.newerTools inherits) =
      pure ({ project with configurations := [profile.configuration] }, []) := by
  have part : ∀ state : Project × List ElementFormat.Item,
      ElementFormat.readProjectPart state (profile.newerTools inherits) = (do
        return (← ElementFormat.forSelected (some profile.condition) (fun configuration =>
          Reported.fold ElementFormat.readToolDefinition configuration
            (profile.newerTools inherits).children) state.1, state.2)) := fun _ => rfl
  have read : Reported.fold ElementFormat.readToolDefinition { general profile with
        linkers := [{ isIncremental := profile.isIncremental }] }
          (profile.newerTools inherits).children = pure profile.configuration :=
    fold_readToolDefinition profile inherits rfl rfl
  have selected : ElementFormat.forSelected (some profile.condition) (fun configuration =>
      Reported.fold ElementFormat.readToolDefinition configuration
        (profile.newerTools inherits).children) project =
      pure { project with configurations := [profile.configuration] } :=
    forSelected_condition profile only rfl rfl read
  rw [part, selected, pure_bind]

/-- A reading of one project with one configuration that has nothing to note. -/
structure Declares (reading : Reading (List Project)) (configuration : Configuration) : Prop where
  configurations : reading.value.map (·.configurations) = [[configuration]]
  silent : reading.notes = []

/-- A document of the older format is read as its configuration. -/
theorem declares_olderDocument (name : String) :
    Declares (AttributeFormat.readProjects (profile.olderDocument name))
      profile.configuration := by
  have projects : (profile.olderDocument name).withDescendants.filter
      (·.name = "VisualStudioProject") = [profile.olderDocument name] := rfl
  have attributes : Reported.fold AttributeFormat.readProjectAttribute
      { dialect := some .vcproj } [⟨"Name", name⟩] =
        pure { dialect := some .vcproj, name := name } := rfl
  have part : ∀ project elements, AttributeFormat.readProjectPart project
      (.mk "Configurations" [] "" elements) = (do
        let configurations ←
          Reported.fold AttributeFormat.addConfiguration project.configurations elements
        return { project with configurations := configurations }) := fun _ _ => rfl
  have added : ∀ configurations, AttributeFormat.addConfiguration configurations
      profile.olderConfiguration = (do
        return configurations ++
          [← AttributeFormat.readConfiguration profile.olderConfiguration]) := fun _ => rfl
  have read : AttributeFormat.readProject (profile.olderDocument name) =
      pure ({
        dialect := some .vcproj
        name := name
        configurations := [profile.configuration] } : Project).markBuildUnits := by
    rw [AttributeFormat.readProject, Profile.olderDocument, Element.attributes, Element.children,
      attributes, pure_bind, Reported.fold, part, Reported.fold, added,
      readConfiguration_olderConfiguration, pure_bind, pure_bind, Reported.fold, pure_bind,
      pure_bind, Reported.fold, pure_bind]
    rfl
  rw [AttributeFormat.readProjects, projects, Reported.forEach, read, pure_bind, Reported.forEach,
    pure_bind]
  exact ⟨rfl, rfl⟩

/-- A document of the newer format is read as its configuration. -/
theorem declares_newerDocument (fallback : String) :
    Declares (ElementFormat.readProjects (profile.newerDocument inherits) none fallback)
      profile.configuration := by
  have read : ElementFormat.readProjects (profile.newerDocument inherits) none fallback = (do
      let state ← Reported.fold ElementFormat.readProjectPart ({ dialect := some .vcxproj }, [])
        (profile.newerDocument inherits).children
      return [← ElementFormat.finish fallback state.1 state.2]) := rfl
  have finished : ∀ project, ElementFormat.finish fallback project [] =
      pure ({ project with
        name := ElementFormat.nameOf project fallback
        filters := .empty } : Project).markBuildUnits := fun _ => rfl
  rw [read, Profile.newerDocument, Element.children, Reported.fold, readProjectPart_declaration,
    pure_bind, Reported.fold, readProjectPart_general profile rfl, pure_bind, Reported.fold,
    readProjectPart_incremental profile rfl, pure_bind, Reported.fold,
    readProjectPart_tools profile inherits rfl, pure_bind, Reported.fold, pure_bind, finished,
    pure_bind]
  exact ⟨rfl, rfl⟩

/-- Both formats say the same: every profile, written in either of them, is read as the one
configuration that it describes, and nothing is noted. This holds whatever the project is called,
and whether or not the lists of the newer format go on with inherited values. -/
theorem formats_agree (profile : Profile) (inherits : Bool) (name fallback : String) :
    Declares (AttributeFormat.readProjects (profile.olderDocument name)) profile.configuration ∧
      Declares (ElementFormat.readProjects (profile.newerDocument inherits) none fallback)
        profile.configuration :=
  ⟨declares_olderDocument profile name, declares_newerDocument profile inherits fallback⟩

/-- A library that is built for release. -/
def release : Profile where
  buildType := ⟨"Release", by decide, by decide, by decide⟩
  platform := ⟨"Pocket PC", by decide, by decide, by decide⟩
  kind := ⟨2, by decide⟩
  mfc := ⟨1, by decide⟩
  atl := ⟨2, by decide⟩
  charset := ⟨1, by decide⟩
  optimizesWhole := true
  runtime := ⟨2, by decide⟩
  includeDirs := [⟨"..\\include\\", by decide⟩, ⟨".", by decide⟩]
  defines := [⟨("NDEBUG", none), by decide⟩, ⟨("LEVEL", some "2=b"), by decide⟩]
  rtti := false
  exceptionHandling := ⟨2, by decide⟩
  optimization := ⟨3, by decide⟩
  warningLevel := ⟨4, by decide⟩
  warningsAsErrors := true
  headerMode := ⟨2, by decide⟩
  header := some " .\\all.h"
  binary := some "out\\all.pch"
  disabledWarnings := [⟨"4996", by decide⟩, ⟨"4100", by decide⟩]
  compilerFlags := [⟨"/MP", by decide⟩, ⟨"/bigobj", by decide⟩]
  dependencies := [⟨"ws2_32.lib", by decide⟩, ⟨"zlib", by decide⟩]
  libraryDirs := [⟨"..\\lib", by decide⟩]
  moduleDefinition := some "exports.def"
  programDatabase := none
  isIncremental := true
  optimizesReferences := true
  linkerFlags := [⟨"/FORCE", by decide⟩]

/-- What both documents say about the library. -/
theorem formats_agree_release :
    let configuration : Configuration := {
      buildType := "Release"
      platform := "Pocket PC"
      kind := .dynamicLibrary
      mfc := .static
      atl := .dynamic
      charset := .unicode
      optimizesWhole := true
      usesDebugRuntime := false
      compilers := [{
        includeDirs := [{ path := "../include/" }, { path := "." }]
        defines := ⟨[("LEVEL", "2=b"), ("NDEBUG", "")]⟩
        rtti := false
        exceptionHandling := .async
        optimization := .full
        warningLevel := .level4
        warningsAsErrors := true
        precompiled := ⟨.use, some "all.h", some "out/all.pch"⟩
        options := ⟨["/MP", "/bigobj"], ["4996", "4100"]⟩ }]
      linkers := [{
        dependencies := ["ws2_32", "zlib"]
        libraryDirs := ["../lib"]
        moduleDefinition := some "exports.def"
        isIncremental := true
        optimizesReferences := true
        options := { flags := ["/FORCE"] } }] }
    Declares (AttributeFormat.readProjects (release.olderDocument "core")) configuration ∧
      Declares (ElementFormat.readProjects (release.newerDocument true) none "core.vcxproj")
        configuration := by
  intro configuration
  have described : release.configuration = configuration := by decide
  rw [← described]
  exact formats_agree release true "core" "core.vcxproj"

end Documents

end ProjectScribe.Reading
