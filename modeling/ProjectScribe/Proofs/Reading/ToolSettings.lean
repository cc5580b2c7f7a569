import ProjectScribe.Proofs.Reading.Slashes

/-!
# What groups of settings make of tools

Groups of settings change the compiler and the linker of a configuration, of which there is at
most one each, and they do it element by element. So what becomes of a part of these tools is what
the elements in the groups that apply to the configuration make of it, one after the other.
-/
namespace ProjectScribe.Reported

variable {Note α β γ : Type} {step : β → α → Reported Note β}

/-- Where every step changes a field in its own way, working off a list changes it in these ways,
one after the other. -/
theorem fold_changes (field : β → γ) (change : α → γ → γ)
    (each : ∀ state a, field (step state a).value = change a (field state)) (state : β)
    (list : List α) :
    field (fold step state list).value =
      list.foldl (fun value a => change a value) (field state) := by
  induction list generalizing state with
  | nil => rfl
  | cons a rest inductionHypothesis =>
    rw [fold, value_bind, inductionHypothesis, each, List.foldl_cons]

/-- Where no step changes a field, working off a list does not change it. -/
theorem fold_unchanged (field : β → γ)
    (each : ∀ state a, field (step state a).value = field state) (state : β) (list : List α) :
    field (fold step state list).value = field state :=
  fold_keeps (motive := fun reached => field reached = field state)
    (fun reached a _ same => (each reached a).trans same) state rfl

end ProjectScribe.Reported

namespace ProjectScribe.Reading

/-- What the elements of a list give that pass a test. -/
theorem flatMap_ite {α β : Type} (list : List α) (test : α → Prop) [DecidablePred test]
    (give : α → List β) :
    list.flatMap (fun a => if test a then give a else []) =
      (list.filter (test ·)).flatMap give := by
  induction list with
  | nil => rfl
  | cons a rest inductionHypothesis =>
    rw [List.flatMap_cons, inductionHypothesis, List.filter_cons]
    by_cases passes : test a <;> simp [passes]

/-- A list with at most one element gives what its first gives, or a default that gives nothing. -/
theorem flatMap_of_length_le_one {α β : Type} {list : List α} {give : α → List β} {default : α}
    (few : list.length ≤ 1) (none : give default = []) :
    list.flatMap give = give (list.head?.getD default) := by
  rcases list with _ | ⟨a, _ | ⟨second, others⟩⟩
  · simp [none]
  · simp
  · simp at few

namespace ElementFormat

open Xml (Element)

section Tools

variable {configuration : Configuration}

/-- The compiler that groups of settings change. -/
def compilerOf (configuration : Configuration) : CompilerSettings :=
  configuration.compilers.head?.getD {}

/-- The linker that groups of settings change. -/
def linkerOf (configuration : Configuration) : LinkerSettings :=
  configuration.linkers.head?.getD {}

/-- A configuration with at most one compiler and at most one linker. -/
def HasFewTools (configuration : Configuration) : Prop :=
  configuration.compilers.length ≤ 1 ∧ configuration.linkers.length ≤ 1

theorem compilerOf_updateCompiler (change : CompilerSettings → Reading CompilerSettings) :
    compilerOf (updateCompiler configuration change).value =
      (change (compilerOf configuration)).value := by
  rw [updateCompiler]
  cases known : configuration.compilers <;> simp [compilerOf, known]

theorem linkers_updateCompiler (change : CompilerSettings → Reading CompilerSettings) :
    (updateCompiler configuration change).value.linkers = configuration.linkers := by
  rw [updateCompiler]
  split <;> rfl

theorem hasFewTools_updateCompiler (change : CompilerSettings → Reading CompilerSettings) :
    HasFewTools (updateCompiler configuration change).value = HasFewTools configuration := by
  rw [updateCompiler]
  cases known : configuration.compilers <;> simp [HasFewTools, known]

theorem linkerOf_updateLinker (change : LinkerSettings → Reading LinkerSettings) :
    linkerOf (updateLinker configuration change).value =
      (change (linkerOf configuration)).value := by
  rw [updateLinker]
  cases known : configuration.linkers <;> simp [linkerOf, known]

theorem compilers_updateLinker (change : LinkerSettings → Reading LinkerSettings) :
    (updateLinker configuration change).value.compilers = configuration.compilers := by
  rw [updateLinker]
  split <;> rfl

theorem hasFewTools_updateLinker (change : LinkerSettings → Reading LinkerSettings) :
    HasFewTools (updateLinker configuration change).value = HasFewTools configuration := by
  rw [updateLinker]
  cases known : configuration.linkers <;> simp [HasFewTools, known]

/-- What all compilers of a configuration have together is what the one has that groups of
settings change. -/
theorem HasFewTools.compilers_flatMap {α : Type} {give : CompilerSettings → List α}
    (few : HasFewTools configuration) (none : give {} = []) :
    configuration.compilers.flatMap give = give (compilerOf configuration) :=
  flatMap_of_length_le_one few.1 none

/-- What all linkers of a configuration have together is what the one has that groups of settings
change. -/
theorem HasFewTools.linkers_flatMap {α : Type} {give : LinkerSettings → List α}
    (few : HasFewTools configuration) (none : give {} = []) :
    configuration.linkers.flatMap give = give (linkerOf configuration) :=
  flatMap_of_length_le_one few.2 none

/-- The run-time library says nothing about the compiler. -/
theorem readCompilerElement_runtime (value : String) (compiler : CompilerSettings) :
    (readCompilerElement "RuntimeLibrary" value compiler).value = compiler := by
  rfl

/-- Which run-time library a compiler uses is kept apart from the tools. -/
theorem tools_readRuntime (configuration : Configuration) {element : Element}
    (runtime : element.name = "RuntimeLibrary") :
    (readCompilerSetting configuration element).value.compilers = configuration.compilers ∧
      (readCompilerSetting configuration element).value.linkers = configuration.linkers := by
  rw [readCompilerSetting, if_pos runtime]
  simp

/-- Properties of a configuration leave its tools as they are. -/
theorem tools_readConfigurationProperty (configuration : Configuration) (element : Element) :
    (readConfigurationProperty configuration element).value.compilers = configuration.compilers ∧
      (readConfigurationProperty configuration element).value.linkers = configuration.linkers := by
  rw [readConfigurationProperty]
  split <;> simp

end Tools

section Changes

variable {γ : Type} {field : Configuration → γ} {tools : List String} {change : Element → γ → γ}

/-- The groups that define tools and apply to a configuration. -/
def definitionGroups (parts : List Element) (configuration : Configuration) : List Element :=
  parts.filter fun part => part.name = "ItemDefinitionGroup" && applies part configuration

/-- The elements in which groups say something about some tools. -/
def toolElements (tools : List String) (groups : List Element) : List Element :=
  groups.flatMap fun group => (group.children.filter (·.name ∈ tools)).flatMap (·.children)

theorem toolElements_cons (tools : List String) (group : Element) (rest : List Element) :
    toolElements tools (group :: rest) =
      toolElements tools [group] ++ toolElements tools rest := by
  simp only [toolElements, List.flatMap_cons, List.flatMap_nil, List.append_nil]

/-- A field of configurations that only the definitions of some tools change, element by
element. -/
structure ChangedBy (field : Configuration → γ) (tools : List String)
    (change : Element → γ → γ) : Prop where
  property : ∀ configuration element,
    field (readConfigurationProperty configuration element).value = field configuration
  generally : ∀ configuration element,
    field (readGeneralProperty configuration element).value = field configuration
  definition : ∀ configuration tool, field (readToolDefinition configuration tool).value =
    (if tool.name ∈ tools then tool.children else []).foldl
      (fun value element => change element value) (field configuration)

/-- A group that defines no tools leaves such a field as it is. -/
theorem ChangedBy.settle_other (changed : ChangedBy field tools change) {group : Element}
    (other : group.name ≠ "ItemDefinitionGroup") (configuration : Configuration) :
    field (settle group configuration) = field configuration := by
  rw [settle, if_neg other]
  split
  · split
    · rfl
    · split
      · exact Reported.fold_unchanged field changed.property configuration _
      · split
        · rfl
        · exact Reported.fold_unchanged field changed.generally configuration _
  · rfl

/-- A group that defines tools changes such a field by the elements of these. -/
theorem ChangedBy.settle_definitions (changed : ChangedBy field tools change) {group : Element}
    (defining : group.name = "ItemDefinitionGroup") (configuration : Configuration) :
    field (settle group configuration) = (toolElements tools [group]).foldl
      (fun value element => change element value) (field configuration) := by
  have read := Reported.fold_changes field
    (fun tool value => (if tool.name ∈ tools then tool.children else []).foldl
      (fun value element => change element value) value)
    changed.definition configuration group.children
  rw [← List.foldl_flatMap, flatMap_ite] at read
  rw [settle, if_neg (by simp [defining]), if_pos defining, read, toolElements,
    List.flatMap_singleton]

/-- What becomes of such a field is what the elements in the groups make of it that apply. -/
theorem ChangedBy.settledBy (changed : ChangedBy field tools change) (parts : List Element)
    (configuration : Configuration) :
    field (settledBy parts configuration) =
      (toolElements tools (definitionGroups parts configuration)).foldl
        (fun value element => change element value) (field configuration) := by
  induction parts generalizing configuration with
  | nil => rfl
  | cons part rest inductionHypothesis =>
    have same : definitionGroups rest (settled part configuration) =
        definitionGroups rest configuration :=
      List.filter_congr fun group _ => by
        rw [applies_congr (labelOf_settled part configuration)]
    have further := inductionHypothesis (settled part configuration)
    rw [same] at further
    refine further.trans ?_
    rw [definitionGroups, definitionGroups, List.filter_cons]
    by_cases here : applies part configuration = true
    · rw [settled, if_pos here]
      by_cases defining : part.name = "ItemDefinitionGroup"
      · rw [changed.settle_definitions defining, if_pos (by simp [here, defining]),
          toolElements_cons tools part (rest.filter _), List.foldl_append]
      · rw [changed.settle_other defining, if_neg (by simp [defining])]
    · rw [settled, if_neg here, if_neg (by simp [here])]

/-- A part of the compiler is changed by the elements that say something about the compiler. -/
theorem changedBy_compiler (part : CompilerSettings → γ)
    (each : ∀ compiler element,
      part (readCompilerElement element.name (textOf element) compiler).value =
        change element (part compiler)) :
    ChangedBy (fun configuration => part (compilerOf configuration)) ["ClCompile"] change where
  property := by
    intro configuration element
    rw [compilerOf, (tools_readConfigurationProperty configuration element).1, compilerOf]
  generally := by
    intro configuration element
    rw [readGeneralProperty]
    split
    · rw [compilerOf, compilers_updateLinker, compilerOf]
    · rfl
  definition := by
    intro configuration tool
    have step : ∀ configuration element,
        part (compilerOf (readCompilerSetting configuration element).value) =
          change element (part (compilerOf configuration)) := by
      intro configuration element
      rw [← each]
      by_cases runtime : element.name = "RuntimeLibrary"
      · rw [compilerOf, (tools_readRuntime configuration runtime).1, runtime,
          readCompilerElement_runtime, compilerOf]
      · rw [readCompilerSetting, if_neg runtime, compilerOf_updateCompiler]
    rw [readToolDefinition]
    by_cases isCompiler : tool.name = "ClCompile"
    · rw [if_pos isCompiler, if_pos (by simp [isCompiler])]
      exact Reported.fold_changes (fun configuration => part (compilerOf configuration)) change
        step configuration tool.children
    · have other : tool.name ∉ ["ClCompile"] := by simpa using isCompiler
      rw [if_neg isCompiler, if_neg other]
      split
      · refine Reported.fold_unchanged (fun configuration => part (compilerOf configuration))
          (fun reached element => ?_) configuration _
        rw [compilerOf, compilers_updateLinker, compilerOf]
      · rfl

/-- A part of the linker is changed by the elements that say something about the linker, if it
does not show whether the linker works incrementally. -/
theorem changedBy_linker (part : LinkerSettings → γ)
    (blind : ∀ linker isIncremental, part { linker with isIncremental } = part linker)
    (each : ∀ tool linker element,
      part (readLinkerElement tool element.name (textOf element) linker).value =
        change element (part linker)) :
    ChangedBy (fun configuration => part (linkerOf configuration)) ["Link", "Lib"] change where
  property := by
    intro configuration element
    rw [linkerOf, (tools_readConfigurationProperty configuration element).2, linkerOf]
  generally := by
    intro configuration element
    rw [readGeneralProperty]
    split
    · rw [linkerOf_updateLinker]
      exact blind _ _
    · rfl
  definition := by
    intro configuration tool
    rw [readToolDefinition]
    by_cases isCompiler : tool.name = "ClCompile"
    · rw [if_pos isCompiler, if_neg (by simp [isCompiler])]
      refine Reported.fold_unchanged (fun configuration => part (linkerOf configuration))
        (fun reached element => ?_) configuration _
      rw [linkerOf, linkerOf]
      by_cases runtime : element.name = "RuntimeLibrary"
      · rw [(tools_readRuntime reached runtime).2]
      · rw [readCompilerSetting, if_neg runtime, linkers_updateCompiler]
    · rw [if_neg isCompiler]
      by_cases isLinker : tool.name = "Link" ∨ tool.name = "Lib"
      · rw [if_pos isLinker, if_pos (by simpa using isLinker)]
        have step : ∀ configuration element, part (linkerOf (updateLinker configuration
            (readLinkerElement tool.name element.name (textOf element))).value) =
              change element (part (linkerOf configuration)) := by
          intro configuration element
          rw [linkerOf_updateLinker, each]
        exact Reported.fold_changes (fun configuration => part (linkerOf configuration)) change
          step configuration tool.children
      · rw [if_neg isLinker, if_neg (by simpa using isLinker)]
        rfl

/-- No group gives a configuration a second compiler or a second linker. -/
theorem changedBy_hasFewTools : ChangedBy HasFewTools [] fun _ few => few where
  property := by
    intro configuration element
    obtain ⟨compilers, linkers⟩ := tools_readConfigurationProperty configuration element
    rw [HasFewTools, compilers, linkers, HasFewTools]
  generally := by
    intro configuration element
    rw [readGeneralProperty]
    split
    · exact hasFewTools_updateLinker _
    · rfl
  definition := by
    intro configuration tool
    have step : ∀ configuration element,
        HasFewTools (readCompilerSetting configuration element).value =
          HasFewTools configuration := by
      intro configuration element
      by_cases runtime : element.name = "RuntimeLibrary"
      · obtain ⟨compilers, linkers⟩ := tools_readRuntime configuration runtime
        rw [HasFewTools, compilers, linkers, HasFewTools]
      · rw [readCompilerSetting, if_neg runtime]
        exact hasFewTools_updateCompiler _
    rw [readToolDefinition, if_neg List.not_mem_nil]
    split
    · exact Reported.fold_unchanged HasFewTools step configuration _
    · split
      · exact Reported.fold_unchanged HasFewTools (fun _ _ => hasFewTools_updateLinker _)
          configuration _
      · rfl

end Changes

section Lists

/-- The settings of tools that are lists. -/
inductive ListSetting
  | includeDirs
  | disabledWarnings
  | dependencies
  | libraryDirs
deriving DecidableEq, Repr

namespace ListSetting

/-- The tools whose definitions state a list. -/
def tools : ListSetting → List String
  | includeDirs | disabledWarnings => ["ClCompile"]
  | dependencies | libraryDirs => ["Link", "Lib"]

/-- The name of the elements that state a list. -/
def element : ListSetting → String
  | includeDirs => "AdditionalIncludeDirectories"
  | disabledWarnings => "DisableSpecificWarnings"
  | dependencies => "AdditionalDependencies"
  | libraryDirs => "AdditionalLibraryDirectories"

/-- What is kept of an item. -/
def kept : ListSetting → String → String
  | includeDirs | libraryDirs => Path.normal
  | disabledWarnings => id
  | dependencies => libraryName

/-- The list that a value states, without the items that stand for inherited values. -/
def items (setting : ListSetting) (value : String) : List String :=
  (ownItems value).map setting.kept

/-- The list that a configuration has. -/
def of (setting : ListSetting) (configuration : Configuration) : List String :=
  match setting with
  | includeDirs => configuration.compilers.flatMap fun compiler =>
    compiler.includeDirs.map (·.path)
  | disabledWarnings => configuration.compilers.flatMap (·.options.disabledWarnings)
  | dependencies => configuration.linkers.flatMap (·.dependencies)
  | libraryDirs => configuration.linkers.flatMap (·.libraryDirs)

end ListSetting

/-- The values that groups state for an element of some tools, in order. -/
def statedValues (tools : List String) (name : String) (groups : List Element) : List String :=
  ((toolElements tools groups).filter (·.name = name)).map textOf

/-- The values that groups state for a list. -/
def ListSetting.stated (setting : ListSetting) (groups : List Element) : List String :=
  statedValues setting.tools setting.element groups

variable {γ : Type} {name : String} {tools : List String} {field : Configuration → γ}

/-- Of elements that replace a value as a whole the last one counts. -/
theorem foldl_replaced (read : String → γ) (elements : List Element) (value : γ) :
    elements.foldl (fun value element =>
      if element.name = name then read (textOf element) else value) value =
        ((((elements.filter (·.name = name)).map textOf).getLast?.map read).getD value) := by
  induction elements generalizing value with
  | nil => rfl
  | cons element rest inductionHypothesis =>
    rw [List.foldl_cons, inductionHypothesis, List.filter_cons]
    by_cases named : element.name = name
    · rw [if_pos named, if_pos (by simpa using named), List.map_cons, List.getLast?_cons]
      cases (List.map textOf _).getLast? <;> rfl
    · rw [if_neg named, if_neg (by simpa using named)]

/-- Where elements replace a field, the last of their values counts. -/
theorem ChangedBy.replaced {read : String → γ}
    (changed : ChangedBy field tools fun element value =>
      if element.name = name then read (textOf element) else value)
    (parts : List Element) (configuration : Configuration) :
    field (ElementFormat.settledBy parts configuration) =
      ((statedValues tools name (definitionGroups parts configuration)).getLast?.map read).getD
        (field configuration) := by
  rw [changed.settledBy, foldl_replaced, statedValues]

variable {configuration : Configuration} {read : String → List String}

/-- A configuration that has no tools yet does not get more than one of each. -/
theorem hasFewTools_settledBy (parts : List Element)
    (fresh : configuration.compilers = [] ∧ configuration.linkers = []) :
    HasFewTools (settledBy parts configuration) := by
  have same : HasFewTools (settledBy parts configuration) = HasFewTools configuration := by
    rw [changedBy_hasFewTools.settledBy, toolElements, List.flatMap_eq_nil_iff.mpr]
    · rfl
    · intro group _
      simp
  rw [same, HasFewTools, fresh.1, fresh.2]
  simp

/-- Of the values that are stated for a list of the compiler the last one counts. -/
theorem compilers_settledBy {part : CompilerSettings → List String} (none : part {} = [])
    (each : ∀ compiler element, part (readCompilerElement element.name (textOf element)
      compiler).value = if element.name = name then read (textOf element) else part compiler)
    (parts : List Element) (fresh : configuration.compilers = [] ∧ configuration.linkers = []) :
    (settledBy parts configuration).compilers.flatMap part =
      ((statedValues ["ClCompile"] name (definitionGroups parts configuration)).getLast?.map
        read).getD [] := by
  have initially : part (compilerOf configuration) = [] := by
    rw [compilerOf, fresh.1]
    exact none
  rw [(hasFewTools_settledBy parts fresh).compilers_flatMap none,
    (changedBy_compiler part each).replaced, initially]

/-- Of the values that are stated for a list of the linker the last one counts. -/
theorem linkers_settledBy {part : LinkerSettings → List String} (none : part {} = [])
    (blind : ∀ linker isIncremental, part { linker with isIncremental } = part linker)
    (each : ∀ tool linker element, part (readLinkerElement tool element.name (textOf element)
      linker).value = if element.name = name then read (textOf element) else part linker)
    (parts : List Element) (fresh : configuration.compilers = [] ∧ configuration.linkers = []) :
    (settledBy parts configuration).linkers.flatMap part =
      ((statedValues ["Link", "Lib"] name (definitionGroups parts configuration)).getLast?.map
        read).getD [] := by
  have initially : part (linkerOf configuration) = [] := by
    rw [linkerOf, fresh.2]
    exact none
  rw [(hasFewTools_settledBy parts fresh).linkers_flatMap none,
    (changedBy_linker part blind each).replaced, initially]

/-- Of the lists that are stated for a configuration it gets the last one. -/
theorem ListSetting.of_settledBy (setting : ListSetting) (parts : List Element)
    (fresh : configuration.compilers = [] ∧ configuration.linkers = []) :
    setting.of (ElementFormat.settledBy parts configuration) =
      ((setting.stated (definitionGroups parts configuration)).getLast?.map
        setting.items).getD [] := by
  cases setting with
  | includeDirs =>
    refine compilers_settledBy rfl (fun compiler element => ?_) parts fresh
    generalize textOf element = value
    unfold readCompilerElement
    split <;> simp_all [items, kept, ListSetting.element, Function.comp_def]
  | disabledWarnings =>
    refine compilers_settledBy rfl (fun compiler element => ?_) parts fresh
    generalize textOf element = value
    unfold readCompilerElement
    split <;> simp_all [items, kept, ListSetting.element]
  | dependencies =>
    refine linkers_settledBy rfl (fun _ _ => rfl) (fun tool linker element => ?_) parts fresh
    generalize textOf element = value
    unfold readLinkerElement
    split <;> simp_all [items, kept, ListSetting.element]
  | libraryDirs =>
    refine linkers_settledBy rfl (fun _ _ => rfl) (fun tool linker element => ?_) parts fresh
    generalize textOf element = value
    unfold readLinkerElement
    split <;> simp_all [items, kept, ListSetting.element]

end Lists

end ElementFormat

end ProjectScribe.Reading
