import ProjectScribe.Proofs.Reading.Conditions

/-!
# Groups of settings

What is read for a configuration is what the groups of settings behind its declaration make of it,
one after the other, and a group makes something of it only if its condition selects it. So groups
matter to the configurations that they apply to and to no others: a group that applies to all can
be replaced by a copy for each, and two groups that apply to no common one can change places.
-/
namespace ProjectScribe.Reading.ElementFormat

open Xml (Attribute Element)

section Labels

/-- The build type and the platform of a configuration. -/
def labelOf (configuration : Configuration) : String × String :=
  (configuration.buildType, configuration.platform)

theorem labelOf_updateCompiler (configuration : Configuration)
    (change : CompilerSettings → Reading CompilerSettings) :
    labelOf (updateCompiler configuration change).value = labelOf configuration := by
  rw [updateCompiler]
  split <;> rfl

theorem labelOf_updateLinker (configuration : Configuration)
    (change : LinkerSettings → Reading LinkerSettings) :
    labelOf (updateLinker configuration change).value = labelOf configuration := by
  rw [updateLinker]
  split <;> rfl

/-- Elements keep the label of a configuration if each of them does. -/
theorem labelOf_fold {step : Configuration → Element → Reading Configuration}
    (keeps : ∀ configuration element,
      labelOf (step configuration element).value = labelOf configuration)
    (configuration : Configuration) (elements : List Element) :
    labelOf (Reported.fold step configuration elements).value = labelOf configuration :=
  Reported.fold_keeps (motive := fun settled => labelOf settled = labelOf configuration)
    (fun settled element _ same => (keeps settled element).trans same) configuration rfl

theorem labelOf_readConfigurationProperty (configuration : Configuration) (element : Element) :
    labelOf (readConfigurationProperty configuration element).value = labelOf configuration := by
  rw [readConfigurationProperty]
  split <;> simp [labelOf]

theorem labelOf_readGeneralProperty (configuration : Configuration) (element : Element) :
    labelOf (readGeneralProperty configuration element).value = labelOf configuration := by
  rw [readGeneralProperty]
  split
  · exact labelOf_updateLinker configuration _
  · simp

theorem labelOf_readCompilerSetting (configuration : Configuration) (element : Element) :
    labelOf (readCompilerSetting configuration element).value = labelOf configuration := by
  rw [readCompilerSetting]
  split
  · simp [labelOf]
  · exact labelOf_updateCompiler configuration _

theorem labelOf_readToolDefinition (configuration : Configuration) (tool : Element) :
    labelOf (readToolDefinition configuration tool).value = labelOf configuration := by
  rw [readToolDefinition]
  split
  · exact labelOf_fold labelOf_readCompilerSetting configuration _
  · split
    · exact labelOf_fold (fun configuration _ => labelOf_updateLinker configuration _)
        configuration _
    · simp

end Labels

section Groups

variable {configuration other : Configuration} {group : Element} {groups : List Element}

/-- Whether an element is a group of settings. -/
def IsGroup (element : Element) : Prop :=
  element.name = "PropertyGroup" ∨ element.name = "ItemDefinitionGroup"

/-- Whether the condition of a group selects a configuration. -/
def applies (group : Element) (configuration : Configuration) : Bool :=
  (selected (group.value? "Condition") []).value configuration

/-- What an element of a project file makes of a configuration that it applies to. -/
def settle (part : Element) (configuration : Configuration) : Configuration :=
  if part.name = "PropertyGroup" then
    if part.value? "Label" = some "Globals" then configuration
    else if part.value? "Label" = some "Configuration" then
      (Reported.fold readConfigurationProperty configuration part.children).value
    else if part.value? "Label" = some "UserMacros" then configuration
    else (Reported.fold readGeneralProperty configuration part.children).value
  else if part.name = "ItemDefinitionGroup" then
    (Reported.fold readToolDefinition configuration part.children).value
  else configuration

/-- What an element of a project file makes of a configuration, whether or not it applies. -/
def settled (part : Element) (configuration : Configuration) : Configuration :=
  if applies part configuration then settle part configuration else configuration

/-- What elements of a project file make of a configuration, one after the other. -/
def settledBy (parts : List Element) (configuration : Configuration) : Configuration :=
  parts.foldl (fun configuration part => settled part configuration) configuration

theorem labelOf_settle (part : Element) (configuration : Configuration) :
    labelOf (settle part configuration) = labelOf configuration := by
  unfold settle
  split
  · split
    · rfl
    · split
      · exact labelOf_fold labelOf_readConfigurationProperty configuration _
      · split
        · rfl
        · exact labelOf_fold labelOf_readGeneralProperty configuration _
  · split
    · exact labelOf_fold labelOf_readToolDefinition configuration _
    · rfl

theorem labelOf_settled (part : Element) (configuration : Configuration) :
    labelOf (settled part configuration) = labelOf configuration := by
  unfold settled
  split
  · exact labelOf_settle part configuration
  · rfl

theorem labelOf_settledBy (parts : List Element) (configuration : Configuration) :
    labelOf (settledBy parts configuration) = labelOf configuration := by
  induction parts generalizing configuration with
  | nil => rfl
  | cons part rest inductionHypothesis =>
    exact (inductionHypothesis _).trans (labelOf_settled part configuration)

/-- Which configurations a condition selects does not depend on what else is declared. -/
theorem value_selected (condition : Option String) (configurations : List Configuration) :
    (selected condition configurations).value = (selected condition []).value := by
  cases condition with
  | none => rfl
  | some condition =>
    rw [selected, selected]
    split <;> rfl

/-- Whether a group applies to a configuration is decided by its label. -/
theorem applies_congr (same : labelOf configuration = labelOf other) :
    applies group configuration = applies group other := by
  obtain ⟨buildType, platform⟩ := Prod.mk.inj same
  unfold applies selected
  split
  · rfl
  · split
    · rfl
    · simp [Selection.selects, buildType, platform]

/-- Groups that do not apply to a configuration leave it as it is. -/
theorem settledBy_of_not_applies (apart : ∀ group ∈ groups, applies group configuration = false) :
    settledBy groups configuration = configuration := by
  induction groups with
  | nil => rfl
  | cons group rest inductionHypothesis =>
    obtain ⟨here, further⟩ := List.forall_mem_cons.mp apart
    have kept : settled group configuration = configuration := by
      rw [settled, here, if_neg Bool.false_ne_true]
    rw [settledBy, List.foldl_cons, kept]
    exact inductionHypothesis further

/-- Groups that do not both apply to a configuration make the same of it in either order. -/
theorem settledBy_swap {first second : Element}
    (apart : applies first configuration = false ∨ applies second configuration = false) :
    settledBy [second, first] configuration = settledBy [first, second] configuration := by
  have still : ∀ group part, applies group (settled part configuration) =
      applies group configuration := fun _ part => applies_congr (labelOf_settled part _)
  simp only [settledBy, List.foldl_cons, List.foldl_nil]
  rcases apart with unselected | unselected
  · have keeps : settled first configuration = configuration := by
      rw [settled, unselected, if_neg Bool.false_ne_true]
    rw [keeps, settled, still, unselected, if_neg Bool.false_ne_true]
  · have keeps : settled second configuration = configuration := by
      rw [settled, unselected, if_neg Bool.false_ne_true]
    rw [keeps, settled.eq_def second, still, unselected, if_neg Bool.false_ne_true]

end Groups

section Parts

variable {parts groups : List Element}

/-- The configurations that an element of a project file declares. -/
def declarations (part : Element) : List Configuration :=
  if part.name = "ItemGroup" ∧ part.value? "Label" = some "ProjectConfigurations" then
    (part.children.filter (·.name = "ProjectConfiguration")).map fun element =>
      (readDeclaration element).value
  else []

/-- The configurations that elements of a project file declare, each as the elements behind its
declaration leave it. -/
def configurationsFrom : List Element → List Configuration
  | [] => []
  | part :: rest => (declarations part).map (settledBy rest) ++ configurationsFrom rest

theorem configurations_addDeclarations (project : Project) (elements : List Element) :
    (Reported.fold addDeclaration project elements).value.configurations =
      project.configurations ++ (elements.filter (·.name = "ProjectConfiguration")).map
        fun element => (readDeclaration element).value := by
  induction elements generalizing project with
  | nil => exact (List.append_nil _).symm
  | cons element rest inductionHypothesis =>
    rw [Reported.fold, Reported.value_bind, inductionHypothesis, addDeclaration]
    by_cases declares : element.name = "ProjectConfiguration" <;> simp [declares]

theorem configurations_readGlobals (project : Project) (elements : List Element) :
    (Reported.fold readGlobal project elements).value.configurations = project.configurations := by
  have kept : ∀ project element,
      (readGlobal project element).value.configurations = project.configurations := by
    intro project element
    rw [readGlobal]
    split <;> rfl
  exact Reported.fold_keeps
    (motive := fun read : Project => read.configurations = project.configurations)
    (fun read element _ same => (kept read element).trans same) project rfl

/-- A step for the selected configurations settles each one by itself. -/
theorem configurations_forSelected {part : Element} {step : Configuration → Reading Configuration}
    (steps : ∀ configuration, (step configuration).value = settle part configuration)
    (project : Project) :
    (forSelected (part.value? "Condition") step project).value.configurations =
      project.configurations.map (settled part) := by
  simp only [forSelected, Reported.value_bind, Reported.value_pure, Reported.value_forEach,
    value_selected _ project.configurations]
  refine List.map_congr_left fun configuration _ => ?_
  rw [settled, applies]
  split
  · exact steps configuration
  · rfl

/-- What makes nothing of configurations leaves them as they are. -/
theorem map_settled_eq_self {part : Element}
    (kept : ∀ configuration, settle part configuration = configuration)
    (configurations : List Configuration) :
    configurations.map (settled part) = configurations := by
  refine (List.map_congr_left fun configuration _ => ?_).trans (List.map_id _)
  rw [settled, kept, ite_self, id]

/-- An element of a project file changes each configuration by itself, and adds those that it
declares. -/
theorem configurations_readProjectPart (state : Project × List Item) (part : Element) :
    (readProjectPart state part).value.1.configurations =
      state.1.configurations.map (settled part) ++ declarations part := by
  obtain ⟨project, known⟩ := state
  have undeclared : part.name ≠ "ItemGroup" → declarations part = [] := fun other =>
    if_neg fun declares => other declares.1
  unfold readProjectPart
  dsimp only
  split
  · next isItems =>
    rw [map_settled_eq_self fun configuration => by simp [settle, isItems]]
    split
    · next declares =>
      rw [declarations, if_pos ⟨isItems, declares⟩]
      exact configurations_addDeclarations project part.children
    · next other =>
      rw [declarations, if_neg fun declares => other declares.2, List.append_nil]
      rfl
  · next notItems =>
    rw [undeclared notItems, List.append_nil]
    split
    · next isProperties =>
      split
      · next isGlobals =>
        rw [map_settled_eq_self fun configuration => by simp [settle, isProperties, isGlobals]]
        exact configurations_readGlobals project part.children
      · next notGlobals =>
        split
        · next isConfiguration =>
          refine configurations_forSelected (fun configuration => ?_) project
          simp [settle, isProperties, isConfiguration]
        · next notConfiguration =>
          split
          · next isMacros =>
            rw [map_settled_eq_self fun configuration => by simp [settle, isProperties, isMacros]]
            rfl
          · next notMacros =>
            refine configurations_forSelected (fun configuration => ?_) project
            rw [settle, if_pos isProperties, if_neg notGlobals, if_neg notConfiguration,
              if_neg notMacros]
    · next notProperties =>
      split
      · next isDefinitions =>
        refine configurations_forSelected (fun configuration => ?_) project
        rw [settle, if_neg notProperties, if_pos isDefinitions]
      · next notDefinitions =>
        rw [map_settled_eq_self fun configuration => by
          rw [settle, if_neg notProperties, if_neg notDefinitions]]
        rfl

/-- The elements of a project file change each configuration by itself, and add those that they
declare. -/
theorem configurations_readProjectParts (state : Project × List Item) (parts : List Element) :
    (Reported.fold readProjectPart state parts).value.1.configurations =
      state.1.configurations.map (settledBy parts) ++ configurationsFrom parts := by
  induction parts generalizing state with
  | nil =>
    have same : settledBy [] = id := rfl
    simp [Reported.fold, same, configurationsFrom]
  | cons part rest inductionHypothesis =>
    rw [Reported.fold, Reported.value_bind, inductionHypothesis, configurations_readProjectPart,
      List.map_append, List.map_map, configurationsFrom, List.append_assoc]
    rfl

/-- The configurations that are read from a project file. -/
def configurationsOf (document : Element) (companion : Option Element) (fallback : String) :
    List Configuration :=
  (readProjects document companion fallback).value.flatMap (·.configurations)

/-- Only the elements of the project itself decide which configurations are read. -/
theorem configurationsOf_eq (document : Element) (companion : Option Element) (fallback : String) :
    configurationsOf document companion fallback =
      if document.name = "Project" then configurationsFrom document.children else [] := by
  unfold configurationsOf readProjects projectElement?
  split
  · next element found =>
    split at found
    · next isProject =>
      obtain rfl := Option.some.inj found
      have read := configurations_readProjectParts ({ dialect := some .vcxproj }, [])
        document.children
      rw [List.map_nil, List.nil_append] at read
      rw [if_pos isProject, ← read]
      simp [finish, Project.markBuildUnits]
    · cases found
  · next missing =>
    split at missing
    · cases missing
    · next other => simp [other]

/-- Further elements change the configurations that were declared before them and add their own. -/
theorem configurationsFrom_append (first second : List Element) :
    configurationsFrom (first ++ second) =
      (configurationsFrom first).map (settledBy second) ++ configurationsFrom second := by
  induction first with
  | nil => rfl
  | cons part rest inductionHypothesis =>
    have steps : settledBy (rest ++ second) = settledBy second ∘ settledBy rest := by
      funext configuration
      exact List.foldl_append
    rw [List.cons_append, configurationsFrom, configurationsFrom, inductionHypothesis,
      List.map_append, List.map_map, steps, List.append_assoc]

/-- Groups of settings declare nothing. -/
theorem configurationsFrom_groups (areGroups : ∀ group ∈ groups, IsGroup group) :
    configurationsFrom groups = [] := by
  induction groups with
  | nil => rfl
  | cons group rest inductionHypothesis =>
    obtain ⟨isGroup, further⟩ := List.forall_mem_cons.mp areGroups
    have undeclared : declarations group = [] := by
      rcases isGroup with named | named <;> simp [declarations, named]
    rw [configurationsFrom, undeclared, inductionHypothesis further]
    rfl

/-- The labels that the elements of a project file declare, in order. -/
def declaredLabels (parts : List Element) : List (String × String) :=
  (parts.flatMap declarations).map labelOf

/-- The configurations that are read have the declared labels. -/
theorem map_labelOf_configurationsFrom (parts : List Element) :
    (configurationsFrom parts).map labelOf = declaredLabels parts := by
  induction parts with
  | nil => rfl
  | cons part rest inductionHypothesis =>
    rw [configurationsFrom, List.map_append, List.map_map, inductionHypothesis, declaredLabels,
      declaredLabels, List.flatMap_cons, List.map_append]
    congr 1
    exact List.map_congr_left fun configuration _ => labelOf_settledBy rest configuration

end Parts

section Copies

variable {configuration : Configuration} {group : Element}

/-- A group under a condition. -/
def conditioned (condition : String) (group : Element) : Element :=
  .mk group.name (group.attributes ++ [⟨"Condition", condition⟩]) group.text group.children

/-- The condition for a label selects the configurations with this label. -/
theorem selects_conditionFor_iff {label : String × String} (askable : IsAskable label) :
    (selected (some (conditionFor label)) []).value configuration = true ↔
      labelOf configuration = label := by
  rw [selected, ofCondition?_conditionFor askable]
  simp [Selection.selects, labelOf, Prod.ext_iff]

/-- A group without a condition applies to every configuration. -/
theorem applies_of_unconditional (unconditional : group.value? "Condition" = none) :
    applies group configuration = true := by
  rw [applies, unconditional]
  rfl

/-- A group under a condition applies where the condition selects, if it had none before. -/
theorem applies_conditioned (condition : String) (unconditional : group.value? "Condition" = none) :
    applies (conditioned condition group) configuration =
      (selected (some condition) []).value configuration := by
  have asked : (conditioned condition group).value? "Condition" = some condition := by
    rw [Element.value?, Option.map_eq_none_iff] at unconditional
    rw [Element.value?, conditioned, Element.attributes, List.find?_append, unconditional]
    rfl
  rw [applies, asked]

/-- A group makes the same of a configuration under a condition. -/
theorem settle_conditioned (condition : String) :
    settle (conditioned condition group) configuration = settle group configuration := by
  have label : (conditioned condition group).value? "Label" = group.value? "Label" := by
    simp [Element.value?, conditioned, Element.attributes, List.find?_append]
  have name : (conditioned condition group).name = group.name := rfl
  have children : (conditioned condition group).children = group.children := rfl
  rw [settle, settle, label, name, children]

/-- Copies of a group for different labels settle a configuration once, if one of them is for its
label. -/
theorem settledBy_copies (configuration : Configuration) {labels : List (String × String)}
    (unconditional : group.value? "Condition" = none)
    (askable : ∀ label ∈ labels, IsAskable label) (distinct : labels.Nodup) :
    settledBy (labels.map fun label => conditioned (conditionFor label) group) configuration =
      if labelOf configuration ∈ labels then settle group configuration else configuration := by
  have selects : ∀ label ∈ labels, ∀ configuration,
      applies (conditioned (conditionFor label) group) configuration = true ↔
        labelOf configuration = label := by
    intro label listed configuration
    rw [applies_conditioned _ unconditional]
    exact selects_conditionFor_iff (askable label listed)
  induction labels generalizing configuration with
  | nil => rfl
  | cons label rest inductionHypothesis =>
    obtain ⟨fresh, distinctRest⟩ := List.nodup_cons.mp distinct
    have further := fun configuration => inductionHypothesis configuration
      (fun other listed => askable other (List.mem_cons_of_mem _ listed)) distinctRest
      fun other listed => selects other (List.mem_cons_of_mem _ listed)
    rw [List.map_cons, settledBy, List.foldl_cons, settled, settle_conditioned]
    by_cases here : labelOf configuration = label
    · -- No copy behind the one for the label applies to what this one leaves.
      have gone : labelOf (settle group configuration) ∉ rest := by
        rw [labelOf_settle, here]
        exact fresh
      rw [if_pos ((selects label List.mem_cons_self configuration).mpr here),
        if_pos (here ▸ List.mem_cons_self)]
      exact (further _).trans (if_neg gone)
    · rw [if_neg (mt (selects label List.mem_cons_self configuration).mp here)]
      refine (further _).trans (if_congr ?_ rfl rfl)
      simp [here]

end Copies

section Isolation

variable {before after old new : List Element}

/-- Between other elements, groups of settings matter by what they make of the configurations that
are declared before them. -/
theorem configurationsFrom_between {groups : List Element}
    (areGroups : ∀ group ∈ groups, IsGroup group) :
    configurationsFrom (before ++ groups ++ after) =
      (configurationsFrom before).map (fun configuration =>
        settledBy after (settledBy groups configuration)) ++ configurationsFrom after := by
  rw [configurationsFrom_append, configurationsFrom_append, configurationsFrom_groups areGroups,
    List.append_nil, List.map_map]
  rfl

/-- Groups of settings may be replaced by others that make the same of all configurations that are
declared before them. -/
theorem configurationsFrom_congr (oldGroups : ∀ group ∈ old, IsGroup group)
    (newGroups : ∀ group ∈ new, IsGroup group)
    (same : ∀ configuration ∈ configurationsFrom before,
      settledBy new configuration = settledBy old configuration) :
    configurationsFrom (before ++ new ++ after) = configurationsFrom (before ++ old ++ after) := by
  rw [configurationsFrom_between oldGroups, configurationsFrom_between newGroups]
  congr 1
  exact List.map_congr_left fun configuration listed => congrArg _ (same configuration listed)

/-- Where neither the old nor the new groups apply to a configuration, it does not matter whether
the old ones are replaced by the new ones. -/
theorem configurationsFrom_place {place : Nat} {configuration : Configuration}
    (oldGroups : ∀ group ∈ old, IsGroup group) (newGroups : ∀ group ∈ new, IsGroup group)
    (read : (configurationsFrom (before ++ old ++ after))[place]? = some configuration)
    (apart : ∀ group ∈ old ++ new, applies group configuration = false) :
    (configurationsFrom (before ++ new ++ after))[place]? = some configuration := by
  obtain ⟨oldApart, newApart⟩ := List.forall_mem_append.mp apart
  rw [configurationsFrom_between oldGroups] at read
  rw [configurationsFrom_between newGroups]
  rcases Nat.lt_or_ge place (configurationsFrom before).length with early | late
  · rw [List.getElem?_append_left (by simpa using early), List.getElem?_map,
      List.getElem?_eq_getElem early] at read ⊢
    rw [Option.map_some] at read ⊢
    -- What is read has the label of what was declared, so the groups do not apply to that either.
    obtain rfl := Option.some.inj read
    have labels := fun groups => (labelOf_settledBy after (settledBy groups
      (configurationsFrom before)[place])).trans (labelOf_settledBy groups _)
    have oldLeft := settledBy_of_not_applies fun group listed =>
      (applies_congr (labels old)).symm.trans (oldApart group listed)
    have newLeft := settledBy_of_not_applies fun group listed =>
      (applies_congr (labels old)).symm.trans (newApart group listed)
    rw [oldLeft, newLeft]
  · rw [List.getElem?_append_right (by simpa using late), List.length_map] at read ⊢
    exact read

/-- Groups of settings are isolated by their conditions. Groups that apply to a configuration
neither before nor after a change of the document do not matter to what is read for it. A group
without a condition may be replaced by a copy for each declared label, under the condition for this
label. And of two groups that stand next to each other and apply to no common configuration it does
not matter which stands first. -/
theorem settings_isolated (name text : String) (attributes : List Attribute)
    (before after : List Element) (companion : Option Element) (fallback : String) :
    let read := fun groups => configurationsOf
      (.mk name attributes text (before ++ groups ++ after)) companion fallback
    (∀ old new, (∀ group ∈ old ++ new, IsGroup group) →
      ∀ (place : Nat) (configuration : Configuration), (read old)[place]? = some configuration →
        (∀ group ∈ old ++ new, applies group configuration = false) →
          (read new)[place]? = some configuration) ∧
    (∀ group, IsGroup group → group.value? "Condition" = none →
      ∀ labels : List (String × String), labels.Perm (declaredLabels (before ++ after)) →
        labels.Nodup → (∀ label ∈ labels, IsAskable label) →
          read (labels.map fun label => conditioned (conditionFor label) group) = read [group]) ∧
    (∀ first second, IsGroup first → IsGroup second →
      (∀ configuration ∈ read [first, second],
        applies first configuration = false ∨ applies second configuration = false) →
          read [second, first] = read [first, second]) := by
  intro read
  have readFrom : ∀ groups, read groups =
      if name = "Project" then configurationsFrom (before ++ groups ++ after) else [] :=
    fun groups => configurationsOf_eq _ companion fallback
  by_cases isProject : name = "Project"
  · simp only [if_pos isProject] at readFrom
    refine ⟨?_, ?_, ?_⟩
    · intro old new areGroups place configuration found apart
      obtain ⟨oldGroups, newGroups⟩ := List.forall_mem_append.mp areGroups
      rw [readFrom] at found ⊢
      exact configurationsFrom_place oldGroups newGroups found apart
    · intro group isGroup unconditional labels declared distinct askable
      rw [readFrom, readFrom]
      refine configurationsFrom_congr (by simpa using isGroup) ?_ fun configuration listed => ?_
      · exact List.forall_mem_map.mpr fun label _ => isGroup
      · have among : labelOf configuration ∈ labels := by
          rw [declared.mem_iff, declaredLabels, List.flatMap_append, List.map_append]
          refine List.mem_append_left _ ?_
          rw [← declaredLabels, ← map_labelOf_configurationsFrom]
          exact List.mem_map_of_mem listed
        rw [settledBy_copies configuration unconditional askable distinct, if_pos among]
        exact (if_pos (applies_of_unconditional unconditional)).symm
    · intro first second firstGroup secondGroup apart
      have areGroups : ∀ group ∈ [first, second], IsGroup group := by
        simpa using ⟨firstGroup, secondGroup⟩
      rw [readFrom] at apart
      rw [readFrom, readFrom]
      refine configurationsFrom_congr areGroups (by simpa using ⟨secondGroup, firstGroup⟩)
        fun configuration listed => settledBy_swap ?_
      have label := (labelOf_settledBy after (settledBy [first, second] configuration)).trans
        (labelOf_settledBy [first, second] configuration)
      have never := apart (settledBy after (settledBy [first, second] configuration)) (by
        rw [configurationsFrom_between areGroups]
        exact List.mem_append_left _ (List.mem_map_of_mem listed))
      rwa [applies_congr label, applies_congr label] at never
  · simp only [if_neg isProject] at readFrom
    simp [readFrom]

/-- A group that declares two build types for one platform. -/
def twoTypes : Element :=
  .mk "ItemGroup" [⟨"Label", "ProjectConfigurations"⟩] "" <|
    ["Debug|x64", "Release|x64"].map fun name =>
      .mk "ProjectConfiguration" [⟨"Include", name⟩] "" []

/-- A group that sets the warning level. -/
def warning (level : String) : Element :=
  .mk "ItemDefinitionGroup" [] "" [.mk "ClCompile" [] "" [.mk "WarningLevel" [] level []]]

/-- Warning levels for two build types are isolated from each other. -/
theorem settings_isolated_twoTypes :
    let read := fun groups =>
      configurationsOf (.mk "Project" [] "" ([twoTypes] ++ groups ++ [])) none "twoTypes"
    let debug := conditioned (conditionFor ("Debug", "x64"))
    let release := conditioned (conditionFor ("Release", "x64"))
    (read [debug (warning "Level4")])[1]? = some { buildType := "Release", platform := "x64" } ∧
      (read [])[1]? = some { buildType := "Release", platform := "x64" } ∧
      read [debug (warning "Level3"), release (warning "Level3")] = read [warning "Level3"] ∧
      read [release (warning "Level3"), debug (warning "Level4")] =
        read [debug (warning "Level4"), release (warning "Level3")] := by
  intro read debug release
  obtain ⟨kept, copied, swapped⟩ :=
    settings_isolated "Project" "" [] [twoTypes] [] none "twoTypes"
  have found : (read [debug (warning "Level4")])[1]? =
      some { buildType := "Release", platform := "x64" } := by decide
  have isGroup : ∀ group ∈ [debug (warning "Level4")] ++ [], IsGroup group := by
    simpa using .inr rfl
  refine ⟨found, kept [debug (warning "Level4")] [] isGroup 1 _ found (by decide), ?_, ?_⟩
  · refine copied (warning "Level3") (.inr rfl) rfl [("Debug", "x64"), ("Release", "x64")]
      (by decide) (by decide) ?_
    have platform : IsLabel "x64" := by decide
    exact List.forall_mem_cons.mpr ⟨.of_isLabel (by decide) platform,
      List.forall_mem_singleton.mpr (.of_isLabel (by decide) platform)⟩
  · exact swapped _ _ (.inr rfl) (.inr rfl) (by decide)

end Isolation

end ProjectScribe.Reading.ElementFormat
