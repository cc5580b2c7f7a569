import ProjectScribe.Proofs.Script.BodyInstructions
import ProjectScribe.Proofs.Script.ReplacedReferences

/-!
# Whether a script finds out the platform

The lines that find out the platform stand between the name of the project and the body of a
script. They are needed if configurations differ in their platforms, or if a text that is
translated for the body refers to the platform. Whether one does is remarked while the body is
written: apart from what is remarked on the target, the remarks on a body are those on the texts
that are translated for it, in order.
-/
namespace ProjectScribe.Script.Source

variable {source : Source} {configuration : Configuration}

section Texts

/-- The remarks on the translations of texts. -/
def remarksOn (source : Source) (texts : List String) : List Remark :=
  texts.flatMap fun text => (translate source.names text).notes

/-- The directories in which a configuration seeks headers, as the project states them. -/
def includeTexts (configuration : Configuration) : List String :=
  configuration.compilers.flatMap fun compiler => compiler.includeDirs.map (·.path)

/-- The texts that are translated for the settings of the directory. -/
def directoryTexts (source : Source) : List String :=
  source.authoritative.toList.flatMap fun configuration =>
    includeTexts configuration ++ configuration.linkers.flatMap (·.libraryDirs)

/-- The paths of all files that are not excluded, in the order of the filters. -/
def sourceTexts (source : Source) : List String :=
  (FilterTree.root :: source.project.filters.walk).flatMap fun place =>
    ((source.project.filters.filesAt place).filter (!·.isExcluded)).map (·.path)

/-- The texts that are translated for the libraries of the target, if it is created. -/
def libraryTexts (source : Source) : List String :=
  if source.creation.value.isSome then
    source.authoritative.toList.flatMap fun configuration =>
      configuration.linkers.flatMap (·.dependencies)
  else []

/-- The texts that are translated for the block of a configuration: the values of its definitions,
its directories and its flags. -/
def configurationTexts (configuration : Configuration) : List String :=
  (distinctDefines configuration).map (·.2) ++ includeTexts configuration ++
    configuration.compilers.flatMap (compileFlags · configuration.optimizesWhole) ++
    configuration.linkers.flatMap (linkFlags · configuration.optimizesWhole)

/-- The texts that are translated for the body of a script. -/
def bodyTexts (source : Source) : List String :=
  source.directoryTexts ++ source.sourceTexts ++ source.libraryTexts ++
    source.authoritative.toList.flatMap includeTexts ++
    source.project.configurations.flatMap configurationTexts

end Texts

section Remarks

theorem remarksOn_append (source : Source) (first second : List String) :
    source.remarksOn (first ++ second) = source.remarksOn first ++ source.remarksOn second :=
  List.flatMap_append

theorem remarksOn_flatMap {α : Type} (source : Source) (list : List α) (texts : α → List String) :
    source.remarksOn (list.flatMap texts) = list.flatMap fun a => source.remarksOn (texts a) :=
  List.flatMap_assoc

theorem notes_directorySettings (source : Source) :
    source.directorySettings.notes = source.remarksOn source.directoryTexts := by
  unfold directorySettings directoryTexts
  cases source.authoritative with
  | none => rfl
  | some configuration =>
    simp [includeDirs, libraryDirs, notes_place, includeTexts, remarksOn]

theorem notes_sources (source : Source) :
    source.sources.notes = source.remarksOn source.sourceTexts := by
  have group : ∀ place, (source.groupSources place).notes = source.remarksOn
      (((source.project.filters.filesAt place).filter (!·.isExcluded)).map (·.path)) := by
    intro place
    unfold groupSources
    rw [Reported.notes_bind]
    split <;> simp [translateAll, remarksOn]
  simp only [sources, sourceTexts, Reported.notes_bind, Reported.notes_forEach,
    Reported.notes_pure, List.append_nil, group, remarksOn_flatMap]

theorem notes_targetSection (source : Source) :
    source.targetSection.notes =
      source.creation.notes ++ source.remarksOn source.libraryTexts := by
  rw [targetSection, Reported.notes_bind, libraryTexts]
  cases source.creation.value with
  | none => rfl
  | some command =>
    unfold linkLibraries
    cases source.authoritative with
    | none => rfl
    | some configuration => simp [dependencies, notes_place, remarksOn]

theorem notes_directoryIncludes (source : Source) : source.directoryIncludes.notes =
    source.remarksOn (source.authoritative.toList.flatMap includeTexts) := by
  unfold directoryIncludes
  cases source.authoritative with
  | none => rfl
  | some configuration => simp [includeDirs, notes_place, includeTexts, remarksOn]

theorem notes_configurationBlock (ofDirectory : Mapping.PlatformTokens) :
    (source.configurationBlock ofDirectory configuration).notes =
      source.remarksOn (configurationTexts configuration) := by
  simp [configurationBlock, notes_defines, includeDirs, notes_place, translateAll, remarksOn,
    configurationTexts, includeTexts, List.flatMap_map, List.append_assoc]

/-- The remarks on a body are those on the texts that are translated for it and, among them, those
on the creation of the target. -/
theorem notes_body (source : Source) : ∃ before behind,
    source.bodyTexts = before ++ behind ∧
      source.body.notes =
        source.remarksOn before ++ source.creation.notes ++ source.remarksOn behind := by
  refine ⟨source.directoryTexts ++ source.sourceTexts, source.libraryTexts ++
    (source.authoritative.toList.flatMap includeTexts ++
      source.project.configurations.flatMap configurationTexts), ?_, ?_⟩
  · simp only [bodyTexts, List.append_assoc]
  · simp only [body, Reported.notes_bind, Reported.notes_pure, Reported.notes_forEach,
      notes_directorySettings, notes_sources, notes_targetSection, notes_directoryIncludes,
      notes_configurationBlock, remarksOn_append, remarksOn_flatMap, List.append_assoc,
      List.append_nil]

/-- It is remarked that a body asks for the platform just if one of its texts does. -/
theorem asksForPlatform_body_iff (source : Source) :
    asksForPlatform source.body.notes = true ↔ ∃ text ∈ source.bodyTexts, AsksForPlatform text := by
  have remarked : ∀ texts, .platformUsed ∈ source.remarksOn texts ↔
      ∃ text ∈ texts, AsksForPlatform text := by
    intro texts
    simp only [remarksOn, List.mem_flatMap, platformUsed_mem_translate]
  have creation : .platformUsed ∉ source.creation.notes := by
    unfold Source.creation
    split
    · simp
    · simp
  obtain ⟨before, behind, texts, notes⟩ := source.notes_body
  rw [asksForPlatform, List.contains_iff_mem, notes, texts]
  simp only [List.mem_append, remarked, creation, or_false, or_and_right, exists_or]

end Remarks

section Platforms

theorem mem_distinct_iff {text : String} {list : List String} :
    text ∈ Project.distinct list ↔ text ∈ list := by
  induction list with
  | nil => simp [Project.distinct]
  | cons first rest inductionHypothesis =>
    by_cases same : text = first
    · simp [Project.distinct, same]
    · simp [Project.distinct, same, inductionHypothesis]

/-- A project is built for more than one platform if two configurations differ in theirs. -/
theorem isMultiPlatform_iff (source : Source) : source.isMultiPlatform = true ↔
    ∃ first ∈ source.project.configurations, ∃ second ∈ source.project.configurations,
      first.platform ≠ second.platform := by
  have several : ∀ list : List String, 1 < (Project.distinct list).length ↔
      ∃ first ∈ list, ∃ second ∈ list, first ≠ second := by
    intro list
    cases list with
    | nil => simp [Project.distinct]
    | cons text rest =>
      have others : 1 < (Project.distinct (text :: rest)).length ↔
          ∃ other ∈ rest, other ≠ text := by
        rw [Project.distinct, List.length_cons, Nat.lt_add_left_iff_pos,
          List.length_pos_iff_exists_mem]
        simp only [List.mem_filter, mem_distinct_iff, decide_eq_true_eq]
      rw [others]
      constructor
      · rintro ⟨other, among, apart⟩
        exact ⟨other, List.mem_cons_of_mem _ among, text, List.mem_cons_self, apart⟩
      · rintro ⟨first, amongFirst, second, amongSecond, apart⟩
        by_cases same : first = text
        · subst same
          exact ⟨second, (List.mem_cons.mp amongSecond).resolve_left apart.symm, apart.symm⟩
        · exact ⟨first, (List.mem_cons.mp amongFirst).resolve_left same, same⟩
  rw [isMultiPlatform, decide_eq_true_eq, Project.platforms, several]
  simp

end Platforms

section Block

/-- The head of a script up to the name of the project. -/
def opening (source : Source) (now : Nat) : List Instruction :=
  source.banner now ++ source.requirements ++ [hook .preProject]

/-- The name of the project, as a script states it. -/
def naming (source : Source) : List Instruction :=
  [.command "project" [source.project.name], .blank]

/-- A script has to find out the platform if configurations differ in theirs or a text that is
translated for its body refers to it. -/
def NeedsPlatform (source : Source) : Prop :=
  (∃ first ∈ source.project.configurations, ∃ second ∈ source.project.configurations,
      first.platform ≠ second.platform) ∨
    ∃ text ∈ source.bodyTexts, AsksForPlatform text

theorem needsPlatform_iff (source : Source) :
    source.NeedsPlatform ↔
      (source.isMultiPlatform || asksForPlatform source.body.notes) = true := by
  rw [Bool.or_eq_true, isMultiPlatform_iff, asksForPlatform_body_iff, NeedsPlatform]

/-- How a script refers to the platform. -/
def platformExpression : String := "$\x7b" ++ platformVariable ++ "\x7d"

/-- Of all that is put for references, only what stands for the platform refers to the platform, and
perhaps the name of the project file. -/
theorem asks_of_standsFor {names : ProjectNames} {name : List Char} (named : IsVariableName name)
    (put : platformExpression.toList <:+: (standsFor names (String.ofList name)).toList) :
    isPlatform (Text.lower (String.ofList name)) = true ∨
      Text.sameLetters "ProjectFileName" (String.ofList name) = true := by
  have table : ∀ known ∈ knownVariables names, known.1 ≠ "ProjectFileName" →
      platformExpression.toList <:+: known.2.toList → isPlatform (Text.lower known.1) = true := by
    simp only [knownVariables, List.forall_mem_cons]
    and_intros
    all_goals first | decide +kernel | exact fun other => absurd rfl other
  unfold standsFor at put
  split at put
  · next known found =>
    have same := List.find?_some found
    by_cases file : known.1 = "ProjectFileName"
    · exact .inr (file ▸ same)
    · rw [← Text.sameLetters_iff.mp same]
      exact .inl (table known (List.mem_of_find?_eq_some found) file put)
  · -- The only dollar sign of a variable of the environment has no brace behind it.
    exfalso
    have outside : '$' ∉ name := fun inside => absurd (named.forall_rest '$' inside) (by decide)
    have written : ("$ENV\x7b" ++ String.ofList name ++ "\x7d").toList =
        '$' :: 'E' :: ("NV\x7b".toList ++ (name ++ ['\x7d'])) := by simp
    have expression : platformExpression.toList =
        '$' :: '\x7b' :: "V2C_BUILD_PLATFORM\x7d".toList := by decide
    rw [written, expression, List.infix_cons_iff] at put
    rcases put with first | later
    · simp at first
    · have inside := later.subset List.mem_cons_self
      simp [outside] at inside

/-- Where the platform is put for a reference in a text that is translated for the body, the script
has to find it out. -/
theorem needsPlatform_of_put {text : String} {name : List Char} (listed : text ∈ source.bodyTexts)
    (reference : .variable name ∈ variablePieces text.toList)
    (put : platformExpression.toList <:+: (standsFor source.names (String.ofList name)).toList) :
    source.NeedsPlatform ∨ Text.sameLetters "ProjectFileName" (String.ofList name) = true := by
  have refers := mem_variablePieces_iff.mp reference
  rcases asks_of_standsFor refers.1 put with platform | file
  · exact .inl (.inr ⟨text, listed, name, refers, platform⟩)
  · exact .inr file

/-- The instructions that find out the platform. -/
def findsPlatform : List Instruction := platformDerivation.map .line

/-- A script consists of its opening, the name of the project, the lines that find out the
platform, if they are needed, and its body. -/
theorem value_script_of_needs (source : Source) (now : Nat) :
    (source.NeedsPlatform → (source.script now).value =
      source.opening now ++ source.naming ++ (findsPlatform ++ [.blank]) ++ source.body.value) ∧
    (¬ source.NeedsPlatform → (source.script now).value =
      source.opening now ++ source.naming ++ source.body.value) := by
  rw [needsPlatform_iff, script, Reported.value_bind, Reported.value_pure, head, platformBlock]
  constructor
  · intro needed
    rw [if_pos needed]
    simp [opening, naming, findsPlatform]
  · intro unneeded
    rw [if_neg unneeded]
    simp [opening, naming]

/-- The only line that the opening has as it is is the marker. -/
theorem line_mem_opening_iff {now : Nat} {text : String} :
    .line text ∈ source.opening now ↔ text = marker := by
  simp [opening, banner, requirements, policies, hook, Instruction.includeFile,
    Instruction.setVariable, Instruction.under, Instruction.openIf?, Instruction.closeIf?]

/-- The conditions of the blocks in the opening. -/
theorem openIf_mem_opening_iff {now : Nat} {condition : String} :
    .openIf condition ∈ source.opening now ↔
      condition ∈ ["POLICY CMP0005", "POLICY CMP0043", "NOT V2C_MASTER_PROJECT_SOURCE_DIR"] := by
  simp [opening, banner, requirements, policies, hook, Instruction.includeFile,
    Instruction.setVariable, Instruction.under, Instruction.openIf?, Instruction.closeIf?]

/-- A body has no lines that are written as they are. -/
theorem line_not_mem_body (source : Source) (text : String) : .line text ∉ source.body.value := by
  intro listed
  have form := source.forms_body _ listed
  generalize written : Instruction.line text = instruction at form
  cases form with
  | _ => exact nomatch written

/-- The conditions by which a script tells platforms apart. -/
def TellsPlatform (condition : String) : Prop :=
  (platformVariable ++ " STREQUAL ").toList <+: condition.toList

instance (condition : String) : Decidable (TellsPlatform condition) :=
  inferInstanceAs (Decidable (_ <+: _))

/-- No block in the opening or the naming tells platforms apart. -/
theorem not_tellsPlatform_of_mem_front {now : Nat} {condition : String}
    (listed : .openIf condition ∈ source.opening now ++ source.naming) :
    ¬ TellsPlatform condition := by
  have other : ∀ condition ∈
      ["POLICY CMP0005", "POLICY CMP0043", "NOT V2C_MASTER_PROJECT_SOURCE_DIR"],
      ¬ (platformVariable ++ " STREQUAL ").toList <+: condition.toList := by decide
  rcases List.mem_append.mp listed with inOpening | inNaming
  · exact other condition (openIf_mem_opening_iff.mp inOpening)
  · simp [naming] at inNaming

/-- A block of a body that tells platforms apart is one for a configuration, where there are
several platforms, or one for a platform that a table names. -/
theorem openIf_mem_body {condition : String} (tells : TellsPlatform condition)
    (listed : .openIf condition ∈ source.body.value) :
    source.isMultiPlatform = true ∨ source.tables.Names condition := by
  have form := source.forms_body _ listed
  generalize written : Instruction.openIf condition = instruction at form
  cases form with
  | ofPlatform named =>
    obtain rfl := Instruction.openIf.inj written
    exact .inr named
  | ofConfiguration guarded =>
    unfold configurationCondition at guarded
    split at guarded
    · next several => exact .inl several
    · cases guarded
  | ofTarget =>
    obtain rfl := Instruction.openIf.inj written
    simp [TellsPlatform, platformVariable, Context.existence] at tells
  | ofCompiler =>
    obtain rfl := Instruction.openIf.inj written
    exact absurd tells (by simp [TellsPlatform, platformVariable])
  | _ => cases written

/-- Where nothing needs the lines that find out the platform, configurations do not differ in their
platforms. -/
theorem isMultiPlatform_of_unneeded (unneeded : ¬ source.NeedsPlatform) :
    source.isMultiPlatform = false := by
  rw [needsPlatform_iff, Bool.or_eq_true] at unneeded
  exact eq_false_of_ne_true fun several => unneeded (.inl several)

/-- Where the lines that find out the platform stand before the body, they stand before every block
that tells platforms apart. -/
theorem findsPlatform_before {now : Nat} {condition : String} {before after : List Instruction}
    (split : source.opening now ++ source.naming ++ (findsPlatform ++ [.blank]) ++
      source.body.value = before ++ .openIf condition :: after)
    (tells : TellsPlatform condition) : findsPlatform <:+: before := by
  rw [List.append_eq_append_iff] at split
  rcases split with ⟨between, rfl, -⟩ | ⟨between, front, rest⟩
  · exact ⟨source.opening now ++ source.naming, [.blank] ++ between, by simp⟩
  · cases between with
    | nil =>
      rw [List.append_nil] at front
      exact front ▸ ⟨source.opening now ++ source.naming, [.blank], by simp⟩
    | cons first between =>
      -- The block would stand before the body, where no block tells platforms apart.
      obtain ⟨rfl, -⟩ := List.cons.inj rest
      have listed : .openIf condition ∈ source.opening now ++ source.naming ++
          (findsPlatform ++ [.blank]) := by
        rw [front]
        simp
      rcases List.mem_append.mp listed with inFront | inBlock
      · exact absurd tells (not_tellsPlatform_of_mem_front inFront)
      · simp [findsPlatform] at inBlock

/-- Where nothing needs them, only a table can name a platform that is told apart. -/
theorem names_of_unneeded {now : Nat} {condition : String} (unneeded : ¬ source.NeedsPlatform)
    (listed : .openIf condition ∈ source.opening now ++ source.naming ++ source.body.value)
    (tells : TellsPlatform condition) : source.tables.Names condition := by
  rcases List.mem_append.mp listed with inFront | inBody
  · exact absurd tells (not_tellsPlatform_of_mem_front inFront)
  · apply (openIf_mem_body tells inBody).resolve_left
    rw [isMultiPlatform_of_unneeded unneeded]
    exact Bool.false_ne_true

/-- A script has the lines that find out the platform just if they are needed: if configurations
differ in their platforms, or a text that is translated for the body refers to the platform. They
stand once, between the name of the project and the whole body, and no line of them stands
anywhere else. So they come before everything that is translated: a text for the body is translated
by putting something for each of its references, and they are needed wherever the platform is put,
unless it is the name of the project file that reads so. They also come before every block that
tells platforms apart; only where they are not needed at all, and so no configuration has such a
block, a platform that a table names may be such a condition. -/
theorem platformBlock_where_needed (source : Source) (now : Nat) :
    let written := (source.script now).value
    (source.NeedsPlatform → written =
      source.opening now ++ source.naming ++ (findsPlatform ++ [.blank]) ++ source.body.value) ∧
    (¬ source.NeedsPlatform → written = source.opening now ++ source.naming ++ source.body.value ∧
      ∀ configuration, source.configurationCondition configuration = none) ∧
    (∀ text ∈ platformDerivation,
      .line text ∉ source.opening now ∧ .line text ∉ source.body.value) ∧
    (∀ text ∈ source.bodyTexts, ∃ pieces : List Piece,
      pieces.flatMap Piece.written = text.toList ∧
      (translate source.names text).value.toList = pieces.flatMap (Piece.inScript source.names) ∧
      ∀ name, .variable name ∈ pieces →
        platformExpression.toList <:+: (standsFor source.names (String.ofList name)).toList →
        source.NeedsPlatform ∨ Text.sameLetters "ProjectFileName" (String.ofList name) = true) ∧
    ∀ before condition after, written = before ++ .openIf condition :: after →
      TellsPlatform condition →
        findsPlatform <:+: before ∨ ¬ source.NeedsPlatform ∧ source.tables.Names condition := by
  intro written
  obtain ⟨needed, unneeded⟩ := source.value_script_of_needs now
  refine ⟨needed, fun free => ⟨unneeded free, fun configuration => ?_⟩, fun text derives => ?_,
    fun text listed => ?_, ?_⟩
  · rw [configurationCondition, isMultiPlatform_of_unneeded free]
    rfl
  · refine ⟨fun listed => ?_, source.line_not_mem_body text⟩
    rw [line_mem_opening_iff.mp listed] at derives
    exact absurd derives (by decide +kernel)
  · exact ⟨variablePieces text.toList, (cut_variablePieces text.toList).flatMap_written,
      toList_translate text, fun name reference put => needsPlatform_of_put listed reference put⟩
  · intro before condition after split tells
    by_cases needs : source.NeedsPlatform
    · rw [show written = _ from needed needs] at split
      exact .inl (findsPlatform_before split tells)
    · have listed : .openIf condition ∈ written := by simp [split]
      rw [show written = _ from unneeded needs] at listed
      exact .inr ⟨needs, names_of_unneeded needs listed tells⟩

/-- A source with a table that places a directory on a platform by the variable of platforms. -/
def onOnePlatform : Source where
  project := {
    configurations := [{ buildType := "D", platform := "W",
                         compilers := [{ includeDirs := [{ path := "a" }] }] }] }
  tables := { includeDirs :=
    ⟨[⟨⟨"a", [⟨"V2C_BUILD_PLATFORM STREQUAL x64", none⟩]⟩, fun _ => false⟩]⟩ }
  settings := {}
  fileName := "p.vcproj"

/-- A block for a platform that a table names may tell platforms apart in a script that does not
find out its own. -/
theorem onOnePlatform_unknown :
    ¬ ∀ before condition after,
      (onOnePlatform.script 0).value = before ++ .openIf condition :: after →
        TellsPlatform condition → findsPlatform <:+: before := by
  intro preceded
  have unneeded : ¬ onOnePlatform.NeedsPlatform := by
    rw [needsPlatform_iff]
    decide +kernel
  have written := (onOnePlatform.value_script_of_needs 0).2 unneeded
  have guard : .openIf "V2C_BUILD_PLATFORM STREQUAL x64" ∈ onOnePlatform.body.value := by
    decide +kernel
  have listed : .openIf "V2C_BUILD_PLATFORM STREQUAL x64" ∈ (onOnePlatform.script 0).value := by
    rw [written]
    exact List.mem_append_right _ guard
  obtain ⟨before, after, split⟩ := List.append_of_mem listed
  have found := preceded before _ after split (by decide)
  have first : .line "if(NOT V2C_BUILD_PLATFORM)" ∈ (onOnePlatform.script 0).value := by
    rw [split]
    exact List.mem_append_left _ (found.subset (by decide))
  rw [written, List.mem_append, List.mem_append] at first
  rcases first with (inOpening | inNaming) | inBody
  · exact absurd (line_mem_opening_iff.mp inOpening) (by decide +kernel)
  · simp [naming] at inNaming
  · exact onOnePlatform.line_not_mem_body _ inBody

end Block

end ProjectScribe.Script.Source
