import ProjectScribe.Proofs.Script.TargetCommands

/-!
# Where the commands of a script stand

A command stands in the blocks that are open where it comes, and so under all of their conditions.
For a script that is put together from parts, the commands in given blocks are those of its parts:
a block adds its condition to the blocks of what is in it, and a part that leaves the blocks as it
finds them does not matter to the parts behind it.
-/
namespace ProjectScribe.Script

open Instruction (under openIf? closeIf? listed)

variable {context : Context} {instructions first second : List Instruction}
  {blocks : List (Option String)} {instruction : Instruction} {name : String}
  {arguments : List String}

section Balance

/-- A command that creates no target leaves behind what was known before it. -/
theorem balanced_command
    (uncreating : (Statement.runs name arguments).isCreation = false) :
    Balanced [.command name arguments] := by
  intro context
  have created := Part.created?_of_uncreating uncreating
  rw [Context.run, List.foldl_cons, List.foldl_nil, Instruction.statement, Context.after, created]
  split <;> rfl

theorem Balanced.listed {head items : List String}
    (balanced : Balanced [.command name (head ++ items)]) : Balanced (listed name head items) := by
  unfold Instruction.listed
  split
  · exact fun _ => rfl
  · exact balanced

theorem Balanced.flatMap {α : Type} {list : List α} {part : α → List Instruction}
    (parts : ∀ a ∈ list, Balanced (part a)) : Balanced (list.flatMap part) := by
  induction list with
  | nil => exact fun _ => rfl
  | cons a rest inductionHypothesis =>
    rw [List.forall_mem_cons] at parts
    exact parts.1.append (inductionHypothesis parts.2)

theorem Balanced.byPlatform {tokens : Mapping.PlatformTokens}
    {body : String → List String → List Instruction}
    (parts : ∀ platform list, Balanced (body platform list)) :
    Balanced (Source.byPlatform tokens body) :=
  .flatMap fun bucket _ => (parts bucket.1 bucket.2).under _

end Balance

section Standing

/-- An instruction stands in the given blocks, from the innermost outwards, among instructions that
begin where something is known. -/
def Stands (context : Context) (instructions : List Instruction) (blocks : List (Option String))
    (instruction : Instruction) : Prop :=
  ∃ before after, instructions = before ++ instruction :: after ∧
    (context.run before).blocks = blocks

theorem Stands.mem (stands : Stands context instructions blocks instruction) :
    instruction ∈ instructions := by
  obtain ⟨before, after, rfl, -⟩ := stands
  simp

theorem not_stands_nil : ¬ Stands context [] blocks instruction :=
  fun stands => absurd stands.mem (by simp)

theorem stands_cons_iff (head : Instruction) :
    Stands context (head :: instructions) blocks instruction ↔
      head = instruction ∧ context.blocks = blocks ∨
        Stands (context.after head.statement) instructions blocks instruction := by
  constructor
  · rintro ⟨before, after, split, here⟩
    cases before with
    | nil =>
      obtain ⟨rfl, -⟩ := List.cons.inj split
      exact .inl ⟨rfl, here⟩
    | cons other before =>
      obtain ⟨rfl, rest⟩ := List.cons.inj split
      exact .inr ⟨before, after, rest, here⟩
  · rintro (⟨rfl, here⟩ | ⟨before, after, rfl, here⟩)
    · exact ⟨[], instructions, rfl, here⟩
    · exact ⟨head :: before, after, rfl, here⟩

theorem stands_append_iff :
    Stands context (first ++ second) blocks instruction ↔
      Stands context first blocks instruction ∨
        Stands (context.run first) second blocks instruction := by
  induction first generalizing context with
  | nil =>
    constructor
    · exact .inr
    · rintro (nowhere | behind)
      · exact absurd nowhere not_stands_nil
      · exact behind
  | cons head rest inductionHypothesis =>
    rw [List.cons_append, stands_cons_iff, stands_cons_iff, inductionHypothesis, or_assoc]
    rfl

/-- A command in a block is a command in what is in the block, under its condition too. -/
theorem stands_under_iff (condition : Option String) :
    Stands context (under condition instructions) blocks (.command name arguments) ↔
      Stands (context.within condition) instructions blocks (.command name arguments) := by
  cases condition with
  | none =>
    have outside : context.within none = context := rfl
    simp [under, openIf?, closeIf?, outside]
  | some condition =>
    have written : under (some condition) instructions =
        .openIf condition :: (instructions ++ [.closeIf]) := rfl
    have opened : context.after (Instruction.openIf condition).statement =
        context.within (some condition) := rfl
    rw [written, stands_cons_iff, opened, stands_append_iff, stands_cons_iff]
    simp [not_stands_nil]

theorem stands_listed_iff (head items : List String) :
    Stands context (listed name head items) blocks instruction ↔
      items ≠ [] ∧ instruction = .command name (head ++ items) ∧ context.blocks = blocks := by
  unfold listed
  by_cases empty : items = []
  · simp [empty, not_stands_nil]
  · have filled : items.isEmpty = false := by simpa using empty
    rw [filled, if_neg Bool.false_ne_true, stands_cons_iff]
    simp [empty, not_stands_nil, eq_comm]

/-- Parts that leave the blocks as they find them all stand where the first one does. -/
theorem stands_flatMap_iff {α : Type} {list : List α} {part : α → List Instruction}
    (balanced : ∀ a ∈ list, Balanced (part a)) :
    Stands context (list.flatMap part) blocks instruction ↔
      ∃ a ∈ list, Stands context (part a) blocks instruction := by
  induction list with
  | nil => simp [not_stands_nil]
  | cons a rest inductionHypothesis =>
    rw [List.forall_mem_cons] at balanced
    rw [List.flatMap_cons, stands_append_iff, balanced.1, inductionHypothesis balanced.2,
      List.exists_mem_cons_iff]

/-- The commands for platforms stand under the conditions of their platforms. -/
theorem stands_byPlatform_iff (tokens : Mapping.PlatformTokens)
    {body : String → List String → List Instruction}
    (balanced : ∀ platform list, Balanced (body platform list)) :
    Stands context (Source.byPlatform tokens body) blocks (.command name arguments) ↔
      ∃ platform list, (platform, list) ∈ tokens.toList ∧
        Stands (context.within (Source.platformCondition platform)) (body platform list) blocks
          (.command name arguments) := by
  unfold Source.byPlatform
  rw [stands_flatMap_iff fun bucket _ => (balanced bucket.1 bucket.2).under _]
  simp only [stands_under_iff, Prod.exists]

end Standing

section Lacking

/-- What is in a block is among the instructions with the borders of the block. -/
theorem mem_under {condition : Option String} (inside : instruction ∈ instructions) :
    instruction ∈ under condition instructions :=
  List.mem_append_left _ (List.mem_append_right _ inside)

/-- What holds of the borders of a block and of what is in it holds of the whole block. -/
theorem forall_mem_under {property : Instruction → Prop} {condition : Option String}
    (opening : ∀ text ∈ condition, property (.openIf text))
    (inside : ∀ instruction ∈ instructions, property instruction) (closing : property .closeIf) :
    ∀ instruction ∈ under condition instructions, property instruction := by
  intro instruction listed
  simp only [under, openIf?, closeIf?, List.mem_append, List.mem_map] at listed
  rcases listed with (⟨text, conditions, rfl⟩ | within) | ⟨_, _, rfl⟩
  · exact opening text (Option.mem_toList.mp conditions)
  · exact inside instruction within
  · exact closing

/-- What holds of a command with a list holds of all of nothing, if the list is empty. -/
theorem forall_mem_listed {property : Instruction → Prop} {head items : List String}
    (here : property (.command name (head ++ items))) :
    ∀ instruction ∈ listed name head items, property instruction := by
  unfold listed
  split
  · simp
  · simpa using here

/-- What holds of the borders and of the commands of the blocks for platforms holds of these. -/
theorem forall_mem_byPlatform {property : Instruction → Prop} {tokens : Mapping.PlatformTokens}
    {body : String → List String → List Instruction}
    (opening : ∀ platform list, (platform, list) ∈ tokens.toList →
      ∀ text ∈ Source.platformCondition platform, property (.openIf text))
    (inside : ∀ platform list, (platform, list) ∈ tokens.toList →
      ∀ instruction ∈ body platform list, property instruction)
    (closing : property .closeIf) :
    ∀ instruction ∈ Source.byPlatform tokens body, property instruction :=
  List.forall_mem_flatMap.mpr fun (platform, list) bucket =>
    forall_mem_under (opening platform list bucket) (inside platform list bucket) closing

/-- No command among instructions has a name. -/
def Lacks (name : String) (instructions : List Instruction) : Prop :=
  ∀ arguments, .command name arguments ∉ instructions

theorem Lacks.not_stands (lacks : Lacks name instructions) :
    ¬ Stands context instructions blocks (.command name arguments) :=
  fun stands => lacks arguments stands.mem

theorem Lacks.append (left : Lacks name first) (right : Lacks name second) :
    Lacks name (first ++ second) := by
  intro arguments listed
  rcases List.mem_append.mp listed with inFirst | inSecond
  · exact left arguments inFirst
  · exact right arguments inSecond

end Lacking

namespace Source

section Configurations

theorem balanced_configurationBlock (source : Source) (ofDirectory : Mapping.PlatformTokens)
    (configuration : Configuration) :
    Balanced (source.configurationBlock ofDirectory configuration).value := by
  obtain ⟨heading, rest, written, -, silent, part⟩ :=
    source.configurationBlock_eq ofDirectory configuration
  intro context
  rw [written, Context.run, List.foldl_cons, silent]
  exact part.balanced context

/-- The creation of the target leaves the blocks as they are. -/
theorem blocks_run_creation (source : Source) (context : Context) :
    (context.run source.creation.value.toList).blocks = context.blocks := by
  cases made : source.creation.value with
  | none => rfl
  | some command =>
    have created := (source.created?_creation made).1
    rw [Option.toList_some, Context.run, List.foldl_cons, List.foldl_nil]
    cases meaning : command.statement with
    | runs name arguments =>
      rw [Context.after]
      split <;> rfl
    | nothing | opens | turns | closes =>
      rw [meaning] at created
      exact absurd created (by simp [Statement.created?])

/-- A script has the block of each configuration, outside of all other blocks. -/
theorem script_eq_configurationBlock {source : Source} {configuration : Configuration} (now : Nat)
    (among : configuration ∈ source.project.configurations) :
    ∃ before behind, (source.script now).value = before ++
        (source.configurationBlock source.directoryIncludes.value configuration).value ++ behind ∧
      (({} : Context).run before).blocks = [] := by
  obtain ⟨earlier, later, listed⟩ := List.append_of_mem among
  let block := fun configuration =>
    (source.configurationBlock source.directoryIncludes.value configuration).value
  have front : Part source.target Anywhere (source.front now) := source.part_front now
  have blocksBefore : Balanced (source.behindCreation ++ earlier.flatMap block) :=
    source.part_behindCreation.balanced.append
      (.flatMap fun other _ => source.balanced_configurationBlock _ other)
  refine ⟨source.front now ++ source.creation.value.toList ++
    (source.behindCreation ++ earlier.flatMap block), later.flatMap block ++ [hook .postTarget],
    ?_, ?_⟩
  · rw [value_script, behind, configurationBlocks, listed]
    simp [block]
  · rw [Context.run_append, blocksBefore, Context.run_append, blocks_run_creation, front.balanced]

end Configurations

end Source

end ProjectScribe.Script
