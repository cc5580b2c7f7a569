import Mathlib.Data.List.Forall2
import ProjectScribe.Proofs.Script.ArgumentReading

/-!
# Blocks of scripts, and targets that exist in them

A tool that carries out a script sees blocks under conditions, and commands in them. A command
about a target is safe if the target was created earlier outside of every block, or if it stands
in a block under the condition that the target exists.

Both are read off the text. That they suffice is shown for executions: however all other
conditions turn out, a script that observes them never reaches a command about a target that does
not exist.
-/
namespace ProjectScribe.Script

open Instruction (under openIf? closeIf?)

section Statements

/-- What an instruction means to the tool that carries out a script. -/
inductive Statement where
  /-- An empty line or a comment. -/
  | nothing
  /-- The start of a block under a condition. -/
  | opens (condition : String)
  /-- The start of the other part of a block. -/
  | turns
  /-- The end of a block. -/
  | closes
  /-- A command. -/
  | runs (name : String) (arguments : List String)
deriving DecidableEq, Repr

/-- What a line means, which is written as it is. -/
def Statement.ofLine (text : String) : Statement :=
  match Text.trim text.toList with
  | [] | '#' :: _ => .nothing
  | bare =>
    match Text.cutAt '(' bare with
    | none => .nothing
    | some (name, rest) =>
      match String.ofList name with
      | "if" => .opens (String.ofList rest.dropLast)
      | "else" => .turns
      | "endif" => .closes
      | name => .runs name ((readArguments (String.ofList bare)).getD [])

/-- What an instruction means. -/
def Instruction.statement : Instruction → Statement
  | .line text => .ofLine text
  | .blank | .comment _ => .nothing
  | .command name arguments | .verbatim name arguments => .runs name arguments
  | .openIf condition => .opens condition
  | .orElse => .turns
  | .closeIf => .closes

namespace Statement

/-- Whether a command creates a target. -/
def isCreation : Statement → Bool
  | runs "add_executable" _ | runs "add_library" _ => true
  | _ => false

/-- The target that a command creates. -/
def created? : Statement → Option String
  | runs "add_executable" (target :: _) | runs "add_library" (target :: _) => some target
  | _ => none

/-- Whether a command is about a target that exists already: it links libraries to a target or
changes one of its properties. -/
def isAddressing : Statement → Bool
  | runs "target_link_libraries" _ | runs "set_property" ("TARGET" :: _) => true
  | _ => false

/-- The target that such a command is about. -/
def addressed? : Statement → Option String
  | runs "target_link_libraries" (target :: _) | runs "set_property" ("TARGET" :: target :: _) =>
    some target
  | _ => none

end Statement

end Statements

section Contexts

/-- What is known where an instruction stands: the blocks that are open, from the innermost
outwards, each with its condition unless it has turned to its other part, and the targets that
were created outside of every block. -/
structure Context where
  blocks : List (Option String) := []
  targets : List String := []
deriving DecidableEq, Repr

namespace Context

/-- What is known after a statement. -/
def after (context : Context) : Statement → Context
  | .nothing => context
  | .opens condition => { context with blocks := some condition :: context.blocks }
  | .turns => { context with blocks := match context.blocks with
      | [] => []
      | _ :: outer => none :: outer }
  | .closes => { context with blocks := context.blocks.tail }
  | .runs name arguments =>
    if context.blocks = [] then
      { context with targets := (Statement.runs name arguments).created?.toList ++ context.targets }
    else context

/-- What is known after several instructions. -/
def run (context : Context) (instructions : List Instruction) : Context :=
  instructions.foldl (fun context instruction => context.after instruction.statement) context

/-- What is known at the start of a block under a condition, or without one. -/
def within (context : Context) (condition : Option String) : Context :=
  { context with blocks := condition.toList.map some ++ context.blocks }

/-- The condition that a target exists. -/
def existence (target : String) : String := "TARGET " ++ argument target

/-- Whether a target is known to exist: it was created, or its existence is the condition of an
open block. -/
def Has (context : Context) (target : String) : Prop :=
  target ∈ context.targets ∨ some (existence target) ∈ context.blocks

theorem run_append (context : Context) (first second : List Instruction) :
    context.run (first ++ second) = (context.run first).run second :=
  List.foldl_append ..

/-- What is known to exist is so in every block. -/
theorem Has.within {context : Context} {target : String} (has : context.Has target)
    (condition : Option String) : (context.within condition).Has target := by
  rcases has with created | guarded
  · exact .inl created
  · exact .inr (List.mem_append_right _ guarded)

/-- A target is known to exist after its creation outside of every block. -/
theorem has_after_created {context : Context} (outermost : context.blocks = [])
    {statement : Statement} {target : String} (created : statement.created? = some target) :
    (context.after statement).Has target := by
  cases statement with
  | runs name arguments =>
    rw [after, if_pos outermost, created]
    exact .inl List.mem_cons_self
  | nothing | opens condition | turns | closes =>
    exact absurd created (by simp [Statement.created?])

/-- A target is known to exist in a block under the condition that it does. -/
theorem has_within_existence (context : Context) (target : String) :
    (context.within (some (existence target))).Has target :=
  .inr List.mem_cons_self

end Context

/-- Instructions after which as much is known as before them. -/
def Balanced (instructions : List Instruction) : Prop :=
  ∀ context : Context, context.run instructions = context

/-- Instructions whose commands about targets are all about one target, which is known to exist
wherever there is such a command. -/
def Sound (target : String) (context : Context) (instructions : List Instruction) : Prop :=
  ∀ before instruction after, instructions = before ++ instruction :: after →
    instruction.statement.isAddressing = true →
      instruction.statement.addressed? = some target ∧ (context.run before).Has target

variable {target : String} {context : Context} {instructions first second : List Instruction}

theorem Balanced.append (left : Balanced first) (right : Balanced second) :
    Balanced (first ++ second) := by
  intro context
  rw [Context.run_append, left, right]

/-- A block is balanced if what is in it is. -/
theorem Balanced.under (balanced : Balanced instructions) (condition : Option String) :
    Balanced (under condition instructions) := by
  intro context
  cases condition with
  | none => simpa [Instruction.under, openIf?, closeIf?] using balanced context
  | some condition =>
    have opened : context.run (Instruction.under (some condition) instructions) =
        ((context.within (some condition)).run instructions).run [.closeIf] := by
      rw [← Context.run_append]
      rfl
    rw [opened, balanced]
    rfl

theorem sound_nil : Sound target context [] := by
  intro before instruction after split
  simp at split

theorem sound_cons_iff (instruction : Instruction) :
    Sound target context (instruction :: instructions) ↔
      (instruction.statement.isAddressing = true →
        instruction.statement.addressed? = some target ∧ context.Has target) ∧
      Sound target (context.after instruction.statement) instructions := by
  constructor
  · intro sound
    refine ⟨fun addressing => sound [] instruction instructions rfl addressing, ?_⟩
    intro before other after split
    exact sound (instruction :: before) other after (by rw [split, List.cons_append])
  · rintro ⟨here, further⟩ before other after split
    cases before with
    | nil =>
      obtain ⟨rfl, -⟩ := List.cons.inj split
      exact here
    | cons head before =>
      obtain ⟨rfl, rest⟩ := List.cons.inj split
      exact further before other after rest

theorem sound_append_iff :
    Sound target context (first ++ second) ↔
      Sound target context first ∧ Sound target (context.run first) second := by
  induction first generalizing context with
  | nil => exact ⟨fun sound => ⟨sound_nil, sound⟩, fun sound => sound.2⟩
  | cons instruction rest inductionHypothesis =>
    rw [List.cons_append, sound_cons_iff, sound_cons_iff, inductionHypothesis, and_assoc]
    rfl

/-- A block is sound if what is in it is sound under its condition. -/
theorem Sound.under {condition : Option String}
    (sound : Sound target (context.within condition) instructions) :
    Sound target context (under condition instructions) := by
  cases condition with
  | none =>
    have outside : context.within none = context := rfl
    rw [outside] at sound
    simpa [Instruction.under, openIf?, closeIf?] using sound
  | some condition =>
    have closing : Sound target ((context.within (some condition)).run instructions)
        [.closeIf] := by
      rw [sound_cons_iff]
      exact ⟨fun addressing => absurd addressing (by decide), sound_nil⟩
    have inside := sound_append_iff.mpr ⟨sound, closing⟩
    have opening : Sound target context (.openIf condition :: (instructions ++ [.closeIf])) := by
      rw [sound_cons_iff]
      exact ⟨fun addressing => absurd addressing Bool.false_ne_true, inside⟩
    exact opening

end Contexts

section Executions

/-- Where the execution of a script stands: for each open block, from the innermost outwards,
whether it is carried out, and the targets that exist, by their written names. -/
structure Execution where
  blocks : List Bool := []
  targets : List String := []
deriving DecidableEq, Repr

namespace Execution

/-- Whether commands are carried out: no open block is passed over. -/
def isActive (execution : Execution) : Bool := execution.blocks.all id

/-- How a condition turns out. Only the existence of targets is decided by what went before; all
other conditions are as given. -/
def decides (execution : Execution) (holds : String → Bool) (condition : String) : Bool :=
  match Text.afterStart? "TARGET ".toList condition.toList with
  | some written => execution.targets.contains (String.ofList written)
  | none => holds condition

/-- An execution after one more statement. -/
def step (execution : Execution) (holds : String → Bool) : Statement → Execution
  | .nothing => execution
  | .opens condition =>
    { execution with blocks := execution.decides holds condition :: execution.blocks }
  | .turns => { execution with blocks := match execution.blocks with
      | [] => []
      | first :: outer => (!first) :: outer }
  | .closes => { execution with blocks := execution.blocks.tail }
  | .runs name arguments =>
    if execution.isActive then
      { execution with targets :=
          ((Statement.runs name arguments).created?.map argument).toList ++ execution.targets }
    else execution

/-- An execution after more instructions. How conditions turn out may change from one instruction
to the next, so it is given for each number of instructions carried out. -/
def run (holds : Nat → String → Bool) : Nat → Execution → List Instruction → Execution
  | _, execution, [] => execution
  | count, execution, instruction :: rest =>
    run holds (count + 1) (execution.step (holds count) instruction.statement) rest

/-- An execution is as the context says: created targets exist, and where a block is carried out
under the condition that a target exists, it does. -/
structure Reflects (execution : Execution) (context : Context) : Prop where
  targets : ∀ target ∈ context.targets, argument target ∈ execution.targets
  blocks : List.Forall₂ (fun block isCarriedOut =>
    ∀ target, block = some (Context.existence target) → isCarriedOut = true →
      argument target ∈ execution.targets) context.blocks execution.blocks

variable {execution : Execution} {context : Context}

/-- The condition that a target exists turns out by whether it does. -/
theorem decides_existence (execution : Execution) (holds : String → Bool) (target : String) :
    execution.decides holds (Context.existence target) =
      execution.targets.contains (argument target) := by
  have written : Text.afterStart? "TARGET ".toList (Context.existence target).toList =
      some (argument target).toList := by
    rw [Text.afterStart?_eq_some_iff, Context.existence, String.toList_append]
  rw [decides, written]
  simp

/-- A command leaves the blocks alone, and no target ceases to exist. -/
theorem step_runs (execution : Execution) (holds : String → Bool) (name : String)
    (arguments : List String) :
    (execution.step holds (.runs name arguments)).blocks = execution.blocks ∧
      ∀ written ∈ execution.targets,
        written ∈ (execution.step holds (.runs name arguments)).targets := by
  rw [step]
  split
  · exact ⟨rfl, fun written listed => List.mem_append_right _ listed⟩
  · exact ⟨rfl, fun written listed => listed⟩

/-- A command that creates a target outside of every block is carried out. -/
theorem Reflects.creates (reflects : execution.Reflects context) (outermost : context.blocks = [])
    (holds : String → Bool) (name : String) (arguments : List String) {target : String}
    (created : (Statement.runs name arguments).created? = some target) :
    argument target ∈ (execution.step holds (.runs name arguments)).targets := by
  have active : execution.isActive = true := by
    have blocks := reflects.blocks
    rw [outermost, List.forall₂_nil_left_iff] at blocks
    rw [isActive, blocks]
    rfl
  rw [step, if_pos active, created]
  exact List.mem_append_left _ List.mem_cons_self

/-- One statement leaves an execution as the context says. -/
theorem Reflects.step (reflects : execution.Reflects context) (holds : String → Bool)
    (statement : Statement) :
    (execution.step holds statement).Reflects (context.after statement) := by
  cases statement with
  | nothing => exact reflects
  | opens condition =>
    refine ⟨reflects.targets, .cons ?_ reflects.blocks⟩
    intro target named carriedOut
    obtain rfl := Option.some.inj named
    rw [decides_existence] at carriedOut
    exact List.contains_iff_mem.mp carriedOut
  | turns =>
    obtain ⟨opened, known⟩ := context
    obtain ⟨carriedOut, existing⟩ := execution
    refine ⟨reflects.targets, ?_⟩
    cases reflects.blocks with
    | nil => exact .nil
    | cons _ outer => exact .cons (fun _ named => absurd named (by simp)) outer
  | closes =>
    obtain ⟨opened, known⟩ := context
    obtain ⟨carriedOut, existing⟩ := execution
    refine ⟨reflects.targets, ?_⟩
    cases reflects.blocks with
    | nil => exact .nil
    | cons _ outer => exact outer
  | runs name arguments =>
    obtain ⟨sameBlocks, kept⟩ := step_runs execution holds name arguments
    have blocksKept : (context.after (.runs name arguments)).blocks = context.blocks := by
      rw [Context.after]
      split <;> rfl
    constructor
    · intro target listed
      rw [Context.after] at listed
      split at listed
      · next outermost =>
        rcases List.mem_append.mp listed with created | earlier
        · exact reflects.creates outermost holds name arguments (Option.mem_toList.mp created)
        · exact kept _ (reflects.targets target earlier)
      · exact kept _ (reflects.targets target listed)
    · rw [sameBlocks, blocksKept]
      exact reflects.blocks.imp fun block carriedOut known target named isCarriedOut =>
        kept _ (known target named isCarriedOut)

/-- Several instructions leave an execution as the context says. -/
theorem Reflects.run (reflects : execution.Reflects context) (holds : Nat → String → Bool)
    (count : Nat) (instructions : List Instruction) :
    (Execution.run holds count execution instructions).Reflects (context.run instructions) := by
  induction instructions generalizing count execution context with
  | nil => exact reflects
  | cons instruction rest inductionHypothesis =>
    exact inductionHypothesis (reflects.step (holds count) instruction.statement) (count + 1)

/-- Where commands are carried out, a target exists that is known to. -/
theorem Reflects.exists_of_has (reflects : execution.Reflects context)
    (active : execution.isActive = true) {target : String} (has : context.Has target) :
    argument target ∈ execution.targets := by
  rcases has with created | guarded
  · exact reflects.targets target created
  · obtain ⟨place, inside, here⟩ := List.mem_iff_getElem.mp guarded
    have lengths := reflects.blocks.length_eq
    have known := (List.forall₂_iff_get.mp reflects.blocks).2 place inside (lengths ▸ inside)
    have carriedOut := List.all_eq_true.mp active _
      (List.getElem_mem (l := execution.blocks) (n := place) (lengths ▸ inside))
    exact known target here carriedOut

end Execution

/-- A sound script never reaches a command about a target that does not exist, however its
conditions turn out. -/
theorem Sound.exists_target {target : String} {instructions : List Instruction}
    (sound : Sound target {} instructions) (holds : Nat → String → Bool)
    (before : List Instruction) (instruction : Instruction) (after : List Instruction)
    (split : instructions = before ++ instruction :: after)
    (addressing : instruction.statement.isAddressing = true)
    (active : (Execution.run holds 0 {} before).isActive = true) :
    argument target ∈ (Execution.run holds 0 {} before).targets := by
  have start : ({} : Execution).Reflects {} := ⟨by simp, .nil⟩
  exact (start.run holds 0 before).exists_of_has active
    (sound before instruction after split addressing).2

end Executions

end ProjectScribe.Script
