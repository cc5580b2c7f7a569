import ProjectScribe.Proofs.Script.TargetCommands

/-!
# How the blocks of a script are nested

In every part of a script, each block that is opened is closed behind what is nested in it. So a
part ends at the depth at which it starts, and the text of parts that follow each other is that of
the parts, each written at this depth.
-/
namespace ProjectScribe.Script

open Instruction (under openIf? closeIf? listed setVariable appendProperty)

/-- Whether an instruction is the border of a block. -/
def Instruction.isBorder : Instruction → Bool
  | openIf _ | orElse | closeIf => true
  | _ => false

/-- Instructions that close each block behind what is nested in it. -/
inductive Nested : List Instruction → Prop where
  | nil : Nested []
  | plain {instruction : Instruction} {rest : List Instruction}
    (inner : instruction.isBorder = false) (behind : Nested rest) : Nested (instruction :: rest)
  | block (condition : String) {inside rest : List Instruction} (nested : Nested inside)
    (behind : Nested rest) : Nested (.openIf condition :: (inside ++ .closeIf :: rest))

section Nesting

variable {first second instructions : List Instruction}

theorem Nested.append (left : Nested first) (right : Nested second) : Nested (first ++ second) := by
  induction left with
  | nil => exact right
  | plain inner _ inductionHypothesis => exact .plain inner inductionHypothesis
  | block condition nested _ _ inductionHypothesis =>
    rw [List.cons_append, List.append_assoc, List.cons_append]
    exact .block condition nested inductionHypothesis

theorem Nested.one {instruction : Instruction} (inner : instruction.isBorder = false) :
    Nested [instruction] :=
  .plain inner .nil

/-- Instructions without borders of blocks. -/
theorem Nested.of_plain (inner : ∀ instruction ∈ instructions, instruction.isBorder = false) :
    Nested instructions := by
  induction instructions with
  | nil => exact .nil
  | cons instruction rest inductionHypothesis =>
    obtain ⟨here, further⟩ := List.forall_mem_cons.mp inner
    exact .plain here (inductionHypothesis further)

theorem Nested.under (nested : Nested instructions) (condition : Option String) :
    Nested (under condition instructions) := by
  cases condition with
  | none =>
    have unguarded : Instruction.under none instructions = instructions := by
      simp [Instruction.under, openIf?, closeIf?]
    rwa [unguarded]
  | some condition => exact .block condition nested .nil

theorem Nested.flatMap {α : Type} {list : List α} {part : α → List Instruction}
    (parts : ∀ a ∈ list, Nested (part a)) : Nested (list.flatMap part) := by
  induction list with
  | nil => exact .nil
  | cons a rest inductionHypothesis =>
    obtain ⟨here, further⟩ := List.forall_mem_cons.mp parts
    exact here.append (inductionHypothesis further)

theorem Nested.listed (name : String) (head items : List String) :
    Nested (listed name head items) := by
  unfold Instruction.listed
  split
  · exact .nil
  · exact .one rfl

theorem Nested.byPlatform {tokens : Mapping.PlatformTokens}
    {body : String → List String → List Instruction}
    (parts : ∀ platform list, Nested (body platform list)) :
    Nested (Source.byPlatform tokens body) :=
  .flatMap fun bucket _ => (parts bucket.1 bucket.2).under _

/-- An instruction that is no border of a block leaves the depth as it is. -/
theorem depthAfter_of_inner {instruction : Instruction} (inner : instruction.isBorder = false)
    (depth : Nat) : instruction.depthAfter depth = depth := by
  cases instruction with
  | openIf | orElse | closeIf => cases inner
  | line | blank | comment | command | verbatim => rfl

/-- Nested instructions end at the depth at which they start. -/
theorem Nested.depthFrom_eq (nested : Nested instructions) (depth : Nat) :
    depthFrom depth instructions = depth := by
  induction nested generalizing depth with
  | nil => rfl
  | plain inner _ inductionHypothesis =>
    rw [depthFrom, List.foldl_cons, depthAfter_of_inner inner]
    exact inductionHypothesis depth
  | block condition _ _ inside behind =>
    have opened : ∀ rest,
        depthFrom depth (.openIf condition :: rest) = depthFrom (depth + 1) rest := fun _ => rfl
    have closed : ∀ rest, depthFrom (depth + 1) (.closeIf :: rest) = depthFrom depth rest :=
      fun _ => rfl
    rw [opened, depthFrom_append, inside, closed, behind]

/-- What follows nested instructions is written at the depth at which these start. -/
theorem Nested.textFrom_append (nested : Nested first) (depth : Nat)
    (second : List Instruction) :
    textFrom depth (first ++ second) = textFrom depth first ++ textFrom depth second := by
  rw [Script.textFrom_append, nested.depthFrom_eq]

/-- The text of nested parts joins the texts of the parts. -/
theorem text_flatMap {α : Type} {list : List α} {part : α → List Instruction}
    (parts : ∀ a ∈ list, Nested (part a)) :
    text (list.flatMap part) = String.join (list.map fun a => text (part a)) := by
  induction list with
  | nil => rfl
  | cons a rest inductionHypothesis =>
    obtain ⟨here, further⟩ := List.forall_mem_cons.mp parts
    rw [List.flatMap_cons, text, here.textFrom_append, List.map_cons, String.join_cons,
      ← inductionHypothesis further]
    rfl

end Nesting

namespace Source

section Parts

theorem nested_banner (source : Source) (now : Nat) : Nested (source.banner now) := by
  have optional : ∀ {condition : Bool} {text : String},
      Nested (if condition then [.comment text] else []) := by
    intro condition text
    cases condition with
    | false => exact .nil
    | true => exact .one rfl
  exact (((Nested.one rfl).append optional).append optional).append (.one rfl)

theorem nested_requirements (source : Source) : Nested source.requirements := by
  have policiesSet : Nested (policies.flatMap fun policy =>
      under (some ("POLICY " ++ policy.1))
        [.command "cmake_policy" ["SET", policy.1, policy.2]]) :=
    .flatMap fun _ _ => Nested.under (.one rfl) _
  have rootSet : Nested (under (some "NOT V2C_MASTER_PROJECT_SOURCE_DIR")
      [setVariable "V2C_MASTER_PROJECT_SOURCE_DIR" "$\x7bCMAKE_SOURCE_DIR\x7d"]) :=
    Nested.under (.one rfl) _
  refine (((Nested.append ?_ policiesSet).append (.one rfl)).append rootSet).append ?_
  · exact .plain rfl (.one rfl)
  · exact .plain rfl (.plain rfl (.plain rfl (.one rfl)))

theorem nested_head (source : Source) (now : Nat) (asksForPlatform : Bool) :
    Nested (source.head now asksForPlatform) := by
  refine (((source.nested_banner now).append source.nested_requirements).append
    (.plain rfl (.plain rfl (.one rfl)))).append ?_
  unfold platformBlock
  split
  · exact (Nested.of_plain (List.forall_mem_map.mpr fun _ _ => rfl)).append (.one rfl)
  · exact .nil

theorem nested_directorySettings (source : Source) : Nested source.directorySettings.value := by
  unfold directorySettings
  cases source.authoritative with
  | none => exact .nil
  | some configuration =>
    have library : Nested (mfcFlag configuration.mfc) := by
      cases configuration.mfc with
      | notUsed => exact .nil
      | static | dynamic => exact .one rfl
    exact ((library.append (.byPlatform fun _ _ => .listed _ _ _)).append
      (.byPlatform fun _ _ => .listed _ _ _)).append (.one rfl)

theorem nested_sources (source : Source) : Nested source.sources.value := by
  rw [value_sources]
  refine (Nested.flatMap fun place _ => ?_).append (.plain rfl (.one rfl))
  rw [value_groupSources]
  dsimp only
  split
  · exact .nil
  · refine ((Nested.listed _ _ _).append ?_).append (.one rfl)
    split
    · exact .nil
    · exact .one rfl

theorem nested_front (source : Source) (now : Nat) : Nested (source.front now) :=
  (((source.nested_head now _).append source.nested_directorySettings).append
    source.nested_sources).append (.plain rfl (.one rfl))

theorem nested_creation (source : Source) : Nested source.creation.value.toList := by
  refine .of_plain fun command created => ?_
  have creates := (source.created?_creation (Option.mem_toList.mp created)).2.1
  cases command with
  | openIf | orElse | closeIf => cases creates
  | line | blank | comment | command | verbatim => rfl

theorem nested_behindCreation (source : Source) : Nested source.behindCreation := by
  have linked : Nested source.linkLibraries.value := by
    unfold linkLibraries
    cases source.authoritative with
    | none => exact .nil
    | some configuration =>
      simp only [Reported.value_bind, Reported.value_pure]
      exact .byPlatform fun _ _ => .listed _ _ _
  have bound : Nested source.bindings := by
    unfold bindings
    dsimp only
    split
    · exact .flatMap fun (property, value) _ => .of_plain (List.forall_mem_map.mpr fun _ _ => rfl)
    · exact .nil
  unfold behindCreation
  split
  · exact (linked.append bound).append (.one rfl)
  · exact .one rfl

/-- What a configuration says about the target is nested. -/
theorem nested_settings (source : Source) (identifier : String)
    (defined ofDirectory ofConfiguration : Mapping.PlatformTokens) (compile link : List String) :
    Nested (byPlatform defined (fun _ values =>
        appendProperty source.target ("COMPILE_DEFINITIONS_" ++ identifier) values) ++
      source.extraIncludes identifier ofDirectory ofConfiguration ++
      source.flagSection identifier compile link) := by
  refine ((Nested.byPlatform fun _ _ => .listed _ _ _).append
    (.byPlatform fun _ _ => .listed _ _ _)).append ?_
  unfold flagSection
  split
  · exact .nil
  · refine Nested.under (.append (.listed _ _ _) ?_) _
    split
    · exact .nil
    · exact .one rfl

theorem nested_configurationBlock (source : Source) (ofDirectory : Mapping.PlatformTokens)
    (configuration : Configuration) :
    Nested (source.configurationBlock ofDirectory configuration).value :=
  (Nested.append (.one rfl) (.under (.under (source.nested_settings _ _ _ _ _ _) _) _)).append
    (.one rfl)

/-- The blocks of every script are nested. -/
theorem nested_script (source : Source) (now : Nat) : Nested (source.script now).value := by
  rw [value_script]
  refine ((source.nested_front now).append source.nested_creation).append ?_
  refine (source.nested_behindCreation.append ?_).append (.one rfl)
  exact .flatMap fun configuration _ => source.nested_configurationBlock _ configuration

end Parts

end Source

end ProjectScribe.Script
