import ProjectScribe.Proofs.FilterTree.DepthFirst

/-!
# Trees that differ in excluded files only

A tree may have more excluded files than another one, anywhere, and more filters that hold nothing
but excluded files, themselves and all filters below them. New filters change the places of the
others, so the two trees are compared from a place of the one and a place of the other down: names
agree, and the lists of files and of filters agree but for what the second tree has in addition.

What can be seen of a tree without its excluded files is the list of its groups: the filters that
have other files, by their paths and in the order of the walk, each with these files. Trees that
differ in excluded files only have the same groups.
-/
namespace ProjectScribe.FilterTree

section Lists

variable {α β γ : Type}

/-- A list with extra elements put in anywhere. What is not extra is related, in turn, to what the
list had before. -/
inductive Padded (isExtra : β → Prop) (related : α → β → Prop) : List α → List β → Prop where
  | nil : Padded isExtra related [] []
  | kept {a : α} {b : β} {before : List α} {padded : List β} (same : related a b)
      (rest : Padded isExtra related before padded) :
      Padded isExtra related (a :: before) (b :: padded)
  | extra {b : β} {before : List α} {padded : List β} (isNew : isExtra b)
      (rest : Padded isExtra related before padded) : Padded isExtra related before (b :: padded)

variable {isExtra : β → Prop} {related : α → β → Prop} {before : List α} {padded : List β}

/-- Where extra elements contribute nothing and related ones the same, a padded list contributes
what it did before. -/
theorem Padded.flatMap_eq (grown : Padded isExtra related before padded) (old : α → List γ)
    (new : β → List γ) (nothing : ∀ b ∈ padded, isExtra b → new b = [])
    (same : ∀ a ∈ before, ∀ b ∈ padded, related a b → new b = old a) :
    padded.flatMap new = before.flatMap old := by
  induction grown with
  | nil => rfl
  | kept matched rest inductionHypothesis =>
    have others := inductionHypothesis
      (fun b among => nothing b (List.mem_cons_of_mem _ among))
      (fun a amongOld b amongNew =>
        same a (List.mem_cons_of_mem _ amongOld) b (List.mem_cons_of_mem _ amongNew))
    rw [List.flatMap_cons, List.flatMap_cons, others,
      same _ List.mem_cons_self _ List.mem_cons_self matched]
  | extra isNew rest inductionHypothesis =>
    have others := inductionHypothesis
      (fun b among => nothing b (List.mem_cons_of_mem _ among))
      (fun a amongOld b amongNew => same a amongOld b (List.mem_cons_of_mem _ amongNew))
    rw [List.flatMap_cons, others, nothing _ List.mem_cons_self isNew, List.nil_append]

/-- A list that is padded with elements which a test rejects passes the same elements. -/
theorem Padded.filter_eq {test : β → Bool} {before padded : List β}
    (grown : Padded (fun b => test b = false) Eq before padded) :
    padded.filter test = before.filter test := by
  induction grown with
  | nil => rfl
  | kept same rest inductionHypothesis =>
    rw [same, List.filter_cons, List.filter_cons, inductionHypothesis]
  | extra isNew rest inductionHypothesis =>
    rw [List.filter_cons_of_neg (Bool.not_eq_true _ ▸ isNew), inductionHypothesis]

end Lists

section Trees

/-- The files of a node that are not excluded. -/
def builtAt (tree : FilterTree) (place : Nat) : List FileEntry :=
  (tree.filesAt place).filter (!·.isExcluded)

/-- A place is hollow if it leads down to excluded files only. -/
def Hollow (tree : FilterTree) (place : Nat) : Prop :=
  ∀ other, LeadsTo tree place other → ∀ file ∈ tree.filesAt other, file.isExcluded = true

/-- From two places down, one tree has what the other one has and, put in anywhere, excluded files
and hollow filters. -/
inductive Pads (fewer more : FilterTree) : Nat → Nat → Prop where
  | agree {place padded : Nat}
      (name : (more.node? padded).map (·.name) = (fewer.node? place).map (·.name))
      (files : Padded (fun file => (!file.isExcluded) = false) Eq (fewer.filesAt place)
        (more.filesAt padded))
      (filters : Padded more.Hollow (Pads fewer more) (fewer.childrenOf place)
        (more.childrenOf padded)) :
      Pads fewer more place padded

/-- The names from a place up to the one below the root. -/
def namesAbove (tree : FilterTree) (place : Nat) : List String :=
  (tree.ancestry place).map (·.name)

/-- The group of a node: its path with its files that are not excluded, if there are any. -/
def builtGroup (tree : FilterTree) (place : Nat) : List (String × List FileEntry) :=
  if tree.builtAt place = [] then [] else [(tree.pathOf place, tree.builtAt place)]

/-- The groups below a place, from the place itself down. -/
def groupsBelow (tree : FilterTree) (place : Nat) : List (String × List FileEntry) :=
  (tree.downwards tree.size place).flatMap tree.builtGroup

/-- The groups of a tree, in the order of the walk. -/
def builtGroups (tree : FilterTree) : List (String × List FileEntry) :=
  (root :: tree.walk).flatMap tree.builtGroup

namespace Shaped

variable {tree : FilterTree} (shaped : tree.Shaped)

include shaped

/-- What holds of a place whenever it holds of the places directly below it holds of every
place. -/
theorem downward_induction {motive : Nat → Prop}
    (step : ∀ place, (∀ child ∈ tree.childrenOf place, motive child) → motive place)
    (place : Nat) : motive place := by
  induction left : tree.size - place using Nat.strongRecOn generalizing place with
  | ind left inductionHypothesis =>
    refine step place fun child listed => ?_
    have behind := shaped.lt_of_parentOf ((shaped.mem_childrenOf place child).mp listed).1
    exact inductionHypothesis (tree.size - child) (by omega) child rfl

/-- The nodes from a place up do not depend on the steps, if these are enough. -/
theorem upwards_steps (steps place : Nat) (enough : place ≤ steps) :
    tree.upwards steps place = tree.ancestry place := by
  induction steps using Nat.strongRecOn generalizing place with
  | ind steps inductionHypothesis =>
    cases steps with
    | zero =>
      obtain rfl : place = 0 := by omega
      rfl
    | succ steps =>
      by_cases isRoot : place = root
      · subst isRoot
        rfl
      · obtain ⟨before, rfl⟩ : ∃ before, place = before + 1 :=
          Nat.exists_eq_succ_of_ne_zero isRoot
        rw [ancestry, upwards, upwards, if_neg isRoot, if_neg isRoot]
        cases found : tree.node? (before + 1) with
        | none => rfl
        | some node =>
          cases stands : node.parent with
          | none => simp only [stands]
          | some parent =>
            have named : tree.parentOf (before + 1) = some parent := by
              rw [parentOf, found]
              exact stands
            have earlier := (shaped.lt_of_parentOf named).1
            simp only [stands]
            rw [inductionHypothesis steps (by omega) parent (by omega),
              inductionHypothesis before (by omega) parent (by omega)]

/-- The nodes from a place up are its own and those from the place above it. -/
theorem ancestry_of_parentOf {place parent : Nat} (stands : tree.parentOf place = some parent) :
    tree.ancestry place = (tree.node? place).toList ++ tree.ancestry parent := by
  have behind := shaped.lt_of_parentOf stands
  have notRoot : place ≠ root := Nat.ne_of_gt (Nat.lt_of_le_of_lt (Nat.zero_le parent) behind.1)
  obtain ⟨before, rfl⟩ : ∃ before, place = before + 1 := Nat.exists_eq_succ_of_ne_zero notRoot
  obtain ⟨node, found⟩ := tree.exists_node? _ behind.2
  have above : node.parent = some parent := by simpa [parentOf, found] using stands
  rw [ancestry, upwards, if_neg notRoot, found]
  simp only [above]
  rw [shaped.upwards_steps before parent (by omega)]
  rfl

/-- To see that a place is hollow, it is enough to go down from it. -/
theorem hollow_iff {place : Nat} (inside : place < tree.size) :
    tree.Hollow place ↔ ∀ other ∈ tree.downwards tree.size place,
      ∀ file ∈ tree.filesAt other, file.isExcluded = true := by
  simp only [Hollow, shaped.mem_downwards_iff tree.size place _ inside (Nat.le_add_left _ _)]

/-- Nothing below a hollow place has a group. -/
theorem groupsBelow_of_hollow {place : Nat} (hollow : tree.Hollow place) :
    tree.groupsBelow place = [] := by
  rw [groupsBelow, List.flatMap_eq_nil_iff]
  intro other met
  have led := shaped.leadsTo_of_mem_downwards tree.size place other met
  have nothing : tree.builtAt other = [] := by
    simpa [builtAt] using hollow other led
  rw [builtGroup, if_pos nothing]

/-- The groups below a place are its own and those below the places directly below it. -/
theorem groupsBelow_eq {place : Nat} (inside : place < tree.size) :
    tree.groupsBelow place =
      tree.builtGroup place ++ (tree.childrenOf place).flatMap tree.groupsBelow := by
  rw [groupsBelow, shaped.downwards_size place inside, List.flatMap_cons, List.flatMap_assoc,
    shaped.namedBelow_eq place inside]
  rfl

theorem builtGroups_eq : tree.builtGroups = tree.groupsBelow root := by
  rw [builtGroups, shaped.root_cons_walk, groupsBelow]

end Shaped

variable {fewer more : FilterTree} (shapedFewer : fewer.Shaped) (shapedMore : more.Shaped)

include shapedFewer shapedMore in
/-- Below two places with the same names above them and down from which only excluded files were
added, trees have the same groups. -/
theorem Pads.groupsBelow_eq {place padded : Nat} (pads : Pads fewer more place padded)
    (inside : place < fewer.size) (insideMore : padded < more.size)
    (names : more.namesAbove padded = fewer.namesAbove place) :
    more.groupsBelow padded = fewer.groupsBelow place := by
  induction place using shapedFewer.downward_induction generalizing padded with
  | step place inductionHypothesis =>
    obtain ⟨name, files, filters⟩ := pads
    have built : more.builtAt padded = fewer.builtAt place := files.filter_eq
    have group : more.builtGroup padded = fewer.builtGroup place := by
      rw [namesAbove, namesAbove] at names
      simp only [builtGroup, built, pathOf, List.map_reverse, names]
    rw [shapedMore.groupsBelow_eq insideMore, shapedFewer.groupsBelow_eq inside, group]
    congr 1
    refine filters.flatMap_eq _ _ (fun child _ hollow => shapedMore.groupsBelow_of_hollow hollow)
      fun child listed other among pads => ?_
    have below := ((shapedFewer.mem_childrenOf place child).mp listed).1
    have belowMore := ((shapedMore.mem_childrenOf padded other).mp among).1
    refine inductionHypothesis child listed pads (shapedFewer.lt_of_parentOf below).2
      (shapedMore.lt_of_parentOf belowMore).2 ?_
    obtain ⟨childName, -, -⟩ := pads
    have same : (more.node? other).toList.map (·.name) =
        (fewer.node? child).toList.map (·.name) := by
      rw [← Option.toList_map, ← Option.toList_map, childName]
    rw [namesAbove, namesAbove] at names
    rw [namesAbove, namesAbove, shapedFewer.ancestry_of_parentOf below,
      shapedMore.ancestry_of_parentOf belowMore, List.map_append, List.map_append, same, names]

include shapedFewer shapedMore in
/-- Trees that differ in excluded files only have the same groups. -/
theorem builtGroups_padded (pads : Pads fewer more root root) :
    more.builtGroups = fewer.builtGroups := by
  rw [shapedMore.builtGroups_eq, shapedFewer.builtGroups_eq]
  exact pads.groupsBelow_eq shapedFewer shapedMore shapedFewer.rooted shapedMore.rooted rfl

/-- The files that are not excluded are those of the groups, in some order. -/
theorem Shaped.builtGroups_perm {tree : FilterTree} (shaped : tree.Shaped) :
    (tree.builtGroups.flatMap (·.2)).Perm (tree.files.filter (!·.isExcluded)) := by
  have each : ∀ place, (tree.builtGroup place).flatMap (·.2) = tree.builtAt place := by
    intro place
    rw [builtGroup]
    split
    · next nothing => rw [nothing, List.flatMap_nil]
    · rw [List.flatMap_singleton]
  have gathered : tree.builtGroups.flatMap (·.2) =
      ((root :: tree.walk).flatMap tree.filesAt).filter (!·.isExcluded) := by
    rw [builtGroups, List.flatMap_assoc, List.filter_flatMap]
    simp only [each]
    rfl
  rw [gathered]
  exact shaped.depthFirst_walk.files_perm.filter _

/-- A tree has a file that is built as a unit of its own just if one of its groups has one. -/
theorem Shaped.any_isBuildUnit {tree : FilterTree} (shaped : tree.Shaped) :
    tree.files.any FileEntry.isBuildUnit =
      (tree.builtGroups.flatMap (·.2)).any FileEntry.isBuildUnit := by
  have included : ∀ file : FileEntry,
      file.isBuildUnit = (!file.isExcluded && file.isBuildUnit) := by
    intro file
    rw [FileEntry.isBuildUnit]
    cases file.isExcluded <;> rfl
  rw [shaped.builtGroups_perm.any_eq, List.any_filter]
  simp only [← included]

end Trees

end ProjectScribe.FilterTree
