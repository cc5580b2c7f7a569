import ProjectScribe.Proofs.FilterTree.Padding
import ProjectScribe.Proofs.Text.Letters

/-!
# Keys of filters

The key of a filter is its path without case: the names from below the root down to it, in lower
case. A filter keeps its key for as long as the names and the nodes above stay. Where no two filters
with one node above them agree in their names up to case, a key belongs to one filter only.
-/
namespace ProjectScribe.FilterTree

/-- The names from below the root down to a place, without case. -/
def keyAt (tree : FilterTree) (place : Nat) : List String :=
  (tree.ancestry place).reverse.map fun node => Text.lower node.name

/-- Two places below one place differ in their names by more than case. -/
def SiblingsApart (tree : FilterTree) : Prop :=
  ∀ first second parent (node other : FilterNode), tree.parentOf first = some parent →
    tree.parentOf second = some parent → tree.node? first = some node →
    tree.node? second = some other → Text.lower node.name = Text.lower other.name → first = second

/-- A tree in which all nodes of another keep their places, their names and what is above them. -/
def KeepsNames (old new : FilterTree) : Prop :=
  ∀ place node, old.node? place = some node →
    ∃ later, new.node? place = some later ∧ later.name = node.name ∧ later.parent = node.parent

/-- The root has no names above it. -/
@[simp] theorem keyAt_root (tree : FilterTree) : tree.keyAt root = [] := rfl

/-- The path of a filter, without case, is its key with backslashes. -/
theorem lower_pathOf (tree : FilterTree) (place : Nat) :
    Text.lower (tree.pathOf place) = "\\".intercalate (tree.keyAt place) := by
  rw [pathOf, Text.lower_intercalate, keyAt, List.map_map]
  rfl

namespace Shaped

variable {tree : FilterTree} (shaped : tree.Shaped)

include shaped

/-- The key of a filter is that of the place above it with its own name behind. -/
theorem keyAt_of_parentOf {place parent : Nat} {node : FilterNode}
    (above : tree.parentOf place = some parent) (stands : tree.node? place = some node) :
    tree.keyAt place = tree.keyAt parent ++ [Text.lower node.name] := by
  rw [keyAt, shaped.ancestry_of_parentOf above, stands]
  simp [keyAt]

/-- A place of a tree is the root, or a node that stands below an earlier place. -/
theorem root_or_below {place : Nat} (inside : place < tree.size) :
    place = root ∨ ∃ parent node, parent < place ∧ tree.parentOf place = some parent ∧
      tree.node? place = some node := by
  by_cases isRoot : place = root
  · exact .inl isRoot
  · obtain ⟨parent, earlier, above⟩ := shaped.above place inside isRoot
    obtain ⟨node, stands⟩ := tree.exists_node? place inside
    exact .inr ⟨parent, node, earlier, above, stands⟩

/-- Where siblings are apart, a key belongs to one place only. -/
theorem eq_of_keyAt (apart : tree.SiblingsApart) {first second : Nat}
    (inside : first < tree.size) (insideToo : second < tree.size)
    (same : tree.keyAt first = tree.keyAt second) : first = second := by
  induction first using Nat.strongRecOn generalizing second with
  | ind first inductionHypothesis =>
    rcases shaped.root_or_below inside with rfl | ⟨parent, node, earlier, above, stands⟩
    · rcases shaped.root_or_below insideToo with rfl | ⟨_, _, _, aboveToo, standsToo⟩
      · rfl
      · rw [shaped.keyAt_of_parentOf aboveToo standsToo] at same
        simp at same
    · rcases shaped.root_or_below insideToo with rfl | ⟨parentToo, _, _, aboveToo, standsToo⟩
      · rw [shaped.keyAt_of_parentOf above stands] at same
        simp at same
      · rw [shaped.keyAt_of_parentOf above stands, shaped.keyAt_of_parentOf aboveToo standsToo,
          List.append_singleton_inj] at same
        obtain ⟨keys, names⟩ := same
        have behind := shaped.lt_of_parentOf aboveToo
        have one := inductionHypothesis parent earlier (by omega) (by omega) keys
        subst one
        exact apart first second parent _ _ above aboveToo stands standsToo names

end Shaped

section Kept

/-- Every tree keeps its names. -/
theorem KeepsNames.refl (tree : FilterTree) : KeepsNames tree tree :=
  fun _ node stands => ⟨node, stands, rfl, rfl⟩

/-- What is kept twice is kept. -/
theorem KeepsNames.trans {first second third : FilterTree} (left : KeepsNames first second)
    (right : KeepsNames second third) : KeepsNames first third := by
  intro place node stands
  obtain ⟨between, standsBetween, name, parent⟩ := left place node stands
  obtain ⟨last, standsLast, nameLast, parentLast⟩ := right place between standsBetween
  exact ⟨last, standsLast, nameLast.trans name, parentLast.trans parent⟩

/-- A place stays a place where all names are kept. -/
theorem KeepsNames.lt_size {old new : FilterTree} (keeps : KeepsNames old new) {place : Nat}
    (inside : place < old.size) : place < new.size := by
  obtain ⟨node, stands⟩ := old.exists_node? place inside
  obtain ⟨later, standsLater, -⟩ := keeps place node stands
  exact lt_size_of_node? standsLater

/-- A place keeps its key if all nodes keep their names and what is above them. -/
theorem KeepsNames.keyAt_eq {old new : FilterTree} (keeps : KeepsNames old new)
    (shaped : old.Shaped) (shapedNew : new.Shaped) {place : Nat} (inside : place < old.size) :
    new.keyAt place = old.keyAt place := by
  induction place using Nat.strongRecOn with
  | ind place inductionHypothesis =>
    rcases shaped.root_or_below inside with rfl | ⟨parent, node, earlier, above, stands⟩
    · rfl
    · obtain ⟨later, standsLater, name, parentLater⟩ := keeps place node stands
      have aboveLater : new.parentOf place = some parent := by
        rw [parentOf, stands, Option.bind_some] at above
        rw [parentOf, standsLater, Option.bind_some, parentLater, above]
      rw [shaped.keyAt_of_parentOf above stands, shapedNew.keyAt_of_parentOf aboveLater standsLater,
        inductionHypothesis parent earlier (by omega), name]

variable (tree : FilterTree)

/-- A new filter leaves the names of all others. -/
theorem KeepsNames.addChild (parent : Nat) (node : FilterNode) (inside : parent < tree.size) :
    KeepsNames tree (tree.addChild parent node) := by
  intro place old stands
  have notNew : place ≠ tree.size := by
    have placed := lt_size_of_node? stands
    omega
  rw [tree.node?_addChild parent place node inside, if_neg notNew, stands]
  by_cases above : place = parent
  · rw [if_pos above]
    exact ⟨_, rfl, rfl, rfl⟩
  · rw [if_neg above]
    exact ⟨old, rfl, rfl, rfl⟩

/-- A change that leaves name and position of its node leaves those of all nodes. -/
theorem KeepsNames.modify (place : Nat) (change : FilterNode → FilterNode)
    (position : KeepsPosition change) (name : ∀ node, (change node).name = node.name) :
    KeepsNames tree (tree.modify place change) := by
  intro other node stands
  rw [node?_modify, stands]
  by_cases here : place = other
  · rw [if_pos here]
    exact ⟨change node, rfl, name node, (position node).1⟩
  · rw [if_neg here]
    exact ⟨node, rfl, rfl, rfl⟩

/-- The key of a new filter is that of the place above it with its name behind. -/
theorem keyAt_addChild {tree : FilterTree} (shaped : tree.Shaped) (parent : Nat)
    (node : FilterNode) (inside : parent < tree.size) (childless : node.children = []) :
    (tree.addChild parent node).keyAt tree.size = tree.keyAt parent ++ [Text.lower node.name] := by
  have shapedNew := shaped.addChild parent node inside childless
  have above : (tree.addChild parent node).parentOf tree.size = some parent := by
    rw [tree.parentOf_addChild parent tree.size node inside, if_pos rfl]
  have stands : (tree.addChild parent node).node? tree.size =
      some { node with parent := some parent } := by
    rw [tree.node?_addChild parent tree.size node inside, if_pos rfl]
  rw [shapedNew.keyAt_of_parentOf above stands,
    (KeepsNames.addChild tree parent node inside).keyAt_eq shaped shapedNew inside]

/-- Siblings stay apart if the nodes keep their names and no place is added. -/
theorem SiblingsApart.of_keepsNames {old new : FilterTree} (apart : old.SiblingsApart)
    (keeps : KeepsNames old new) (size : new.size = old.size) : new.SiblingsApart := by
  have before : ∀ place node, new.node? place = some node →
      ∃ earlier, old.node? place = some earlier ∧ earlier.name = node.name ∧
        earlier.parent = node.parent := by
    intro place node stands
    have inside : place < old.size := by
      rw [← size]
      exact lt_size_of_node? stands
    obtain ⟨earlier, stood⟩ := old.exists_node? place inside
    obtain ⟨later, standsLater, name, parent⟩ := keeps place earlier stood
    obtain rfl := Option.some.inj (stands.symm.trans standsLater)
    exact ⟨earlier, stood, name.symm, parent.symm⟩
  intro first second parent node other above aboveToo stands standsToo same
  obtain ⟨earlier, stood, name, parentStood⟩ := before first node stands
  obtain ⟨earlierToo, stoodToo, nameToo, parentStoodToo⟩ := before second other standsToo
  rw [parentOf, stands, Option.bind_some] at above
  rw [parentOf, standsToo, Option.bind_some] at aboveToo
  refine apart first second parent earlier earlierToo ?_ ?_ stood stoodToo ?_
  · rw [parentOf, stood, Option.bind_some, parentStood, above]
  · rw [parentOf, stoodToo, Option.bind_some, parentStoodToo, aboveToo]
  · rw [name, nameToo, same]

/-- Siblings stay apart when a filter is added below a place where none has its name. -/
theorem SiblingsApart.addChild {tree : FilterTree} (apart : tree.SiblingsApart) (parent : Nat)
    (node : FilterNode) (inside : parent < tree.size)
    (unnamed : ∀ child other, tree.parentOf child = some parent → tree.node? child = some other →
      Text.lower other.name ≠ Text.lower node.name) :
    (tree.addChild parent node).SiblingsApart := by
  have old : ∀ place, place ≠ tree.size → ∀ later,
      (tree.addChild parent node).node? place = some later →
      ∃ earlier, tree.node? place = some earlier ∧ earlier.name = later.name := by
    intro place notNew later stands
    rw [tree.node?_addChild parent place node inside, if_neg notNew] at stands
    split at stands
    · obtain ⟨earlier, stood, rfl⟩ := Option.map_eq_some_iff.mp stands
      exact ⟨earlier, stood, rfl⟩
    · exact ⟨later, stands, rfl⟩
  have new : ∀ later, (tree.addChild parent node).node? tree.size = some later →
      later.name = node.name := by
    intro later stands
    rw [tree.node?_addChild parent tree.size node inside, if_pos rfl] at stands
    rw [← Option.some.inj stands]
  intro first second above one other named namedToo stands standsToo same
  rw [tree.parentOf_addChild parent first node inside] at named
  rw [tree.parentOf_addChild parent second node inside] at namedToo
  by_cases isNew : first = tree.size
  · by_cases isNewToo : second = tree.size
    · rw [isNew, isNewToo]
    · -- The new filter would have the name of one that is there.
      obtain ⟨earlier, stood, name⟩ := old second isNewToo other standsToo
      rw [if_neg isNewToo] at namedToo
      rw [if_pos isNew] at named
      subst isNew
      rw [new one stands, ← name] at same
      rw [← Option.some.inj named] at namedToo
      exact absurd same.symm (unnamed second earlier namedToo stood)
  · obtain ⟨earlier, stood, name⟩ := old first isNew one stands
    rw [if_neg isNew] at named
    by_cases isNewToo : second = tree.size
    · rw [if_pos isNewToo] at namedToo
      subst isNewToo
      rw [new other standsToo, ← name] at same
      rw [← Option.some.inj namedToo] at named
      exact absurd same (unnamed first earlier named stood)
    · obtain ⟨earlierToo, stoodToo, nameToo⟩ := old second isNewToo other standsToo
      rw [if_neg isNewToo] at namedToo
      rw [← name, ← nameToo] at same
      exact apart first second above earlier earlierToo named namedToo stood stoodToo same

end Kept

end ProjectScribe.FilterTree
