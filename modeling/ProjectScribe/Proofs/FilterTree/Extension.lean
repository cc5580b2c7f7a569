import ProjectScribe.Proofs.FilterTree.Growth

/-!
# Trees that extend others

While files are read, a tree only gets more: nodes at new places, children behind those that a
node has, and files. What a node says about itself and what stands above it stays. So everything
that is found by going up from a place, or down along names, is found again in every extension.
-/
namespace ProjectScribe

/-- A node that says the same as another and has at least its children, first. -/
structure FilterNode.Extends (old new : FilterNode) : Prop where
  name : new.name = old.name
  isTracked : new.isTracked = old.isTracked
  parent : new.parent = old.parent
  children : old.children <+: new.children

namespace FilterTree

/-- A tree with all nodes of another at their places, each extended. -/
def Extends (old new : FilterTree) : Prop :=
  ∀ place node, old.node? place = some node →
    ∃ later, new.node? place = some later ∧ node.Extends later

namespace Extends

/-- Every tree extends itself. -/
theorem refl (tree : FilterTree) : Extends tree tree := by
  intro place node stands
  exact ⟨node, stands, rfl, rfl, rfl, List.prefix_rfl⟩

/-- An extension of an extension is one. -/
theorem trans {first second third : FilterTree} (left : Extends first second)
    (right : Extends second third) : Extends first third := by
  intro place node stands
  obtain ⟨between, standsBetween, extended⟩ := left place node stands
  obtain ⟨last, standsLast, further⟩ := right place between standsBetween
  refine ⟨last, standsLast, ?_, ?_, ?_, ?_⟩
  · exact further.name.trans extended.name
  · exact further.isTracked.trans extended.isTracked
  · exact further.parent.trans extended.parent
  · exact extended.children.trans further.children

/-- A new filter extends a tree. -/
theorem addChild (tree : FilterTree) (parent : Nat) (node : FilterNode)
    (inside : parent < tree.size) : Extends tree (tree.addChild parent node) := by
  intro place old stands
  have notNew : place ≠ tree.size := by
    have placed := lt_size_of_node? stands
    omega
  rw [tree.node?_addChild parent place node inside, if_neg notNew, stands]
  by_cases above : place = parent
  · rw [if_pos above]
    exact ⟨_, rfl, rfl, rfl, rfl, List.prefix_append _ _⟩
  · rw [if_neg above]
    exact ⟨old, rfl, rfl, rfl, rfl, List.prefix_rfl⟩

/-- A new file extends a tree. -/
theorem addFile (tree : FilterTree) (place : Nat) (file : FileEntry) :
    Extends tree (tree.addFile place file) := by
  intro other old stands
  rw [FilterTree.addFile, node?_modify, stands]
  by_cases same : place = other
  · rw [if_pos same]
    exact ⟨_, rfl, rfl, rfl, rfl, List.prefix_rfl⟩
  · rw [if_neg same]
    exact ⟨old, rfl, rfl, rfl, rfl, List.prefix_rfl⟩

variable {old new : FilterTree} (grows : Extends old new)

include grows

theorem size_le : old.size ≤ new.size := by
  by_contra fewer
  have inside : new.size < old.size := by omega
  obtain ⟨node, stands⟩ := old.exists_node? new.size inside
  obtain ⟨later, standsLater, -⟩ := grows new.size node stands
  have placed := lt_size_of_node? standsLater
  omega

/-- A place keeps the places below it, in front of new ones. -/
theorem childrenOf_prefix (place : Nat) : old.childrenOf place <+: new.childrenOf place := by
  cases stands : old.node? place with
  | none => simp [childrenOf, stands]
  | some node =>
    obtain ⟨later, standsLater, extended⟩ := grows place node stands
    simpa [childrenOf, stands, standsLater] using extended.children

/-- Going up from a place leads past the same filters. -/
theorem upwards_eq (shaped : old.Shaped) (steps place : Nat) (inside : place < old.size) :
    (new.upwards steps place).map (fun node => (node.name, node.isTracked)) =
      (old.upwards steps place).map fun node => (node.name, node.isTracked) := by
  induction steps generalizing place with
  | zero => rfl
  | succ steps inductionHypothesis =>
    obtain ⟨node, stands⟩ := old.exists_node? place inside
    obtain ⟨later, standsLater, extended⟩ := grows place node stands
    rw [upwards, upwards]
    by_cases isRoot : place = root
    · rw [if_pos isRoot, if_pos isRoot]
    · rw [if_neg isRoot, if_neg isRoot]
      simp only [stands, standsLater, extended.parent]
      cases named : node.parent with
      | none => simp [extended.name, extended.isTracked]
      | some parent =>
        have above : old.parentOf place = some parent := by
          rw [parentOf, stands, Option.bind_some, named]
        have earlier := shaped.lt_of_parentOf above
        simp only [List.map_cons, extended.name, extended.isTracked]
        rw [inductionHypothesis parent (by omega)]

end Extends

end FilterTree

end ProjectScribe
