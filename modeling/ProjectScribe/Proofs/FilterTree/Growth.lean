import Mathlib.Data.List.Basic
import Mathlib.Data.List.Induction
import ProjectScribe.Project.FilterTree

/-!
# How trees of filters grow

A tree starts as its root alone. Filters are added below places that the tree has, files are added
to nodes, and what a node says about itself is changed; nothing else happens to a tree. Trees that
come about in this way are `Grown`, and every one of them is `Shaped`: the root stands below
nothing, every other node stands below an earlier one, and the places below a node are exactly
those that name it as the node above them, in the order in which they were added.

Each operation is described by what it leaves at a place. Proofs about trees rest on these
descriptions and on the shape, not on the lists of nodes.
-/
namespace ProjectScribe.FilterTree

/-- A change that leaves a node where it is: what is above it and below it stays. -/
def KeepsPosition (change : FilterNode → FilterNode) : Prop :=
  ∀ node, (change node).parent = node.parent ∧ (change node).children = node.children

/-- The trees that the operations build. A filter comes without children, and below a place that
the tree has. -/
inductive Grown : FilterTree → Prop where
  | empty : Grown .empty
  | addChild {tree : FilterTree} (grown : Grown tree) (place : Nat) (node : FilterNode)
      (inside : place < tree.size) (childless : node.children = []) :
      Grown (tree.addChild place node)
  | modify {tree : FilterTree} (grown : Grown tree) (place : Nat)
      (change : FilterNode → FilterNode) (keeps : KeepsPosition change) :
      Grown (tree.modify place change)

/-- What all trees have in common that the operations build. -/
structure Shaped (tree : FilterTree) : Prop where
  rooted : root < tree.size
  top : tree.parentOf root = none
  above : ∀ place, place < tree.size → place ≠ root →
    ∃ parent, parent < place ∧ tree.parentOf place = some parent
  below : ∀ place, place < tree.size →
    tree.childrenOf place = (List.range tree.size).filter (tree.parentOf · = some place)

section Views

variable (tree : FilterTree)

/-- A tree has nodes exactly at the places below its size. -/
theorem node?_isSome (place : Nat) : (tree.node? place).isSome ↔ place < tree.size := by
  simp [node?, size]

/-- There is a node at every place of a tree. -/
theorem exists_node? (place : Nat) (inside : place < tree.size) :
    ∃ node, tree.node? place = some node :=
  Option.isSome_iff_exists.mp ((tree.node?_isSome place).mpr inside)

/-- Where a node is, there is a place of the tree. -/
theorem lt_size_of_node? {tree : FilterTree} {place : Nat} {node : FilterNode}
    (stands : tree.node? place = some node) : place < tree.size :=
  (tree.node?_isSome place).mp (Option.isSome_of_eq_some stands)

theorem node?_eq_none (place : Nat) : tree.node? place = none ↔ tree.size ≤ place := by
  simp [node?, size]

/-- Beyond its places a tree has no files. -/
theorem filesAt_eq_nil (place : Nat) (outside : tree.size ≤ place) : tree.filesAt place = [] := by
  simp [filesAt, (tree.node?_eq_none place).mpr outside]

/-- The tree with nothing but the root has no files. -/
theorem filesAt_empty (place : Nat) : empty.filesAt place = [] := by
  cases place <;> rfl

/-- The files of a tree are those of its places, place by place. -/
theorem files_eq_flatMap : tree.files = (List.range tree.size).flatMap tree.filesAt := by
  obtain ⟨nodes⟩ := tree
  change nodes.flatMap (·.files) = (List.range nodes.length).flatMap fun place =>
    ((nodes[place]?).map (·.files)).getD []
  induction nodes using List.reverseRecOn with
  | nil => rfl
  | append_singleton nodes last inductionHypothesis =>
    have earlier : ∀ place ∈ List.range nodes.length,
        (((nodes ++ [last])[place]?).map (·.files)).getD [] =
          ((nodes[place]?).map (·.files)).getD [] := by
      intro place inside
      rw [List.getElem?_append_left (List.mem_range.mp inside)]
    rw [List.flatMap_append, inductionHypothesis, List.length_append, List.length_singleton,
      List.range_succ, List.flatMap_append, List.flatMap_congr earlier]
    simp

end Views

section Modify

variable (tree : FilterTree) (place other : Nat) (change : FilterNode → FilterNode)

/-- A change that leaves a node where it is leaves the places above all nodes. -/
theorem parentOf_modify (keeps : KeepsPosition change) :
    (tree.modify place change).parentOf other = tree.parentOf other := by
  simp only [parentOf, node?_modify]
  split
  · cases tree.node? other <;> simp [(keeps _).1]
  · rfl

/-- A change that leaves a node where it is leaves the places below all nodes. -/
theorem childrenOf_modify (keeps : KeepsPosition change) :
    (tree.modify place change).childrenOf other = tree.childrenOf other := by
  simp only [childrenOf, node?_modify]
  split
  · cases tree.node? other <;> simp [(keeps _).2]
  · rfl

/-- A change that leaves the files of its node leaves the files of all nodes. -/
theorem filesAt_modify (keeps : ∀ node, (change node).files = node.files) :
    (tree.modify place change).filesAt other = tree.filesAt other := by
  simp only [filesAt, node?_modify]
  split
  · cases tree.node? other <;> simp [keeps]
  · rfl

/-- A file that is added comes last in its node, and no other node has it. -/
theorem filesAt_addFile (file : FileEntry) (inside : place < tree.size) :
    (tree.addFile place file).filesAt other =
      if place = other then tree.filesAt other ++ [file] else tree.filesAt other := by
  simp only [addFile, filesAt, node?_modify]
  split
  · next same =>
    subst same
    obtain ⟨node, found⟩ := tree.exists_node? place inside
    simp [found]
  · rfl

/-- Adding a file to a node leaves it where it is. -/
theorem keepsPosition_addFile (file : FileEntry) :
    KeepsPosition fun node => { node with files := node.files ++ [file] } :=
  fun _ => ⟨rfl, rfl⟩

end Modify

section AddChild

variable (tree : FilterTree) (parent other : Nat) (node : FilterNode)

/-- A new node stands at the first free place and in the list of the node above it; all other
nodes are as they were. -/
theorem node?_addChild (inside : parent < tree.size) :
    (tree.addChild parent node).node? other =
      if other = tree.size then some { node with parent := some parent }
      else if other = parent then (tree.node? other).map fun above =>
        { above with children := above.children ++ [tree.size] }
      else tree.node? other := by
  simp only [addChild, node?, List.getElem?_modify]
  by_cases new : other = tree.size
  · have apart : parent ≠ other := by omega
    subst new
    simp [size] at apart ⊢
    simp [apart]
  · have same : (tree.nodes ++ [{ node with parent := some parent }])[other]? =
        tree.nodes[other]? := by
      by_cases earlier : other < tree.nodes.length
      · exact List.getElem?_append_left earlier
      · have beyond : tree.nodes.length < other := by
          simp only [size] at new
          omega
        rw [List.getElem?_eq_none (by simp only [List.length_append, List.length_singleton]; omega),
          List.getElem?_eq_none (Nat.le_of_lt beyond)]
    rw [same, if_neg new]
    by_cases above : parent = other
    · simp [above]
    · simp [above, Ne.symm above]

theorem parentOf_addChild (inside : parent < tree.size) :
    (tree.addChild parent node).parentOf other =
      if other = tree.size then some parent else tree.parentOf other := by
  simp only [parentOf, node?_addChild tree parent other node inside]
  split
  · rfl
  · split
    · cases tree.node? other <;> rfl
    · rfl

theorem childrenOf_addChild (inside : parent < tree.size) (childless : node.children = []) :
    (tree.addChild parent node).childrenOf other =
      if other = parent then tree.childrenOf other ++ [tree.size] else tree.childrenOf other := by
  simp only [childrenOf, node?_addChild tree parent other node inside]
  by_cases new : other = tree.size
  · have apart : other ≠ parent := by omega
    have free : tree.node? other = none := (tree.node?_eq_none other).mpr (by omega)
    rw [if_pos new, if_neg apart, free]
    exact childless
  · by_cases above : other = parent
    · obtain ⟨found, stands⟩ :=
        tree.exists_node? parent inside
      have old : parent ≠ tree.size := by omega
      simp [above, stands, old]
    · simp [new, above]

/-- A new node brings its own files and leaves those of all others. -/
theorem filesAt_addChild (inside : parent < tree.size) :
    (tree.addChild parent node).filesAt other =
      if other = tree.size then node.files else tree.filesAt other := by
  simp only [filesAt, node?_addChild tree parent other node inside]
  split
  · rfl
  · split
    · cases tree.node? other <;> rfl
    · rfl

/-- A new node without files leaves the files of all places. -/
theorem filesAt_addChild_of_empty (inside : parent < tree.size) (empty : node.files = []) :
    (tree.addChild parent node).filesAt other = tree.filesAt other := by
  rw [filesAt_addChild tree parent other node inside]
  split
  · next new => rw [empty, new, filesAt_eq_nil tree tree.size (Nat.le_refl _)]
  · rfl

end AddChild

/-- The tree with nothing but the root is shaped. -/
theorem empty_shaped : Shaped empty where
  rooted := by decide
  top := rfl
  above := by
    intro place inside other
    simp only [empty, size, List.length_singleton, root] at inside other
    omega
  below := by
    intro place inside
    have isRoot : place = 0 := by
      simp only [empty, size, List.length_singleton] at inside
      omega
    subst isRoot
    rfl

/-- A new filter keeps the shape: it stands behind the node above it, and is the last of those
below that node. -/
theorem Shaped.addChild {tree : FilterTree} (shaped : tree.Shaped) (parent : Nat)
    (node : FilterNode) (inside : parent < tree.size) (childless : node.children = []) :
    (tree.addChild parent node).Shaped where
  rooted := by
    rw [size_addChild]
    exact Nat.lt_succ_of_lt shaped.rooted
  top := by
    have old : root ≠ tree.size := Nat.ne_of_lt shaped.rooted
    rw [parentOf_addChild tree parent root node inside, if_neg old, shaped.top]
  above := by
    intro place placed other
    rw [parentOf_addChild tree parent place node inside]
    split
    · next new => exact ⟨parent, by omega, rfl⟩
    · next old =>
      rw [size_addChild] at placed
      exact shaped.above place (by omega) other
  below := by
    intro place placed
    rw [size_addChild] at placed ⊢
    have earlier : ∀ child ∈ List.range tree.size,
        decide ((tree.addChild parent node).parentOf child = some place) =
          decide (tree.parentOf child = some place) := by
      intro child listed
      have old : child ≠ tree.size := Nat.ne_of_lt (List.mem_range.mp listed)
      rw [parentOf_addChild tree parent child node inside, if_neg old]
    rw [childrenOf_addChild tree parent place node inside childless, List.range_succ,
      List.filter_append, List.filter_congr earlier]
    have last : (tree.addChild parent node).parentOf tree.size = some parent := by
      rw [parentOf_addChild tree parent tree.size node inside, if_pos rfl]
    by_cases new : place = tree.size
    · -- Nothing stands below the new node yet.
      have childless : (List.range tree.size).filter (tree.parentOf · = some place) = [] := by
        rw [List.filter_eq_nil_iff]
        intro child listed
        have old : child < tree.size := List.mem_range.mp listed
        by_cases isRoot : child = root
        · simp [isRoot, shaped.top]
        · obtain ⟨actual, earlier, stands⟩ := shaped.above child old isRoot
          simp only [stands, Option.some.injEq, decide_eq_true_eq]
          omega
      have free : tree.childrenOf place = [] := by
        simp [childrenOf, (tree.node?_eq_none place).mpr (by omega)]
      have apart : place ≠ parent := by omega
      simp [childless, free, apart, last, Ne.symm apart]
    · rw [shaped.below place (by omega)]
      by_cases above : place = parent
      · simp [above, last]
      · simp [above, last, Ne.symm above]

/-- A change that leaves a node where it is keeps the shape. -/
theorem Shaped.modify {tree : FilterTree} (shaped : tree.Shaped) (place : Nat)
    (change : FilterNode → FilterNode) (keeps : KeepsPosition change) :
    (tree.modify place change).Shaped where
  rooted := by simpa using shaped.rooted
  top := (parentOf_modify tree place root change keeps).trans shaped.top
  above := by
    intro other inside notRoot
    rw [parentOf_modify tree place other change keeps]
    exact shaped.above other (by simpa using inside) notRoot
  below := by
    intro other inside
    simp only [childrenOf_modify tree place other change keeps, size_modify,
      parentOf_modify tree place _ change keeps]
    exact shaped.below other (by simpa using inside)

/-- Every tree that the operations build is shaped. -/
theorem Grown.shaped {tree : FilterTree} (grown : tree.Grown) : tree.Shaped := by
  induction grown with
  | empty => exact empty_shaped
  | addChild grown place node inside childless shaped =>
    exact shaped.addChild place node inside childless
  | modify grown place change keeps shaped => exact shaped.modify place change keeps

/-- A tree stays one that the operations build when a file is added. -/
theorem Grown.addFile {tree : FilterTree} (grown : tree.Grown) (place : Nat) (file : FileEntry) :
    (tree.addFile place file).Grown :=
  grown.modify place _ (keepsPosition_addFile file)

namespace Shaped

variable {tree : FilterTree} (shaped : tree.Shaped)

include shaped

/-- What stands below a place is what names it as the place above. -/
theorem mem_childrenOf (place child : Nat) :
    child ∈ tree.childrenOf place ↔ tree.parentOf child = some place ∧ place < tree.size := by
  by_cases inside : place < tree.size
  · rw [shaped.below place inside]
    have named : tree.parentOf child = some place → child < tree.size := by
      intro stands
      by_contra outside
      have absent : tree.node? child = none := (tree.node?_eq_none child).mpr (by omega)
      simp [parentOf, absent] at stands
    simp only [List.mem_filter, List.mem_range, decide_eq_true_eq, inside, and_true]
    exact ⟨fun listed => listed.2, fun stands => ⟨named stands, stands⟩⟩
  · have absent : tree.node? place = none := (tree.node?_eq_none place).mpr (by omega)
    simp [childrenOf, absent, inside]

/-- A place stands behind the place above it, and within the tree. -/
theorem lt_of_parentOf {place parent : Nat} (stands : tree.parentOf place = some parent) :
    parent < place ∧ place < tree.size := by
  have inside : place < tree.size := by
    by_contra outside
    have absent : tree.node? place = none := (tree.node?_eq_none place).mpr (by omega)
    simp [parentOf, absent] at stands
  have notRoot : place ≠ root := by
    rintro rfl
    simp [shaped.top] at stands
  obtain ⟨actual, earlier, named⟩ := shaped.above place inside notRoot
  have same : actual = parent := Option.some.inj (named.symm.trans stands)
  exact ⟨same ▸ earlier, inside⟩

/-- The places below a place come in the order in which they were added. -/
theorem childrenOf_increasing (place : Nat) : (tree.childrenOf place).Pairwise (· < ·) := by
  by_cases inside : place < tree.size
  · rw [shaped.below place inside]
    exact List.Pairwise.filter _ List.pairwise_lt_range
  · have absent : tree.node? place = none := (tree.node?_eq_none place).mpr (by omega)
    simp [childrenOf, absent]

end Shaped

end ProjectScribe.FilterTree
